/-
  File:      RetroBridge/Transport/Closing.lean
  Subject:   CLOSING A CONNECTION (retrobridge/transport.py: `_SocketWrapper.close`;
             retrobridge/terminal/utils.py: `_close_bridge_resources`).

  * `Held` -- the wrapper with its socket; `Held.close`, `Held.closeBridgeResources`;
  * `Held.exec` -- every call on it, those after a close too;
  * `Detects` -- the calls that find the connection dead: they clear the flags a close decides from,
    and leave the socket open; `Held.call_isOpen`: nothing else clears them;
  * `Closes`, `closes_iff` -- **a close releases the socket exactly when the first close of the run
    came before any call that found the connection dead.**
-/
import RetroBridge.Transport.Socket

namespace RetroBridge.Transport

/-! ## 1. The wrapper and its socket -/

/-- `try: ... except OSError: pass`. -/
def passed (r : Except String Unit) : Except String Unit := tryCatch r fun _ => pure ()

/-- **A wrapper that holds its socket**; `released` says that the socket has been closed. -/
structure Held where
  wrapper : SocketWrapper
  released : Bool
  deriving DecidableEq, Repr

/-- The ways to close: `close`, or `_close_bridge_resources` of the bridge that holds the wrapper;
    each with what `shutdown` and `close` of the socket answer, a text for an OSError. -/
inductive Closing where
  | close (shutdown closed : Except String Unit)
  | bridge (shutdown closed : Except String Unit)

/-- A call on a wrapper that holds its socket. -/
inductive HeldCall where
  | call (c : Call)
  | closing (k : Closing)

/-- `read` when the socket has been closed: `select` raises a ValueError, which `read` does not
    catch. -/
def SocketWrapper.readReleased (w : SocketWrapper) (size : Nat) : Done (List UInt8) :=
  if w.eof = true then w.raiseClosed
  else if w.buf ≠ [] ∧ size ≤ (w.taken size).length then ⟨.ok (w.taken size), [], w.took size⟩
  else ⟨.error "file descriptor cannot be a negative integer (-1)", [], w.took size⟩

namespace Held

/-- The wrapper around a socket that has just been connected, with what was received while
    opening. -/
def start (name : String) (initial : List UInt8) : Held :=
  ⟨{ SocketWrapper.new name with buf := initial }, false⟩

variable (s : Held)

/-- **`close`**: what leaves it, and what it leaves. A socket whose `close` raises is closed. -/
def close (shutdown closed : Except String Unit) : Except String Unit × Held :=
  if s.wrapper.isOpen = false then (.ok (), s)
  else
    (do
      passed shutdown
      passed closed,
      ⟨{ s.wrapper with isOpen := false }, true⟩)

/-- **`_close_bridge_resources`** on the bridge's connection: an exception of `close` is logged. -/
def closeBridgeResources (shutdown closed : Except String Unit) : Except String Unit × Held :=
  if s.wrapper.isOpen = true then
    (passed (s.close shutdown closed).1, (s.close shutdown closed).2)
  else (.ok (), s)

def closeWith : Closing → Except String Unit × Held
  | .close shutdown closed => s.close shutdown closed
  | .bridge shutdown closed => s.closeBridgeResources shutdown closed

/-- **`in_waiting`, `read` and `write`**; a closed socket answers each of them with an error. -/
def call : Call → Held
  | .inWaiting a =>
    { s with wrapper := (s.wrapper.inWaiting (if s.released then .error else a)).wrapper }
  | .read size a =>
    { s with
      wrapper :=
        (if s.released then s.wrapper.readReleased size else s.wrapper.read size a).wrapper }
  | .write data failed =>
    let failed := if s.released then some "[Errno 9] Bad file descriptor" else failed
    { s with wrapper := (s.wrapper.write data failed).wrapper }

/-- **Any call.** -/
def exec : HeldCall → Held
  | .call c => s.call c
  | .closing k => (s.closeWith k).2

/-- A run of calls. -/
def run (cs : List HeldCall) : Held := cs.foldl exec s

end Held

/-- **What a close owes** after these calls: it raises nothing, the socket has been closed, and
    `is_open` never becomes True again. -/
structure Closes (s : Held) (cs : List HeldCall) (k : Closing) : Prop where
  silent : ((s.run cs).closeWith k).1 = .ok ()
  released : ((s.run cs).exec (.closing k)).released = true
  shut : ∀ later, (s.run (cs ++ .closing k :: later)).wrapper.isOpen = false

/-- **The call finds the connection dead**: an end of the stream with nothing left to return, an
    error of the socket, a failed write, or one of these found before. -/
def Detects (w : SocketWrapper) : Call → Prop
  | .inWaiting a => w.buf = [] ∧ (w.eof = true ∨ a = .error ∨ a = .arrived [])
  | .read size a =>
    w.eof = true ∨ (w.buf = [] ∨ w.buf.length < size) ∧
      (a = .error ∨ w.buf = [] ∧ ∃ bytes, a = .arrived bytes ∧ (bytes = [] ∨ size = 0))
  | .write _ failed => w.eof = true ∨ failed ≠ none

/-- **No call found the connection dead before the first close.** -/
def ClosedInTime : Held → List HeldCall → Prop
  | _, [] => True
  | _, .closing _ :: _ => True
  | s, .call c :: cs => ¬Detects s.wrapper c ∧ ClosedInTime (s.call c) cs

/-! ## 2. What the calls do to the flags -/

namespace SocketWrapper

variable {w : SocketWrapper} {size : Nat} {a : Answer}

theorem inWaiting_isOpen :
    ((w.inWaiting a).wrapper.isOpen = true ↔ w.isOpen = true ∧ ¬Detects w (.inWaiting a)) := by
  unfold inWaiting
  by_cases hbuf : w.buf = []
  · have hdetects : Detects w (.inWaiting a) ↔ w.eof = true ∨ a = .error ∨ a = .arrived [] :=
      and_iff_right hbuf
    rw [hdetects, if_neg (not_not.mpr hbuf)]
    by_cases heof : w.eof = true
    · rw [if_pos heof]
      exact iff_of_false Bool.false_ne_true fun h => h.2 (Or.inl heof)
    · rw [if_neg heof]
      cases a with
      | silent => simp [heof]
      | blocking => simp [heof]
      | error => exact iff_of_false Bool.false_ne_true fun h => h.2 (Or.inr (Or.inl rfl))
      | arrived bytes =>
          dsimp only
          cases bytes with
          | nil => exact iff_of_false Bool.false_ne_true fun h => h.2 (Or.inr (Or.inr rfl))
          | cons b bytes => simp [heof]
  · rw [if_pos hbuf]
    exact (and_iff_left fun h => hbuf h.1).symm

theorem write_isOpen {data : List UInt8} {failed : Option String} :
    ((w.write data failed).wrapper.isOpen = true ↔
      w.isOpen = true ∧ ¬Detects w (.write data failed)) := by
  unfold write
  by_cases heof : w.eof = true
  · rw [if_pos heof]
    exact iff_of_false Bool.false_ne_true fun h => h.2 (Or.inl heof)
  · rw [if_neg heof]
    cases failed with
    | none => exact (and_iff_left fun h => h.elim heof fun hne => hne rfl).symm
    | some e =>
        exact iff_of_false Bool.false_ne_true fun h => h.2 (Or.inr (Option.some_ne_none e))

/-- A read goes on to the socket when the buffer is empty or too short. -/
theorem not_full_iff :
    ¬(w.buf ≠ [] ∧ size ≤ (w.taken size).length) ↔ w.buf = [] ∨ w.buf.length < size := by
  unfold taken
  split_ifs with hle
  · rw [List.length_take, Nat.min_eq_left hle]
    simp [Nat.not_lt.mpr hle]
  · simp [Nat.lt_of_not_le hle]

/-- What such a read has taken is the buffer. -/
theorem taken_of_not_full (h : w.buf = [] ∨ w.buf.length < size) : w.taken size = w.buf :=
  taken_of_empty (took_empty (not_full_iff.mpr h))

theorem read_isOpen :
    ((w.read size a).wrapper.isOpen = true ↔ w.isOpen = true ∧ ¬Detects w (.read size a)) := by
  unfold read
  by_cases heof : w.eof = true
  · rw [if_pos heof]
    exact iff_of_false Bool.false_ne_true fun h => h.2 (Or.inl heof)
  rw [if_neg heof]
  by_cases hfull : w.buf ≠ [] ∧ size ≤ (w.taken size).length
  · rw [if_pos hfull]
    refine (and_iff_left ?_).symm
    rintro (h | ⟨hshort, -⟩)
    · exact heof h
    · exact not_full_iff.mpr hshort hfull
  · rw [if_neg hfull]
    have hshort := not_full_iff.mp hfull
    have htaken := taken_of_not_full hshort
    -- a read that has emptied the buffer ends with what the socket answers
    have hdetects : Detects w (.read size a) ↔ a = .error ∨
        w.buf = [] ∧ ∃ bytes, a = .arrived bytes ∧ (bytes = [] ∨ size = 0) := by
      show w.eof = true ∨ _ ∧ _ ↔ _
      rw [or_iff_right heof, and_iff_right hshort]
    rw [hdetects]
    cases a with
    | silent => simp [took]
    | blocking => simp [took]
    | error => exact iff_of_false Bool.false_ne_true fun h => h.2 (Or.inl rfl)
    | arrived bytes =>
        dsimp only
        split_ifs with hchunk hsome
        · refine (and_iff_left ?_).symm
          rintro (h | ⟨hbuf, bytes', h, hnone⟩)
          · cases h
          · cases h
            refine hchunk ?_
            rw [htaken, hbuf, List.length_nil, Nat.sub_zero]
            rcases hnone with hnone | hnone
            · rw [hnone, List.take_nil]
            · rw [hnone, List.take_zero]
        · refine (and_iff_left ?_).symm
          rintro (h | ⟨hbuf, -⟩)
          · cases h
          · exact hsome (htaken.trans hbuf)
        · rw [not_not] at hchunk hsome
          have hbuf : w.buf = [] := htaken.symm.trans hsome
          refine iff_of_false Bool.false_ne_true fun h => h.2 (Or.inr ⟨hbuf, bytes, rfl, ?_⟩)
          rw [htaken, hbuf, List.length_nil, Nat.sub_zero, List.take_eq_nil_iff] at hchunk
          exact hchunk.symm

end SocketWrapper

namespace Held

variable {s : Held}

/-- **Before a close only a dead connection clears the flags**, and no call releases the socket. -/
theorem call_isOpen (hs : s.released = false) (c : Call) :
    ((s.call c).wrapper.isOpen = true ↔ s.wrapper.isOpen = true ∧ ¬Detects s.wrapper c) := by
  cases c with
  | inWaiting a =>
      simp only [call, hs, Bool.false_eq_true, if_false]
      exact SocketWrapper.inWaiting_isOpen
  | read size a =>
      simp only [call, hs, Bool.false_eq_true, if_false]
      exact SocketWrapper.read_isOpen
  | write data failed =>
      simp only [call, hs, Bool.false_eq_true, if_false]
      exact SocketWrapper.write_isOpen

@[simp] theorem call_released (c : Call) : (s.call c).released = s.released := by
  cases c <;> rfl

/-- A closed wrapper stays closed under every call of its own. -/
theorem call_shut (h : s.wrapper.isOpen = false) (c : Call) :
    (s.call c).wrapper.isOpen = false := by
  cases c with
  | inWaiting a =>
      refine Bool.eq_false_iff.mpr fun hopen => ?_
      rw [(SocketWrapper.inWaiting_isOpen.mp hopen).1] at h
      cases h
  | write data failed =>
      refine Bool.eq_false_iff.mpr fun hopen => ?_
      rw [(SocketWrapper.write_isOpen.mp hopen).1] at h
      cases h
  | read size a =>
      show (if s.released = true then s.wrapper.readReleased size
        else s.wrapper.read size a).wrapper.isOpen = false
      split_ifs with hreleased
      · unfold SocketWrapper.readReleased
        split_ifs
        · rfl
        · exact h
        · exact h
      · refine Bool.eq_false_iff.mpr fun hopen => ?_
        rw [(SocketWrapper.read_isOpen.mp hopen).1] at h
        cases h

@[simp] theorem passed_ok (r : Except String Unit) : passed r = .ok () := by cases r <;> rfl

theorem closeWith_open (h : s.wrapper.isOpen = true) (k : Closing) :
    s.closeWith k = (.ok (), ⟨{ s.wrapper with isOpen := false }, true⟩) := by
  cases k with
  | close shutdown closed =>
      simp only [closeWith, close, h, Bool.true_eq_false, if_false, passed_ok]
      rfl
  | bridge shutdown closed =>
      simp only [closeWith, closeBridgeResources, close, h, Bool.true_eq_false, if_false, if_true,
        passed_ok]

theorem closeWith_shut (h : s.wrapper.isOpen = false) (k : Closing) :
    s.closeWith k = (.ok (), s) := by
  cases k <;> simp [closeWith, closeBridgeResources, close, h]

/-- **A closed wrapper stays as it is**: no call opens it again or releases its socket. -/
theorem run_shut (cs : List HeldCall) : ∀ {s : Held}, s.wrapper.isOpen = false →
    (s.run cs).wrapper.isOpen = false ∧ (s.run cs).released = s.released := by
  induction cs with
  | nil => exact fun h => ⟨h, rfl⟩
  | cons c cs ih =>
      intro s h
      cases c with
      | call c =>
          obtain ⟨hshut, hreleased⟩ := ih (call_shut h c)
          exact ⟨hshut, hreleased.trans (call_released c)⟩
      | closing k =>
          have hsame : s.exec (.closing k) = s := congrArg Prod.snd (closeWith_shut h k)
          show ((s.exec (.closing k)).run cs).wrapper.isOpen = false ∧
            ((s.exec (.closing k)).run cs).released = s.released
          rw [hsame]
          exact ih h

/-- A close raises nothing and leaves the wrapper closed. -/
theorem closeWith_silent (s : Held) (k : Closing) :
    (s.closeWith k).1 = .ok () ∧ (s.closeWith k).2.wrapper.isOpen = false := by
  by_cases h : s.wrapper.isOpen = true
  · rw [closeWith_open h]
    exact ⟨rfl, rfl⟩
  · have hshut := Bool.eq_false_iff.mpr h
    rw [closeWith_shut hshut]
    exact ⟨rfl, hshut⟩

/-! ## 3. Every run -/

/-- A call after a run is a longer run. -/
theorem exec_run (cs : List HeldCall) (c : HeldCall) : (s.run cs).exec c = s.run (cs ++ [c]) := by
  rw [run, run, List.foldl_append]
  rfl

/-- **The socket of an open wrapper is released exactly by a close in time**: the induction is on
    the calls up to the first close, or to the first that finds the connection dead. -/
theorem released_iff (k : Closing) (cs : List HeldCall) : ∀ {s : Held}, s.wrapper.isOpen = true →
    s.released = false → (((s.run cs).exec (.closing k)).released = true ↔ ClosedInTime s cs) := by
  induction cs with
  | nil =>
      intro s hopen _
      refine iff_of_true ?_ trivial
      exact congrArg (fun r : Except String Unit × Held => r.2.released) (closeWith_open hopen k)
  | cons c cs ih =>
      intro s hopen hreleased
      cases c with
      | closing k' =>
          -- the first close; the rest of the run and the last close change nothing
          have hfirst : s.exec (.closing k') = ⟨{ s.wrapper with isOpen := false }, true⟩ :=
            congrArg Prod.snd (closeWith_open hopen k')
          have hrest := run_shut (cs ++ [.closing k]) (s := s.exec (.closing k')) (by rw [hfirst])
          refine iff_of_true ?_ trivial
          rw [exec_run]
          show ((s.exec (.closing k')).run (cs ++ [.closing k])).released = true
          rw [hrest.2, hfirst]
      | call c =>
          have hflag := call_isOpen hreleased c
          by_cases hdead : Detects s.wrapper c
          · have hshut : (s.call c).wrapper.isOpen = false :=
              Bool.eq_false_iff.mpr fun h => (hflag.mp h).2 hdead
            have hrest := run_shut (cs ++ [.closing k]) hshut
            refine iff_of_false (fun h => ?_) fun h => h.1 hdead
            rw [exec_run] at h
            change ((s.call c).run (cs ++ [.closing k])).released = true at h
            rw [hrest.2, call_released, hreleased] at h
            cases h
          · have hnext := ih (hflag.mpr ⟨hopen, hdead⟩) ((call_released c).trans hreleased)
            exact hnext.trans (and_iff_right hdead).symm

end Held

/-- **A CLOSE RELEASES THE SOCKET EXACTLY WHEN IT COMES IN TIME**: for every run of calls on a
    wrapper and every way to close it after them. -/
theorem closes_iff (name : String) (initial : List UInt8) (cs : List HeldCall) (k : Closing) :
    Closes (Held.start name initial) cs k ↔ ClosedInTime (Held.start name initial) cs := by
  have hreleased := @Held.released_iff k cs (Held.start name initial) rfl rfl
  refine ⟨fun h => hreleased.mp h.released, fun h => ?_⟩
  have hend := Held.closeWith_silent ((Held.start name initial).run cs) k
  refine ⟨hend.1, hreleased.mpr h, fun later => ?_⟩
  have hlater := (Held.run_shut later hend.2).1
  rw [Held.run, List.foldl_append]
  exact hlater

/-- **A peer that hangs up keeps the socket open**: the poll that sees the end of the stream clears
    the flags, and the bridge's teardown leaves the socket alone. -/
theorem hangup_leaks : ¬∀ (name : String) (initial : List UInt8) (cs : List HeldCall) (k : Closing),
    Closes (Held.start name initial) cs k := by
  intro h
  have hclosed := (h "tcp://h:1" [] [.call (.inWaiting (.arrived []))]
    (.bridge (.ok ()) (.ok ()))).released
  exact absurd hclosed (by decide)

end RetroBridge.Transport
