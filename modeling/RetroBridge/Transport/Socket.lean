/-
  File:      RetroBridge/Transport/Socket.lean
  Subject:   THE SOCKET WRAPPER (retrobridge/transport.py: `_SocketWrapper`) and what its calls
             deliver of the bytes that arrive.

  * `SocketWrapper.inWaiting`, `read`, `write` -- the calls, each with what the socket answers it;
  * `Delivery` -- the wrapper with what it has received and returned, and the log of its calls;
  * `Delivers` -- the returned bytes are the first of the received ones, a read keeps to its size,
    what `in_waiting` promises can be read, and after an exception nothing is left;
  * `delivers_of_endures` -- **a run delivers** as long as no socket error meets a read that has
    emptied the buffer without filling its size, and no failed write meets a buffer with bytes;
    `lost_of_not_endures`: every such call loses bytes.
-/
import RetroBridge.Library.Run
import RetroBridge.Transport.Telnet
import Mathlib.Algebra.Ring.Nat

namespace RetroBridge.Transport

open Transition

/-! ## 1. The calls -/

/-- How the socket answers `select` and `recv`: nothing to receive, what has arrived -- no bytes at
    the end of the stream --, a BlockingIOError or another OSError. -/
inductive Answer where
  | silent
  | arrived (bytes : List UInt8)
  | blocking
  | error
  deriving DecidableEq, Repr

/-- **`_SocketWrapper`**; `_open` and `is_open` are always set together. -/
structure SocketWrapper where
  name : String
  buf : List UInt8
  eof : Bool
  isOpen : Bool
  deriving DecidableEq, Repr

/-- How a call ends: its result or the text of its SerialException, what it received, and the
    wrapper after it. -/
structure Done (α : Type) where
  result : Except String α
  received : List UInt8
  wrapper : SocketWrapper

namespace SocketWrapper

/-- The wrapper around a socket that has just been connected. -/
def new (name : String) : SocketWrapper := ⟨name, [], false, true⟩

/-- The wrapper after `_raise_closed` or a failed write. -/
def closed (w : SocketWrapper) : SocketWrapper := { w with eof := true, isOpen := false }

/-- `_raise_closed`. -/
def raiseClosed {α : Type} (w : SocketWrapper) : Done α :=
  ⟨.error (w.name ++ ": connection closed"), [], w.closed⟩

/-- **`in_waiting`**: the buffer, or what can be received without waiting. -/
def inWaiting (w : SocketWrapper) (a : Answer) : Done Nat :=
  if w.buf ≠ [] then ⟨.ok w.buf.length, [], w⟩
  else if w.eof = true then w.raiseClosed
  else
    match a with
    | .silent | .blocking => ⟨.ok 0, [], w⟩
    | .arrived bytes =>
      let chunk := bytes.take 4096
      if chunk ≠ [] then ⟨.ok (w.buf ++ chunk).length, chunk, { w with buf := w.buf ++ chunk }⟩
      else w.raiseClosed
    | .error => w.raiseClosed

/-- What a read of this size takes from the buffer. -/
def taken (w : SocketWrapper) (size : Nat) : List UInt8 :=
  if size ≤ w.buf.length then w.buf.take size else w.buf

/-- The wrapper without the bytes a read has taken. -/
def took (w : SocketWrapper) (size : Nat) : SocketWrapper :=
  { w with buf := w.buf.drop (w.taken size).length }

/-- **`read`**: from the buffer, and what is missing from the socket. -/
def read (w : SocketWrapper) (size : Nat) (a : Answer) : Done (List UInt8) :=
  if w.eof = true then w.raiseClosed
  else if w.buf ≠ [] ∧ size ≤ (w.taken size).length then ⟨.ok (w.taken size), [], w.took size⟩
  else
    match a with
    | .silent | .blocking => ⟨.ok (w.taken size), [], w.took size⟩
    | .arrived bytes =>
      let chunk := bytes.take (size - (w.taken size).length)
      if chunk ≠ [] then ⟨.ok (w.taken size ++ chunk), chunk, w.took size⟩
      else if w.taken size ≠ [] then ⟨.ok (w.taken size), [], { w.took size with eof := true }⟩
      else (w.took size).raiseClosed
    | .error => (w.took size).raiseClosed

/-- **`write`**; `failed` is the text of the OSError of `sendall`. -/
def write (w : SocketWrapper) (data : List UInt8) (failed : Option String) : Done Nat :=
  if w.eof = true then w.raiseClosed
  else
    match failed with
    | none => ⟨.ok data.length, [], w⟩
    | some e => ⟨.error (w.name ++ ": write failed: " ++ e), [], w.closed⟩

end SocketWrapper

/-! ## 2. Runs of calls -/

/-- A call on the wrapper, with the answer of the socket. -/
inductive Call where
  | inWaiting (a : Answer)
  | read (size : Nat) (a : Answer)
  | write (data : List UInt8) (failed : Option String)
  deriving DecidableEq, Repr

/-- How a call ended. -/
inductive Outcome where
  | waiting (n : Nat)
  | data (bytes : List UInt8)
  | written (n : Nat)
  | raised (text : String)
  deriving DecidableEq, Repr

/-- The outcome of a result. -/
def outcomeOf {α : Type} (f : α → Outcome) : Except String α → Outcome
  | .ok a => f a
  | .error text => .raised text

/-- The bytes a call has returned. -/
def Outcome.bytes : Outcome → List UInt8
  | .data bytes => bytes
  | _ => []

/-- **The wrapper and what has passed through it**: the bytes received from the socket, the bytes
    returned by reads, and the calls with their outcomes. -/
structure Delivery where
  wrapper : SocketWrapper
  received : List UInt8
  returned : List UInt8
  log : List (Call × Outcome)
  deriving DecidableEq, Repr

/-- Nothing has passed yet; the buffer may hold what was received while opening. -/
def Delivery.start (name : String) (initial : List UInt8) : Delivery :=
  ⟨{ SocketWrapper.new name with buf := initial }, [], [], []⟩

/-- A call has ended. -/
def Delivery.after {α : Type} (s : Delivery) (c : Call) (f : α → Outcome) (d : Done α) : Delivery :=
  ⟨d.wrapper, s.received ++ d.received, s.returned ++ (outcomeOf f d.result).bytes,
    s.log ++ [(c, outcomeOf f d.result)]⟩

/-- **A call**; a read asks for at least one byte. -/
def Delivery.exec (s : Delivery) (c : Call) : Option Delivery :=
  match c with
  | .inWaiting a => some (s.after c .waiting (s.wrapper.inWaiting a))
  | .read size a => if 1 ≤ size then some (s.after c .data (s.wrapper.read size a)) else none
  | .write data failed => some (s.after c .written (s.wrapper.write data failed))

/-- The bytes that reads of these sizes return, one after the other. -/
def SocketWrapper.readAll (w : SocketWrapper) : List (Nat × Answer) → List UInt8
  | [] => []
  | (size, a) :: reads =>
    (outcomeOf .data (w.read size a).result).bytes ++ (w.read size a).wrapper.readAll reads

/-- **What the wrapper owes its callers.** -/
structure Delivers (initial : List UInt8) (s : Delivery) : Prop where
  order : s.returned <+: initial ++ s.received
  size : ∀ size a bytes, (Call.read size a, Outcome.data bytes) ∈ s.log → bytes.length ≤ size
  waiting : ∀ a n, (s.wrapper.inWaiting a).result = .ok n → ∀ reads : List (Nat × Answer),
    (∀ r ∈ reads, 1 ≤ r.1) → (reads.map Prod.fst).sum = n →
      ((s.wrapper.inWaiting a).wrapper.readAll reads).length = n
  nothingLeft : (∃ c text, (c, Outcome.raised text) ∈ s.log) → s.returned = initial ++ s.received

/-- **The calls that lose nothing**: no socket error in a read that has emptied the buffer without
    filling its size, no failed write over a buffer with bytes. -/
def Endures (s : Delivery) : Call → Prop
  | .inWaiting _ => True
  | .read size a => a = .error → s.wrapper.buf = [] ∨ size ≤ s.wrapper.buf.length
  | .write _ failed => failed ≠ none → s.wrapper.buf = []

/-! ## 3. What one call does -/

/-- **What a call makes of the wrapper**: the bytes it returns and those it leaves in the buffer are
    the buffer and the bytes it received, and a wrapper at its end has nothing left. -/
structure Passes (w : SocketWrapper) (o : Outcome) (received : List UInt8) (w' : SocketWrapper) :
    Prop where
  bytes : o.bytes ++ w'.buf = w.buf ++ received
  ended : w'.eof = true → w'.buf = []
  raised : ∀ text, o = .raised text → w'.eof = true
  stays : w.eof = true → w'.eof = true

/-- A call passes when what it did passes. -/
def Done.Passes {α : Type} (w : SocketWrapper) (f : α → Outcome) (d : Done α) : Prop :=
  Transport.Passes w (outcomeOf f d.result) d.received d.wrapper

namespace SocketWrapper

variable {w : SocketWrapper} {size : Nat} {a : Answer}

/-- What a read takes and leaves. -/
theorem taken_took : w.taken size ++ (w.took size).buf = w.buf := by
  show w.taken size ++ w.buf.drop (w.taken size).length = w.buf
  unfold taken
  split_ifs with h
  · rw [List.length_take, Nat.min_eq_left h, List.take_append_drop]
  · rw [List.drop_length, List.append_nil]

theorem taken_length_le : (w.taken size).length ≤ size := by
  unfold taken
  split_ifs with h
  · exact List.length_take_le size w.buf
  · omega

theorem taken_length (h : size ≤ w.buf.length) : (w.taken size).length = size := by
  rw [taken, if_pos h, List.length_take, Nat.min_eq_left h]

/-- A read that goes on to the socket has emptied the buffer. -/
theorem took_empty (h : ¬(w.buf ≠ [] ∧ size ≤ (w.taken size).length)) :
    (w.took size).buf = [] := by
  by_cases hbuf : w.buf = []
  · show w.buf.drop _ = []
    rw [hbuf, List.drop_nil]
  · have hlong : ¬ size ≤ w.buf.length := fun hle => h ⟨hbuf, Nat.le_of_eq (taken_length hle).symm⟩
    have htaken : w.taken size = w.buf := if_neg hlong
    show w.buf.drop (w.taken size).length = []
    rw [htaken, List.drop_length]

theorem taken_of_empty (h : (w.took size).buf = []) : w.taken size = w.buf := by
  have hsplit := @taken_took w size
  rw [h, List.append_nil] at hsplit
  exact hsplit

/-- `_raise_closed` over an empty buffer. -/
theorem raiseClosed_passes {α : Type} {f : α → Outcome} {v : SocketWrapper} (hw : w.buf = [])
    (hv : v.buf = []) : (v.raiseClosed : Done α).Passes w f where
  bytes := by
    show [] ++ v.buf = w.buf ++ []
    rw [hw, hv]
  ended := fun _ => hv
  raised := fun _ _ => rfl
  stays := fun _ => rfl

/-- A call that leaves the wrapper alone. -/
theorem idle_passes {α : Type} {f : α → Outcome} {r : α} (hf : (f r).bytes = [])
    (hne : ∀ text, f r ≠ .raised text) (hw : w.eof = true → w.buf = []) :
    (⟨.ok r, [], w⟩ : Done α).Passes w f where
  bytes := by
    show (f r).bytes ++ w.buf = w.buf ++ []
    rw [hf, List.nil_append, List.append_nil]
  ended := hw
  raised := fun text h => absurd h (hne text)
  stays := id

theorem inWaiting_passes (hw : w.eof = true → w.buf = []) :
    (w.inWaiting a).Passes w .waiting := by
  have hidle : ∀ n, (⟨.ok n, [], w⟩ : Done Nat).Passes w .waiting :=
    fun n => idle_passes rfl (fun _ h => Outcome.noConfusion h) hw
  unfold inWaiting
  split_ifs with hbuf heof
  · exact hidle _
  · exact raiseClosed_passes (hw heof) (hw heof)
  · rw [not_not] at hbuf
    have hclosed : (w.raiseClosed : Done Nat).Passes w .waiting := raiseClosed_passes hbuf hbuf
    cases a with
    | silent => exact hidle 0
    | blocking => exact hidle 0
    | error => exact hclosed
    | arrived bytes =>
        dsimp only
        split_ifs with hchunk
        · exact {
            bytes := rfl
            ended := fun h => absurd h heof
            raised := fun _ h => Outcome.noConfusion h
            stays := id }
        · exact hclosed

theorem read_passes (hw : w.eof = true → w.buf = [])
    (h : a = .error → w.buf = [] ∨ size ≤ w.buf.length) : (w.read size a).Passes w .data := by
  unfold read
  by_cases heof : w.eof = true
  · rw [if_pos heof]
    exact raiseClosed_passes (hw heof) (hw heof)
  rw [if_neg heof]
  by_cases hfull : w.buf ≠ [] ∧ size ≤ (w.taken size).length
  · rw [if_pos hfull]
    exact {
      bytes := taken_took.trans (List.append_nil _).symm
      ended := fun h => absurd h heof
      raised := fun _ h => Outcome.noConfusion h
      stays := id }
  · rw [if_neg hfull]
    have htook := took_empty hfull
    have htaken := taken_of_empty htook
    -- without a chunk the read returns what it has taken
    have hreturns : ∀ eof : Bool, (⟨.ok (w.taken size), [], { w.took size with eof := eof }⟩ :
        Done (List UInt8)).Passes w .data := fun eof => {
      bytes := taken_took.trans (List.append_nil _).symm
      ended := fun _ => htook
      raised := fun _ h => Outcome.noConfusion h
      stays := fun h => absurd h heof }
    cases a with
    | silent => exact hreturns w.eof
    | blocking => exact hreturns w.eof
    | error =>
        have hempty : w.buf = [] := by
          by_contra hne
          have hle := (h rfl).resolve_left hne
          exact hfull ⟨hne, Nat.le_of_eq (taken_length hle).symm⟩
        exact raiseClosed_passes hempty htook
    | arrived bytes =>
        dsimp only
        split_ifs with hchunk hsome
        · refine ⟨?_, fun _ => htook, fun _ h => Outcome.noConfusion h, fun h => absurd h heof⟩
          show (w.taken size ++ bytes.take (size - (w.taken size).length)) ++ (w.took size).buf = _
          rw [htook, List.append_nil, htaken]
        · exact hreturns true
        · rw [not_not] at hsome
          exact raiseClosed_passes (htaken.symm.trans hsome) htook

theorem write_passes {data : List UInt8} {failed : Option String} (hw : w.eof = true → w.buf = [])
    (h : failed ≠ none → w.buf = []) : (w.write data failed).Passes w .written := by
  unfold write
  split_ifs with heof
  · exact raiseClosed_passes (hw heof) (hw heof)
  · cases failed with
    | none => exact idle_passes rfl (fun _ h => Outcome.noConfusion h) hw
    | some e =>
        have hempty : w.buf = [] := h (Option.some_ne_none e)
        exact {
          bytes := (List.append_nil _).symm
          ended := fun _ => hempty
          raised := fun _ _ => rfl
          stays := fun _ => rfl }

/-- A read never returns more than it was asked for. -/
theorem read_le {bytes : List UInt8} (h : (w.read size a).result = .ok bytes) :
    bytes.length ≤ size := by
  have htaken := @taken_length_le w size
  unfold read at h
  by_cases heof : w.eof = true
  · rw [if_pos heof] at h
    cases h
  rw [if_neg heof] at h
  by_cases hfull : w.buf ≠ [] ∧ size ≤ (w.taken size).length
  · rw [if_pos hfull] at h
    cases h
    exact htaken
  · rw [if_neg hfull] at h
    cases a with
    | silent =>
        cases h
        exact htaken
    | blocking =>
        cases h
        exact htaken
    | error => cases h
    | arrived arrived =>
        dsimp only at h
        split_ifs at h with hchunk hsome
        · cases h
          rw [List.length_append, List.length_take]
          omega
        · cases h
          exact htaken
        · cases h

/-- A read that the buffer can fill. -/
theorem read_buffered (heof : w.eof = false) (h1 : 1 ≤ size) (h : size ≤ w.buf.length) :
    w.read size a = ⟨.ok (w.buf.take size), [], { w with buf := w.buf.drop size }⟩ := by
  have htaken : w.taken size = w.buf.take size := if_pos h
  have hlength := taken_length h
  have hne : w.buf ≠ [] := fun e => by
    rw [e, List.length_nil] at h
    omega
  unfold read took
  rw [if_neg (by rw [heof]; decide), if_pos ⟨hne, Nat.le_of_eq hlength.symm⟩, hlength, htaken]

/-- **What is in the buffer can be read**, in portions of any size. -/
theorem readAll_buffered (reads : List (Nat × Answer)) : ∀ {w : SocketWrapper}, w.eof = false →
    (∀ r ∈ reads, 1 ≤ r.1) → (reads.map Prod.fst).sum ≤ w.buf.length →
      (w.readAll reads).length = (reads.map Prod.fst).sum := by
  induction reads with
  | nil => exact fun _ _ _ => rfl
  | cons r reads ih =>
      intro w heof hpos hsum
      obtain ⟨size, a⟩ := r
      rw [List.map_cons, List.sum_cons] at hsum ⊢
      have hread := @read_buffered w size a heof (hpos _ List.mem_cons_self) (by omega)
      have hrest : (reads.map Prod.fst).sum ≤ (w.buf.drop size).length := by
        rw [List.length_drop]
        omega
      have hreads := @ih { w with buf := w.buf.drop size } heof
        (fun r hr => hpos r (List.mem_cons_of_mem _ hr)) hrest
      show ((outcomeOf .data (w.read size a).result).bytes ++
        (w.read size a).wrapper.readAll reads).length = _
      rw [hread, List.length_append, hreads]
      show (w.buf.take size).length + _ = _
      rw [List.length_take, Nat.min_eq_left (by omega)]

/-- What `in_waiting` counts is in the buffer of an open wrapper. -/
theorem inWaiting_ok {n : Nat} (hw : w.eof = true → w.buf = [])
    (h : (w.inWaiting a).result = .ok n) :
    (w.inWaiting a).wrapper.eof = false ∧ (w.inWaiting a).wrapper.buf.length = n := by
  unfold inWaiting at h ⊢
  split_ifs at h ⊢ with hbuf heof
  · cases h
    exact ⟨Bool.eq_false_iff.mpr fun heof => hbuf (hw heof), rfl⟩
  · cases h
  · rw [not_not] at hbuf
    have hopen : w.eof = false := Bool.eq_false_iff.mpr heof
    have hzero : w.buf.length = 0 := by rw [hbuf]; rfl
    cases a with
    | silent =>
        cases h
        exact ⟨hopen, hzero⟩
    | blocking =>
        cases h
        exact ⟨hopen, hzero⟩
    | error => cases h
    | arrived bytes =>
        dsimp only at h ⊢
        split_ifs at h ⊢ with hchunk
        · cases h
          exact ⟨hopen, rfl⟩
        · cases h

end SocketWrapper

/-! ## 4. Every run -/

/-- **The invariant of a run that loses nothing.** -/
structure Sound (initial : List UInt8) (s : Delivery) : Prop where
  order : s.returned ++ s.wrapper.buf = initial ++ s.received
  ended : s.wrapper.eof = true → s.wrapper.buf = []
  size : ∀ size a bytes, (Call.read size a, Outcome.data bytes) ∈ s.log → bytes.length ≤ size
  raised : (∃ c text, (c, Outcome.raised text) ∈ s.log) → s.wrapper.eof = true

variable {initial : List UInt8} {s s' : Delivery} {c : Call}

theorem sound_start (name : String) : Sound initial (Delivery.start name initial) where
  order := (List.append_nil initial).symm
  ended := fun h => Bool.noConfusion h
  size := fun _ _ _ h => absurd h List.not_mem_nil
  raised := fun ⟨_, _, h⟩ => absurd h List.not_mem_nil

/-- **A call that passes keeps the invariant.** -/
theorem Sound.after {α : Type} {f : α → Outcome} {d : Done α} (h : Sound initial s)
    (hd : d.Passes s.wrapper f) (hsize : ∀ size a bytes, c = .read size a →
      outcomeOf f d.result = .data bytes → bytes.length ≤ size) :
    Sound initial (s.after c f d) where
  order := by
    show (s.returned ++ (outcomeOf f d.result).bytes) ++ d.wrapper.buf =
      initial ++ (s.received ++ d.received)
    rw [List.append_assoc, hd.bytes, ← List.append_assoc, h.order, List.append_assoc]
  ended := hd.ended
  size := by
    intro size a bytes hmem
    obtain hmem | hmem := List.mem_append.mp hmem
    · exact h.size size a bytes hmem
    · obtain ⟨hc, ho⟩ := Prod.mk.inj (List.mem_singleton.mp hmem)
      exact hsize size a bytes hc.symm ho.symm
  raised := by
    rintro ⟨k, text, hmem⟩
    obtain hmem | hmem := List.mem_append.mp hmem
    · exact hd.stays (h.raised ⟨k, text, hmem⟩)
    · exact hd.raised text (Prod.mk.inj (List.mem_singleton.mp hmem)).2.symm

/-- An outcome that is data comes from a result that is. -/
theorem result_of_data {r : Except String (List UInt8)} {bytes : List UInt8}
    (h : outcomeOf .data r = .data bytes) : r = .ok bytes := by
  cases r with
  | error text => cases h
  | ok b =>
      cases h
      rfl

/-- **What one call keeps.** -/
theorem Sound.exec (h : Sound initial s) (hok : Endures s c) (hs : s.exec c = some s') :
    Sound initial s' := by
  cases c with
  | inWaiting a =>
      cases hs
      exact h.after (SocketWrapper.inWaiting_passes h.ended) fun _ _ _ hc => Call.noConfusion hc
  | write data failed =>
      cases hs
      exact h.after (SocketWrapper.write_passes h.ended hok) fun _ _ _ hc => Call.noConfusion hc
  | read size a =>
      change (if 1 ≤ size then _ else none) = some s' at hs
      split_ifs at hs
      cases hs
      refine h.after (SocketWrapper.read_passes h.ended hok) ?_
      intro size' a' bytes hc ho
      cases hc
      exact SocketWrapper.read_le (result_of_data ho)

/-- A state that keeps the invariant delivers. -/
theorem Sound.delivers (h : Sound initial s) : Delivers initial s where
  order := ⟨s.wrapper.buf, h.order⟩
  size := h.size
  waiting := by
    intro a n hn reads hpos hsum
    obtain ⟨heof, hlength⟩ := SocketWrapper.inWaiting_ok h.ended hn
    rw [SocketWrapper.readAll_buffered reads heof hpos (Nat.le_of_eq (hsum.trans hlength.symm)),
      hsum]
  nothingLeft := by
    intro hraised
    have horder := h.order
    rw [h.ended (h.raised hraised), List.append_nil] at horder
    exact horder

/-- **The wrapper delivers in order and loses nothing**, in every run in which no socket error meets
    a read that has emptied the buffer without filling its size and no failed write meets a buffer
    with bytes. -/
theorem delivers_of_endures (name : String) {cs : List Call}
    (h : Run (guarded (fun s c s' => s.exec c = some s') Endures) (Delivery.start name initial) cs
      s) : Delivers initial s :=
  (h.invariant (sound_start name) fun _ _ _ hi hs => hi.exec hs.1 hs.2).delivers

/-- The decision of `Endures`. -/
def endures (s : Delivery) : Call → Bool
  | .inWaiting _ => true
  | .read size a => a != .error || s.wrapper.buf.isEmpty || decide (size ≤ s.wrapper.buf.length)
  | .write _ failed => failed.isNone || s.wrapper.buf.isEmpty

theorem endures_sound (s : Delivery) (c : Call) (h : endures s c = true) : Endures s c := by
  cases c with
  | inWaiting a => exact trivial
  | read size a =>
      intro ha
      subst ha
      simp only [endures, bne_self_eq_false, Bool.false_or, Bool.or_eq_true, List.isEmpty_iff,
        decide_eq_true_eq] at h
      exact h
  | write data failed =>
      intro hf
      simp only [endures, Bool.or_eq_true, Option.isNone_iff_eq_none, List.isEmpty_iff] at h
      exact h.resolve_left hf

/-- Buffered bytes, a segment cut by the size of a read, the end of the stream. -/
theorem delivers_of_endures_three : ∃ s : Delivery,
    Run (guarded (fun s c s' => s.exec c = some s') Endures) (Delivery.start "tcp://h:1" [1, 2])
      [.read 3 (.arrived [3, 4]), .inWaiting (.arrived [4, 5]), .read 2 .silent,
        .inWaiting (.arrived [])] s ∧
      s.returned = [1, 2, 3, 4, 5] ∧ Delivers [1, 2] s := by
  obtain ⟨s, hr, hp⟩ := @exists_guarded_run _ _ Delivery.exec (Delivery.start "tcp://h:1" [1, 2])
    [.read 3 (.arrived [3, 4]), .inWaiting (.arrived [4, 5]), .read 2 .silent,
      .inWaiting (.arrived [])] endures Endures
    (fun s => decide (s.returned = [1, 2, 3, 4, 5])) endures_sound (by decide)
  exact ⟨s, hr, of_decide_eq_true hp, delivers_of_endures "tcp://h:1" hr⟩

/-- A call that raises over a buffer with bytes. -/
theorem Sound.lost {α : Type} {f : α → Outcome} {d : Done α} {text : String}
    (h : Sound initial s) (hbuf : s.wrapper.buf ≠ []) (hd : d.result = .error text)
    (hreceived : d.received = []) : ¬Delivers initial (s.after c f d) := by
  intro hdelivers
  have houtcome : outcomeOf f d.result = .raised text := by rw [hd]; rfl
  have hall := hdelivers.nothingLeft ⟨c, text, by
    rw [← houtcome]
    exact List.mem_append_right _ (List.mem_singleton.mpr rfl)⟩
  change s.returned ++ (outcomeOf f d.result).bytes = initial ++ (s.received ++ d.received) at hall
  rw [houtcome, hreceived, List.append_nil, ← h.order] at hall
  exact hbuf (List.append_cancel_left hall).symm

/-- **Every other call loses bytes**: it raises over a buffer with bytes that no read has
    returned. -/
theorem lost_of_not_endures (h : Sound initial s) (hok : ¬Endures s c) (hs : s.exec c = some s') :
    ¬Delivers initial s' := by
  have hopen : s.wrapper.buf ≠ [] → ¬s.wrapper.eof = true := fun hne heof => hne (h.ended heof)
  cases c with
  | inWaiting a => exact absurd trivial hok
  | write data failed =>
      obtain ⟨hfailed, hbuf⟩ := Classical.not_imp.mp hok
      obtain ⟨e, rfl⟩ := Option.ne_none_iff_exists'.mp hfailed
      have hwrite : s.wrapper.write data (some e) =
          ⟨.error (s.wrapper.name ++ ": write failed: " ++ e), [], s.wrapper.closed⟩ :=
        if_neg (hopen hbuf)
      cases hs
      rw [hwrite]
      exact h.lost hbuf rfl rfl
  | read size a =>
      obtain ⟨rfl, hshort⟩ := Classical.not_imp.mp hok
      obtain ⟨hbuf, hlong⟩ := not_or.mp hshort
      have htaken : s.wrapper.taken size = s.wrapper.buf := if_neg hlong
      have hread : s.wrapper.read size .error = (s.wrapper.took size).raiseClosed := by
        unfold SocketWrapper.read
        rw [if_neg (hopen hbuf), if_neg fun hfull => hlong (by rw [← htaken]; exact hfull.2)]
      change (if 1 ≤ size then _ else none) = some s' at hs
      split_ifs at hs
      cases hs
      rw [hread]
      exact h.lost hbuf rfl rfl

/-- **A read that gets a reset after the buffered bytes** raises and drops them. -/
theorem reset_drops_buffer : ¬∀ (name : String) (initial : List UInt8) (cs : List Call)
    (s : Delivery), Run (fun s c s' => s.exec c = some s') (Delivery.start name initial) cs s →
      Delivers initial s := by
  intro h
  obtain ⟨s, hr, hp⟩ := @exists_run_of_execAll _ _ Delivery.exec
    (Delivery.start "tcp://h:1" [1, 2, 3]) [.read 10 .error]
    (fun s => decide (s.returned = [] ∧ s.received = [] ∧
      (Call.read 10 .error, Outcome.raised "tcp://h:1: connection closed") ∈ s.log)) (by decide)
  obtain ⟨hreturned, hreceived, hraised⟩ := of_decide_eq_true hp
  have hall := (h _ _ _ s hr).nothingLeft ⟨_, _, hraised⟩
  rw [hreturned, hreceived] at hall
  exact absurd hall (by decide)

end RetroBridge.Transport
