/-
  File:      RetroBridge/Transport/Paths.lean
  Subject:   THE TWO READING PATHS OVER ONE SOCKET (worker.py: `_fd_read` and its loops;
             retrobridge/terminal/utils.py: the reads of `_serial_reader`; retrobridge/transport.py:
             `_open_tcp`, `_open_telnet`).

  * `Opening`, `openTransport` -- the two socket transports, and what `_open_telnet` puts in the
    buffer of the wrapper;
  * `heardWhile` -- the data in the chunks that were received while opening, whatever became of it;
  * `Link` -- what is still to come on the connection; how much of it has arrived at each call is
    free;
  * `jobBytes` -- the reads of a job, on the descriptor under the wrapper;
  * `readerTurn`, `bridgeBytes` -- the reads of the terminal bridge, through the wrapper;
  * `paths_agree` -- **the two see the same bytes exactly when nothing but commands arrived while
    opening**.
-/
import RetroBridge.Transport.Socket
import RetroBridge.Jobs.Capture

namespace RetroBridge.Transport

open Jobs (FdRead)

/-! ## 1. Opening -/

/-- The socket transports of `open_transport`. -/
inductive SocketTransport where
  | tcp
  | telnet
  deriving DecidableEq, Repr

/-- What `_telnet_negotiate` meets: the rounds of its loop, and the `sendall` that raises, if one
    does. -/
structure Opening where
  polls : List Poll
  failing : Option Nat

/-- A `sendall` has raised. -/
def Opening.fails (o : Opening) : Bool :=
  o.failing.any fun n => decide (n < (repliesOf (negotiate false o.polls)).length)

/-- `initial` of `_open_telnet`: nothing where the negotiation raises. -/
def Opening.initial (o : Opening) : List UInt8 :=
  if o.fails then [] else dataOf (negotiate false o.polls)

/-- **The data in the chunks that the loop receives.** The chunk with the reply that raises is the
    last one, and what stands in it behind that reply has left the socket too. -/
def heardWhile : Option Nat → Bool → List Poll → List UInt8
  | _, _, [] => []
  | failing, pendingIac, p :: ps =>
    if !p.readable && !pendingIac then []
    else
      match p.recv with
      | .error => []
      | .returns data =>
        if data.isEmpty then []
        else
          let s := scan (if pendingIac then .pending else .byte) data
          let replies := (repliesOf s.effects).length
          if failing.any fun n => decide (n < replies) then dataOf s.effects
          else dataOf s.effects ++ heardWhile (failing.map (· - replies)) s.pendingIac ps

/-- **`open_transport`** for a socket that connects. -/
def openTransport (t : SocketTransport) (address : String) (o : Opening) : SocketWrapper :=
  match t with
  | .tcp => SocketWrapper.new ("tcp://" ++ address)
  | .telnet => { SocketWrapper.new ("telnet://" ++ address) with buf := o.initial }

/-- The data received while opening. -/
def SocketTransport.heard : SocketTransport → Opening → List UInt8
  | .tcp, _ => []
  | .telnet, o => heardWhile o.failing false o.polls

/-- The reply to `IAC DO 1` raises, and `Hi` behind it has been received. -/
example : (SocketTransport.telnet.heard ⟨received [[IAC, DO, 1, 72, 105]], some 0⟩,
    Opening.initial ⟨received [[IAC, DO, 1, 72, 105]], some 0⟩) = ([72, 105], []) := by decide

/-! ## 2. The connection -/

/-- What is still to come, and whether the peer then closes or only falls silent. -/
structure Link where
  rest : List UInt8
  closes : Bool
  deriving DecidableEq, Repr

/-- How the socket answers when `k + 1` more bytes have arrived, or all there are. -/
def Link.answer (l : Link) (k : Nat) : Answer :=
  if l.rest = [] then (if l.closes then .arrived [] else .silent)
  else .arrived (l.rest.take (k + 1))

/-- The connection after a call that received this much. -/
def Link.after (l : Link) (received : List UInt8) : Link :=
  { l with rest := l.rest.drop received.length }

/-! ## 3. The path of a job -/

/-- **`_fd_read`** on a socket. Its `os.read` fails with EIO on terminals only. -/
def fdRead (a : Answer) (size : Nat) : FdRead :=
  match a with
  | .silent => .bytes []
  | .arrived bytes => .bytes (bytes.take size)
  | .blocking | .error => .raises

/-- Read after read on `ser.fd`, until one returns nothing. -/
def fdDrain (sizes arrived : Nat → Nat) : Nat → Nat → Link → List UInt8
  | 0, _, _ => []
  | fuel + 1, i, l =>
    match fdRead (l.answer (arrived i)) (sizes i) with
    | .raises => []
    | .bytes chunk =>
      if chunk = [] then [] else chunk ++ fdDrain sizes arrived fuel (i + 1) (l.after chunk)

/-- **The bytes of a job.** -/
def jobBytes (sizes arrived : Nat → Nat) (l : Link) : List UInt8 :=
  fdDrain sizes arrived (l.rest.length + 1) 0 l

/-! ## 4. The path of the bridge -/

namespace SocketWrapper

/-- **The reads of one turn of `_serial_reader`**: `in_waiting`, again `in_waiting` for the size,
    and `read`. -/
def readerTurn (w : SocketWrapper) (a b c : Answer) : Done (List UInt8) :=
  let first := w.inWaiting a
  match first.result with
  | .error text => ⟨.error text, first.received, first.wrapper⟩
  | .ok waiting =>
    if waiting = 0 then ⟨.ok [], first.received, first.wrapper⟩
    else
      let second := first.wrapper.inWaiting b
      match second.result with
      | .error text => ⟨.error text, first.received ++ second.received, second.wrapper⟩
      | .ok size =>
        let data := second.wrapper.read size c
        ⟨data.result, first.received ++ second.received ++ data.received, data.wrapper⟩

end SocketWrapper

/-- Turn after turn, until one finds nothing or raises. -/
def readerDrain (arrived : Nat → Nat) : Nat → Nat → SocketWrapper → Link → List UInt8
  | 0, _, _, _ => []
  | fuel + 1, i, w, l =>
    let a := l.answer (arrived i)
    let turn := w.readerTurn a a a
    match turn.result with
    | .error _ => []
    | .ok data =>
      if data = [] then []
      else data ++ readerDrain arrived fuel (i + 1) turn.wrapper (l.after turn.received)

/-- **The bytes of the bridge.** -/
def bridgeBytes (arrived : Nat → Nat) (w : SocketWrapper) (l : Link) : List UInt8 :=
  readerDrain arrived (w.buf.length + l.rest.length + 1) 0 w l

/-! ## 5. What each path gets -/

section Job

variable {sizes arrived : Nat → Nat}

/-- What a connection with nothing to come answers. -/
theorem answer_nil {l : Link} {k : Nat} (h : l.rest = []) :
    l.answer k = .silent ∨ l.answer k = .arrived [] := by
  rw [Link.answer, if_pos h]
  cases l.closes with
  | true => exact Or.inr rfl
  | false => exact Or.inl rfl

theorem answer_cons {l : Link} {k : Nat} (h : l.rest ≠ []) :
    l.answer k = .arrived (l.rest.take (k + 1)) := if_neg h

/-- The first bytes to come are not none. -/
theorem take_ne_nil {l : List UInt8} {n k : Nat} (hl : l ≠ []) (hn : 1 ≤ n) :
    (l.take (k + 1)).take n ≠ [] := by
  have hpos := List.length_pos_iff.mpr hl
  have hlength : 0 < ((l.take (k + 1)).take n).length := by
    rw [List.length_take, List.length_take]
    omega
  exact List.length_pos_iff.mp hlength

/-- The bytes received are the first of those that were to come. -/
theorem take_append_after (l : Link) (n k : Nat) :
    (l.rest.take (k + 1)).take n ++ (l.after ((l.rest.take (k + 1)).take n)).rest = l.rest :=
  List.prefix_iff_eq_append.mp ((List.take_prefix _ _).trans (List.take_prefix _ _))

theorem after_lt {l : Link} {chunk : List UInt8} {fuel : Nat} (hchunk : chunk ≠ [])
    (hrest : l.rest ≠ []) (h : l.rest.length < fuel + 1) : (l.after chunk).rest.length < fuel := by
  have hpos := List.length_pos_iff.mpr hchunk
  have hrestpos := List.length_pos_iff.mpr hrest
  show (l.rest.drop chunk.length).length < fuel
  rw [List.length_drop]
  omega

/-- **The job gets what is still to come**, whatever the sizes of its reads and the chunks. -/
theorem fdDrain_eq (hsizes : ∀ i, 1 ≤ sizes i) (fuel : Nat) : ∀ (i : Nat) (l : Link),
    l.rest.length < fuel → fdDrain sizes arrived fuel i l = l.rest := by
  induction fuel with
  | zero => exact fun i l h => absurd h (Nat.not_lt_zero _)
  | succ fuel ih =>
      intro i l h
      by_cases hrest : l.rest = []
      · have hread : fdRead (l.answer (arrived i)) (sizes i) = .bytes [] := by
          obtain ha | ha := @answer_nil l (arrived i) hrest
          · rw [ha, fdRead]
          · rw [ha, fdRead, List.take_nil]
        rw [fdDrain, hread, hrest]
        exact if_pos rfl
      · have hchunk := @take_ne_nil l.rest (sizes i) (arrived i) hrest (hsizes i)
        rw [fdDrain, answer_cons hrest]
        show (if (l.rest.take (arrived i + 1)).take (sizes i) = [] then [] else _) = l.rest
        rw [if_neg hchunk, ih _ _ (after_lt hchunk hrest h), take_append_after]

theorem jobBytes_eq (hsizes : ∀ i, 1 ≤ sizes i) (l : Link) : jobBytes sizes arrived l = l.rest :=
  fdDrain_eq hsizes _ 0 l (Nat.lt_succ_self _)

end Job

section Bridge

variable {w : SocketWrapper} {a b c : Answer} {arrived : Nat → Nat}

/-- `in_waiting` over a buffer with bytes. -/
theorem inWaiting_buffered (hbuf : w.buf ≠ []) : w.inWaiting a = ⟨.ok w.buf.length, [], w⟩ :=
  if_pos hbuf

/-- A read of as many bytes as the buffer has. -/
theorem read_whole (heof : w.eof = false) (hbuf : w.buf ≠ []) :
    w.read w.buf.length a = ⟨.ok w.buf, [], { w with buf := [] }⟩ := by
  rw [SocketWrapper.read_buffered heof (List.length_pos_iff.mpr hbuf) (Nat.le_refl _),
    List.take_length, List.drop_length]

/-- **A turn over a buffer with bytes** returns them and asks the socket nothing. -/
theorem readerTurn_buffered (heof : w.eof = false) (hbuf : w.buf ≠ []) :
    w.readerTurn a b c = ⟨.ok w.buf, [], { w with buf := [] }⟩ := by
  have hlength : ¬w.buf.length = 0 := fun h => hbuf (List.eq_nil_of_length_eq_zero h)
  unfold SocketWrapper.readerTurn
  simp only [inWaiting_buffered hbuf, read_whole heof hbuf]
  rw [if_neg hlength]
  rfl

/-- `in_waiting` over an empty buffer, when bytes have arrived. -/
theorem inWaiting_arrived {bytes : List UInt8} (heof : w.eof = false) (hbuf : w.buf = [])
    (hbytes : bytes.take 4096 ≠ []) : w.inWaiting (.arrived bytes) =
      ⟨.ok (bytes.take 4096).length, bytes.take 4096, { w with buf := bytes.take 4096 }⟩ := by
  unfold SocketWrapper.inWaiting
  rw [if_neg (not_not.mpr hbuf), if_neg (by rw [heof]; decide)]
  show (if bytes.take 4096 ≠ [] then _ else _) = _
  rw [if_pos hbytes, hbuf, List.nil_append]

/-- **A turn over an empty buffer** returns what has arrived, up to 4096 bytes. -/
theorem readerTurn_arrived {bytes : List UInt8} (heof : w.eof = false) (hbuf : w.buf = [])
    (hbytes : bytes.take 4096 ≠ []) : w.readerTurn (.arrived bytes) b c =
      ⟨.ok (bytes.take 4096), bytes.take 4096, { w with buf := [] }⟩ := by
  have hlength : ¬(bytes.take 4096).length = 0 :=
    fun h => hbytes (List.eq_nil_of_length_eq_zero h)
  have hsecond := @inWaiting_buffered { w with buf := bytes.take 4096 } b hbytes
  have hread := @read_whole { w with buf := bytes.take 4096 } c heof hbytes
  unfold SocketWrapper.readerTurn
  simp only [inWaiting_arrived heof hbuf hbytes, hsecond, hread]
  rw [if_neg hlength, List.append_nil, List.append_nil]

/-- A turn over an empty buffer, when nothing is to come. -/
theorem readerTurn_end {l : Link} {k : Nat} (heof : w.eof = false) (hbuf : w.buf = [])
    (hrest : l.rest = []) : (w.readerTurn (l.answer k) b c).result = .ok [] ∨
      ∃ text, (w.readerTurn (l.answer k) b c).result = .error text := by
  obtain ha | ha := @answer_nil l k hrest
  · refine Or.inl ?_
    have hfirst : w.inWaiting .silent = ⟨.ok 0, [], w⟩ := by
      unfold SocketWrapper.inWaiting
      rw [if_neg (not_not.mpr hbuf), if_neg (by rw [heof]; decide)]
    rw [ha]
    unfold SocketWrapper.readerTurn
    rw [hfirst]
    rfl
  · refine Or.inr ⟨w.name ++ ": connection closed", ?_⟩
    have hfirst : w.inWaiting (.arrived []) = w.raiseClosed := by
      unfold SocketWrapper.inWaiting
      rw [if_neg (not_not.mpr hbuf), if_neg (by rw [heof]; decide)]
      rfl
    rw [ha]
    unfold SocketWrapper.readerTurn
    rw [hfirst]
    rfl

/-- **The bridge gets what is still to come**, once its buffer is empty. -/
theorem readerDrain_empty (fuel : Nat) : ∀ (i : Nat) (w : SocketWrapper) (l : Link),
    w.eof = false → w.buf = [] → l.rest.length < fuel →
      readerDrain arrived fuel i w l = l.rest := by
  induction fuel with
  | zero => exact fun i w l _ _ h => absurd h (Nat.not_lt_zero _)
  | succ fuel ih =>
      intro i w l heof hbuf h
      by_cases hrest : l.rest = []
      · obtain hr | ⟨text, hr⟩ := @readerTurn_end w (l.answer (arrived i)) (l.answer (arrived i)) l
          (arrived i) heof hbuf hrest
        · rw [readerDrain, hrest]
          rw [hr]
          exact if_pos rfl
        · rw [readerDrain, hrest]
          rw [hr]
      · have hchunk := @take_ne_nil l.rest 4096 (arrived i) hrest (by decide)
        rw [readerDrain, answer_cons hrest]
        rw [readerTurn_arrived heof hbuf hchunk]
        show (if (l.rest.take (arrived i + 1)).take 4096 = [] then [] else _) = l.rest
        have hnext := ih (i + 1) { w with buf := [] } _ heof rfl (after_lt hchunk hrest h)
        rw [if_neg hchunk]
        show _ ++ readerDrain arrived fuel (i + 1) { w with buf := [] } (l.after _) = l.rest
        rw [hnext, take_append_after]

/-- **The bridge gets the buffer first.** -/
theorem bridgeBytes_eq (heof : w.eof = false) (l : Link) :
    bridgeBytes arrived w l = w.buf ++ l.rest := by
  by_cases hbuf : w.buf = []
  · rw [bridgeBytes, hbuf, List.length_nil, Nat.zero_add, List.nil_append]
    exact readerDrain_empty _ 0 w l heof hbuf (Nat.lt_succ_self _)
  · have hpos := List.length_pos_iff.mpr hbuf
    rw [bridgeBytes, readerDrain]
    rw [readerTurn_buffered heof hbuf]
    show (if w.buf = [] then [] else
      w.buf ++ readerDrain arrived _ 1 { w with buf := [] } (l.after [])) = _
    have hnext := @readerDrain_empty arrived (w.buf.length + l.rest.length) 1 { w with buf := [] }
      (l.after []) heof rfl (by show l.rest.length < _; omega)
    rw [if_neg hbuf, hnext]
    rfl

end Bridge

/-! ## 6. The two paths -/

theorem openTransport_eof (t : SocketTransport) (address : String) (o : Opening) :
    (openTransport t address o).eof = false := by cases t <;> rfl

theorem repliesOf_append (es fs : List Effect) :
    repliesOf (es ++ fs) = repliesOf es ++ repliesOf fs := List.filterMap_append

/-- **Where no reply raises**, the data received is the data that the loop accumulates. -/
theorem heardWhile_eq (ps : List Poll) : ∀ (failing : Option Nat) (pendingIac : Bool),
    (∀ n, failing = some n → (repliesOf (negotiate pendingIac ps)).length ≤ n) →
      heardWhile failing pendingIac ps = dataOf (negotiate pendingIac ps) := by
  induction ps with
  | nil => exact fun _ _ _ => rfl
  | cons p ps ih =>
      intro failing pendingIac h
      cases hselect : (!p.readable && !pendingIac) with
      | true =>
          simp only [negotiate, heardWhile, hselect, if_true]
          rfl
      | false =>
      cases hrecv : p.recv with
      | error =>
          simp only [negotiate, heardWhile, hselect, hrecv, Bool.false_eq_true, if_false]
          rfl
      | returns data =>
      cases hdata : data.isEmpty with
      | true =>
          simp only [negotiate, heardWhile, hselect, hrecv, hdata, Bool.false_eq_true, if_false,
            if_true]
          rfl
      | false =>
          simp only [negotiate, hselect, hrecv, hdata, Bool.false_eq_true, if_false,
            repliesOf_append, List.length_append] at h
          simp only [negotiate, heardWhile, hselect, hrecv, hdata, Bool.false_eq_true, if_false]
          have hnot : (failing.any fun n => decide (n < (repliesOf (scan
              (if pendingIac then .pending else .byte) data).effects).length)) = false := by
            refine Bool.eq_false_iff.mpr fun hany => ?_
            obtain ⟨n, hn, hlt⟩ := (Option.any_eq_true _ _).mp hany
            have hlt' := of_decide_eq_true hlt
            have hn' := h n hn
            omega
          rw [hnot, if_neg Bool.false_ne_true, dataOf_append, ih]
          intro m hm
          obtain ⟨n, hn, rfl⟩ := Option.map_eq_some_iff.mp hm
          have hn' := h n hn
          omega

/-- Without data in the opening nothing is put in the buffer. -/
theorem openTransport_buf {t : SocketTransport} {address : String} {o : Opening}
    (h : t.heard o = []) : (openTransport t address o).buf = [] := by
  cases t with
  | tcp => rfl
  | telnet =>
      show o.initial = []
      unfold Opening.initial
      split_ifs with hfails
      · rfl
      · rw [← heardWhile_eq o.polls o.failing false]
        · exact h
        · intro n hn
          by_contra hlt
          refine hfails ?_
          unfold Opening.fails
          rw [hn]
          exact decide_eq_true (by omega)

/-- **The two reading paths see the same bytes**, everything that was received while opening among
    them, exactly when the chunks received while opening have no data. The sizes of the reads and
    what has arrived at each of them are free on both paths. -/
theorem paths_agree (t : SocketTransport) (address : String) (o : Opening) (l : Link)
    (sizes arrived arrived' : Nat → Nat) (hsizes : ∀ i, 1 ≤ sizes i) :
    (jobBytes sizes arrived l = bridgeBytes arrived' (openTransport t address o) l ∧
      jobBytes sizes arrived l = t.heard o ++ l.rest) ↔ t.heard o = [] := by
  rw [jobBytes_eq hsizes, bridgeBytes_eq (openTransport_eof t address o)]
  constructor
  · rintro ⟨_, h⟩
    exact List.self_eq_append_left.mp h
  · intro h
    rw [openTransport_buf h, h]
    exact ⟨rfl, rfl⟩

/-- A telnet opening that hears commands only, and three bytes after it. -/
theorem paths_agree_small :
    jobBytes (fun _ => 1024) (fun _ => 0) ⟨[72, 105, 10], true⟩ =
        bridgeBytes (fun i => i) (openTransport .telnet "h:23" ⟨received [[IAC, DO, 1]], none⟩)
          ⟨[72, 105, 10], true⟩ ∧
      jobBytes (fun _ => 1024) (fun _ => 0) ⟨[72, 105, 10], true⟩ =
        SocketTransport.telnet.heard ⟨received [[IAC, DO, 1]], none⟩ ++ [72, 105, 10] :=
  (paths_agree .telnet "h:23" ⟨received [[IAC, DO, 1]], none⟩ ⟨[72, 105, 10], true⟩ (fun _ => 1024)
    (fun _ => 0) (fun i => i) fun _ => by decide).mpr (by decide)

/-- **A greeting received while negotiating** is in the wrapper's buffer, which no job reads. -/
theorem greeting_lost : ¬∀ (t : SocketTransport) (address : String) (o : Opening) (l : Link)
    (sizes arrived arrived' : Nat → Nat), (∀ i, 1 ≤ sizes i) →
      jobBytes sizes arrived l = bridgeBytes arrived' (openTransport t address o) l := by
  intro h
  have hsame := h .telnet "h:23" ⟨received [[72, 105]], none⟩ ⟨[], false⟩ (fun _ => 1024)
    (fun _ => 0) (fun _ => 0) fun _ => by decide
  exact absurd hsame (by decide)

end RetroBridge.Transport
