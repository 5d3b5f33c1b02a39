/-
  File:      RetroBridge/Terminal/Decoding.lean
  Subject:   WHAT A CONNECTED CLIENT IS SHOWN (retrobridge/terminal/utils.py: `_serial_reader`).
             Every read is decoded by itself, as UTF-8 with `errors="replace"`.

  * `shown` -- the terminal output of a run to a socket;
  * `Connected` -- the socket has the bridge of the session;
  * `shown_step` -- while it has, a step shows the decoding of what it reads for the session;
  * `shown_iff` -- **the client is shown the decoding of the whole stream exactly when no read ends
    inside a sequence that the next read goes on with**.
-/
import RetroBridge.Library.Utf8
import RetroBridge.Terminal.Course

namespace RetroBridge.Terminal

open Relational Ordered Transition

/-! ## 1. The shown text -/

/-- The process with the source's codec. -/
def Process.utf8 (P : Process) : Process := { P with decode := Utf8.decode }

/-- The text of an event that a socket is shown. -/
def Out.shown (sid : Sid) : Out → List Char
  | .terminalOutput sid' data => if sid' = sid then data.map Prod.snd else []
  | _ => []

/-- **The text that the events of a run show to a socket.** -/
def shown (sid : Sid) (ls : List Label) : List Char :=
  ls.flatMap fun l => l.outs.flatMap (Out.shown sid)

/-- The socket has the bridge of the session. -/
def Connected (sid : Sid) (i : Nat) (s : Server) : Prop :=
  ∃ b, s.bridge? (.active sid) = some b ∧ b.sessionId = i

/-- A run while the socket is connected, without deletions. -/
def WhileConnected (sid : Sid) (i : Nat) (s : Server) (l : Label) : Prop :=
  NoDeletion s l ∧ Connected sid i s

section Shown

variable {P : Process} {now : Time} {s s' : Server} {sid : Sid} {i : Nat}

/-! ## 2. What is sent to whom -/

theorem shown_closed {outs : List Out}
    (h : ∀ o ∈ outs, ∃ sid reason, o = .sessionClosed sid reason) :
    outs.flatMap (Out.shown sid) = [] := by
  refine List.flatMap_eq_nil_iff.mpr fun o ho => ?_
  obtain ⟨sid', reason, rfl⟩ := h o ho
  rfl

/-- The output of a request goes to its own socket. -/
theorem shown_resume {sid' : Sid} (hne : sid' ≠ sid) (k : Nat) (waiting : List UInt8) :
    (s.resumeBridge P now sid' k waiting).2.2.flatMap (Out.shown sid) = [] := by
  have hother : ∀ data, Out.shown sid (.terminalOutput sid' data) = [] := fun data => if_neg hne
  have hone : ∀ data, [Out.terminalOutput sid' data].flatMap (Out.shown sid) = [] := fun data => by
    rw [List.flatMap_singleton, hother]
  have hends := resumption P now s sid' k waiting
  generalize s.resumeBridge P now sid' k waiting = out at hends ⊢
  cases hends with
  | unknown => rfl
  | elsewhere => rfl
  | expired => rfl
  | resumed =>
      unfold Server.flushWaiting
      rw [List.flatMap_append]
      split <;> split <;> simp only [hone, List.flatMap_nil, List.append_nil]

theorem shown_openSession {sid' : Sid} {user : User} {device : Device} {env : RequestEnv} :
    (s.openSession P now sid' user device env).2.flatMap (Out.shown sid) = [] := by
  unfold Server.openSession
  split
  · rfl
  · dsimp only
    split
    · rfl
    · split <;> rfl

theorem shown_request {sid' : Sid} (hne : sid' ≠ sid) (deviceId : Nat) (env : RequestEnv) :
    (s.handleRequestSession P now sid' deviceId env).2.flatMap (Out.shown sid) = [] := by
  have hadmit : (s.admitOrResume P now sid' deviceId env).2.1.flatMap (Out.shown sid) = [] := by
    unfold Server.admitOrResume
    split
    · rfl
    · split
      · rfl
      · rename_i r hr
        have hresume := @shown_resume P now s sid sid' hne r.id env.waiting
        dsimp only
        split
        · rw [List.flatMap_append, hresume]
          rfl
        · split
          · rw [List.flatMap_append, hresume]
            rfl
          · exact hresume
  unfold Server.handleRequestSession
  dsimp only
  split
  · exact hadmit
  · rw [List.flatMap_append, hadmit, shown_openSession]
    rfl

/-- A request from a connected socket is refused. -/
theorem request_connected (h : s.Tidy) (hc : Connected sid i s) (deviceId : Nat)
    (env : RequestEnv) :
    (∃ reason, s.gates P sid deviceId env = .inr reason) := by
  obtain ⟨b, hb, -⟩ := hc
  have hrun := h.running _ b hb
  cases hgates : s.gates P sid deviceId env with
  | inr reason => exact ⟨reason, rfl⟩
  | inl who =>
      obtain ⟨-, hidle⟩ := @gates_some P s sid deviceId env who.1 who.2 hgates
      rw [show s.active.get? sid = some b from hb] at hidle
      simp [hrun] at hidle

/-- A bridge elsewhere is of another session, and of another socket. -/
theorem other_bridge (h : InOrder s) (hc : Connected sid i s) {p : Place} {b : Bridge}
    (hb : s.bridge? p = some b) (hp : p ≠ .active sid) : b.sessionId ≠ i ∧ b.sid ≠ some sid := by
  obtain ⟨c, hcb, hcid⟩ := hc
  refine ⟨fun hid => hp (h.distinct.unique p _ b c hb hcb (hid.trans hcid.symm)), fun hsid => ?_⟩
  cases p with
  | active sid' =>
      have hseat := h.seated.active sid' b hb
      rw [hsid] at hseat
      exact hp (by rw [Option.some.inj hseat])
  | suspended k =>
      have hseat := h.seated.suspended k b hb
      rw [hsid] at hseat
      cases hseat

/-- **A read**: what a thread reads for the bridge is sent to its socket. -/
theorem shown_read (h : InOrder s) (hc : Connected sid i s) (conn : Nat) (answer : ReadAnswer) :
    (exec P now s (.read conn answer)).2.flatMap (Out.shown sid) =
      heardText P i (s.taken P now (.read conn answer)).toList := by
  cases @read_iteration P now s h.tidy conn answer with
  | idle htaken hback houts =>
      rw [htaken, shown_closed houts]
      rfl
  | @took conn bytes ser p b hop htaken hb hafter houts =>
      have hdecoded : ((P.decode bytes).map (ser, ·)).map Prod.snd = P.decode bytes := by
        rw [List.map_map]
        exact List.map_id _
      rw [htaken, houts, Option.toList_some]
      by_cases hp : p = .active sid
      · subst hp
        obtain ⟨c, hcb, hcid⟩ := hc
        have hsame : b = c := Option.some.inj (hb.symm.trans hcb)
        subst hsame
        rw [h.seated.active sid b hb, hcid, heardText_own]
        refine (List.flatMap_singleton _ _).trans ?_
        rw [Out.shown, if_pos rfl, hdecoded]
      · obtain ⟨hid, hsid⟩ := other_bridge h hc hb hp
        rw [heardText_other hid]
        refine List.flatMap_eq_nil_iff.mpr fun o ho => ?_
        obtain ⟨sid', hsid', rfl⟩ := List.mem_map.mp ho
        have hne' : sid' ≠ sid := fun e => hsid (by rw [← e]; exact Option.mem_toList.mp hsid')
        exact if_neg hne'

/-- A request from another socket reads for another session. -/
theorem taken_request_other (h : InOrder s) (hc : Connected sid i s) {sid' : Sid} {deviceId : Nat}
    {env : RequestEnv} {e : Nat × List UInt8}
    (he : s.taken P now (.request sid' deviceId env) = some e) : e.1 ≠ i := by
  cases hresumed : s.resumed? P now sid' deviceId env with
  | none =>
      rw [show s.taken P now (.request sid' deviceId env) = none by
        simp only [Server.taken, hresumed]] at he
      cases he
  | some c =>
      obtain ⟨b, hb, hcb⟩ := resumed?_some hresumed
      rw [taken_request hresumed] at he
      have hid : c.sessionId = b.sessionId := by
        rw [hcb]
        rfl
      split at he
      · cases he
        have hother := (other_bridge h hc hb fun hp => Place.noConfusion hp).1
        rw [hid]
        exact hother
      · cases he

/-- **One operation** shows the connected socket what it reads for the session. -/
theorem shown_exec (h : InOrder s) (hc : Connected sid i s) (op : Op) :
    (exec P now s op).2.flatMap (Out.shown sid) = heardText P i (s.taken P now op).toList := by
  cases op with
  | request sid' deviceId env =>
      by_cases hsid : sid' = sid
      · subst hsid
        obtain ⟨reason, hgates⟩ := @request_connected P s sid' i h.tidy hc deviceId env
        have htaken : s.taken P now (.request sid' deviceId env) = none := by
          simp only [Server.taken, Server.resumed?, hgates]
        simp only [exec, Server.handleRequestSession, Server.admitOrResume, hgates, htaken]
        rfl
      · refine (shown_request hsid deviceId env).trans ?_
        cases htaken : s.taken P now (.request sid' deviceId env) with
        | none => rfl
        | some e => exact (heardText_other (taken_request_other h hc htaken)).symm
  | disconnect sid' => rfl
  | clientDisconnect sid' => exact shown_closed (stopBridge_closed sid' _)
  | input sid' data ok =>
      simp only [exec, Server.writeToSerial]
      split
      · rfl
      · split <;> rfl
  | heartbeat sid' =>
      simp only [exec, Server.handleHeartbeat]
      split
      · rfl
      · split <;> rfl
  | acquire portId sessionId => rfl
  | cleanup => rfl
  | timeouts => exact shown_closed (stopAll_closed _)
  | force sessionId => exact shown_closed (forceDisconnectSession_closed sessionId)
  | read conn answer => exact shown_read h hc conn answer
  | deleteUser u => rfl
  | deleteDevice d => rfl
  | deletePort p => rfl

/-! ## 3. Runs -/

variable {s₀ : Server} {ls : List Label}

/-- **While the socket is connected** it is shown, read by read, the decoding of what is read. -/
theorem shown_connected (h0 : InOrder s₀)
    (h : Run (guarded (Step P) (WhileConnected sid i)) s₀ ls s) :
    InOrder s ∧ shown sid ls = heardText P i (tape P s₀ ls) := by
  induction h with
  | start => exact ⟨h0, rfl⟩
  | step l hr hs ih =>
      obtain ⟨hin, hshown⟩ := ih
      refine ⟨hs.2.inOrder hs.1.1 hin, ?_⟩
      have hone := @shown_exec P l.now _ sid i (hin.at l.now) hs.1.2 l.op
      rw [show (exec P l.now _ l.op).2 = l.outs from congrArg Prod.snd hs.2.2] at hone
      rw [shown, List.flatMap_append, List.flatMap_singleton, hone, ← shown, hshown,
        tape_concat hr.of_guarded, heardText_append]

/-- **READ BOUNDARIES**: the client is shown the decoding of the whole stream exactly when no read
    ends inside a sequence that the next one goes on with. -/
theorem shown_iff {t : Server} {ls' : List Label} (h0 : s₀.Started) (hrows : s₀.LeaseRows)
    (h : Run (guarded (Step P.utf8) NoDeletion) s₀ ls s)
    (h' : Run (guarded (Step P.utf8) (WhileConnected sid i)) s ls' t) :
    shown sid ls' = Utf8.decode (chunks i (tape P.utf8 s ls')).flatten ↔
      Utf8.WholeSequences (chunks i (tape P.utf8 s ls')) := by
  have hin : InOrder s := h.invariant (h0.inOrder hrows) fun _ _ _ hin hs => hs.2.inOrder hs.1 hin
  rw [(shown_connected hin h').2]
  exact Utf8.decode_chunks _

/-- Reads of whole characters show the characters. -/
theorem shown_characters {t : Server} {ls' : List Label} {texts : List (List Char)}
    (h0 : s₀.Started) (hrows : s₀.LeaseRows) (h : Run (guarded (Step P.utf8) NoDeletion) s₀ ls s)
    (h' : Run (guarded (Step P.utf8) (WhileConnected sid i)) s ls' t)
    (hreads : chunks i (tape P.utf8 s ls') =
      texts.map fun text => text.flatMap String.utf8EncodeChar) :
    shown sid ls' = texts.flatten := by
  have hin : InOrder s := h.invariant (h0.inOrder hrows) fun _ _ _ hin hs => hs.2.inOrder hs.1 hin
  have hwhole : Utf8.WholeSequences (chunks i (tape P.utf8 s ls')) := by
    rw [hreads]
    exact Utf8.wholeSequences_text texts
  rw [(shown_connected hin h').2, heardText]
  refine ((Utf8.decode_chunks _).mpr hwhole).trans ?_
  have hflat : (texts.map fun text => text.flatMap String.utf8EncodeChar).flatten =
      texts.flatten.flatMap String.utf8EncodeChar := by
    rw [show texts.flatten = texts.flatMap id from List.flatMap_id.symm, List.flatMap_assoc]
    rfl
  rw [hreads, hflat, Utf8.decode_flatMap]

end Shown

/-! ### On a small installation -/

/-- `NoDeletion`, decided. -/
def noDeletion (_ : Server) (l : Label) : Bool := !l.op.deletes

theorem noDeletion_of (s : Server) (l : Label) (h : noDeletion s l = true) : NoDeletion s l :=
  (Bool.not_eq_true' _).mp h

/-- `WhileConnected`, decided. -/
def whileConnected (sid : Sid) (i : Nat) (s : Server) (l : Label) : Bool :=
  noDeletion s l && (s.bridge? (.active sid)).any fun b => b.sessionId == i

theorem whileConnected_of {sid : Sid} {i : Nat} (s : Server) (l : Label)
    (h : whileConnected sid i s l = true) : WhileConnected sid i s l := by
  obtain ⟨hdel, hany⟩ := Bool.and_eq_true_iff.mp h
  obtain ⟨b, hb, hid⟩ := (Option.any_eq_true _ _).mp hany
  exact ⟨noDeletion_of s l hdel, b, hb, beq_iff_eq.mp hid⟩

/-- Alice's session 1, and then reads of its connection while Alice stays. -/
def aliceReads (reads : List (Time × Op)) (p : Server → List Label → Bool) : Bool :=
  (play (fire desk.utf8 noDeletion) deskStart [(0, requestOk "alice" 1)]).any fun r =>
    (play (fire desk.utf8 (whileConnected "alice" 1)) r.2 reads).any fun r' => p r.2 r'.1

theorem exists_aliceReads {reads : List (Time × Op)} {p : Server → List Label → Bool}
    (h : aliceReads reads p = true) :
    ∃ ls s ls' t, Run (guarded (Step desk.utf8) NoDeletion) deskStart ls s ∧
      Run (guarded (Step desk.utf8) (WhileConnected "alice" 1)) s ls' t ∧ p s ls' = true := by
  obtain ⟨ls, s, hr, hp⟩ := exists_run_of_play (guarded_of_fire noDeletion_of) h
  obtain ⟨ls', t, hr', hp'⟩ := exists_run_of_play (guarded_of_fire whileConnected_of) hp
  exact ⟨ls, s, ls', t, hr, hr', hp'⟩

/-- The character is read whole, and what follows it by itself. -/
theorem shown_iff_whole : ∃ ls s ls' t, Run (guarded (Step desk.utf8) NoDeletion) deskStart ls s ∧
    Run (guarded (Step desk.utf8) (WhileConnected "alice" 1)) s ls' t ∧
    shown "alice" ls' = [Char.ofNat 0xE9, '!'] ∧
    (shown "alice" ls' = Utf8.decode (chunks 1 (tape desk.utf8 s ls')).flatten ↔
      Utf8.WholeSequences (chunks 1 (tape desk.utf8 s ls'))) := by
  have h : aliceReads
      [(seconds 1, .read 0 (.data [0xC3, 0xA9])), (seconds 2, .read 0 (.data [0x21]))]
      (fun _ ls' => shown "alice" ls' == [Char.ofNat 0xE9, '!']) = true := by decide
  obtain ⟨ls, s, ls', t, hr, hr', hp⟩ := exists_aliceReads h
  exact ⟨ls, s, ls', t, hr, hr', beq_iff_eq.mp hp,
    shown_iff deskStart_started deskStart_leaseRows hr hr'⟩

/-- **The two bytes of one character come in two reads**: two replacement characters are shown. -/
theorem character_cut : ∃ ls s ls' t, Run (guarded (Step desk.utf8) NoDeletion) deskStart ls s ∧
    Run (guarded (Step desk.utf8) (WhileConnected "alice" 1)) s ls' t ∧
    shown "alice" ls' = [Utf8.replacement, Utf8.replacement] ∧
    Utf8.decode (chunks 1 (tape desk.utf8 s ls')).flatten = [Char.ofNat 0xE9] := by
  have h : aliceReads [(seconds 1, .read 0 (.data [0xC3])), (seconds 2, .read 0 (.data [0xA9]))]
      (fun s ls' => shown "alice" ls' == [Utf8.replacement, Utf8.replacement] &&
        Utf8.decode (chunks 1 (tape desk.utf8 s ls')).flatten == [Char.ofNat 0xE9]) = true := by
    decide
  obtain ⟨ls, s, ls', t, hr, hr', hp⟩ := exists_aliceReads h
  obtain ⟨hshown, hdecode⟩ := Bool.and_eq_true_iff.mp hp
  exact ⟨ls, s, ls', t, hr, hr', beq_iff_eq.mp hshown, beq_iff_eq.mp hdecode⟩

end RetroBridge.Terminal
