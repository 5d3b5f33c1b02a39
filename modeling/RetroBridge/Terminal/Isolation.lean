/-
  File:      RetroBridge/Terminal/Isolation.lean
  Subject:   WHOSE BYTES GO TO WHOSE SOCKET, and the session id that is given out twice.

  * `Isolated` -- the property of a run: output read from a connection opened for a user goes to
    sockets of this user only, and their input goes to such connections only;
  * `Bridge.Owned` -- the invariant, bridge by bridge: its socket, its buffer, its session's row and
    the threads of its session belong to the user its connection was opened for;
  * `FreshIds` -- the steps in which a new session does not get the id of a registered bridge, or
    of a thread not yet returned, of another user. An id is given out again once its row is deleted;
  * `isolated_run` -- **every run of such steps keeps the users apart**, deletions included;
  * `output_to_another_user` -- a device is deleted, and the next session gets the id of its bridge.
-/
import RetroBridge.Terminal.Sends

namespace RetroBridge.Terminal

open Relational Ordered Transition

/-! ## 1. The property -/

/-- The event keeps to one user. -/
def Out.Isolated (P : Process) : Out → Prop
  | .terminalOutput sid data => ∀ x ∈ data, P.currentUser sid = some x.1.openedFor
  | .written sid serial _ => P.currentUser sid = some serial.openedFor
  | _ => True

/-- **Terminal isolation**: every event of the run keeps to one user. -/
def Isolated (P : Process) (ls : List Label) : Prop := ∀ l ∈ ls, ∀ o ∈ l.outs, o.Isolated P

/-- The id that a new session of user `u` gets is not in use for another user. -/
def FreshFor (u : Nat) (s : Server) : Prop :=
  (∀ q b, s.bridge? q = some b → b.sessionId = s.sessions.nextKey → b.serial.openedFor = u) ∧
    ∀ t ∈ s.readers, t.sessionId = s.sessions.nextKey → t.serial.openedFor = u

/-- If the step opens a session, its id is not in use for another user. -/
def FreshIds (P : Process) (s : Server) (l : Label) : Prop :=
  ∀ user device v, portLoop? P l.now (s.at l.now) l.op = some (user, device, v) →
    FreshFor user.id v

/-! ## 2. The invariant -/

/-- **All that a bridge meets is of the user its connection was opened for.** -/
structure Bridge.Owned (P : Process) (s : Server) (q : Place) (b : Bridge) : Prop where
  place : ∀ sid, q = .active sid → P.currentUser sid = some b.serial.openedFor
  socket : ∀ sid, b.sid = some sid → P.currentUser sid = some b.serial.openedFor
  buffer : ∀ x ∈ b.outputBuffer, x.1.openedFor = b.serial.openedFor
  row : ∀ r, s.sessions.get? b.sessionId = some r → r.userId = b.serial.openedFor
  reader : ∀ t ∈ s.readers, t.sessionId = b.sessionId → t.serial.openedFor = b.serial.openedFor

/-- Every registered bridge is owned. -/
def AllOwned (P : Process) (s : Server) : Prop := ∀ q b, s.bridge? q = some b → b.Owned P s q

section Moves

variable {P : Process} {now : Time} {s₀ s s' : Server} {op : Op}

/-- Rows of the same users, and no new thread. -/
theorem Bridge.Owned.mono {q : Place} {b : Bridge} (h : b.Owned P s q)
    (hrow : ∀ i r', s'.sessions.get? i = some r' →
      ∃ r, s.sessions.get? i = some r ∧ r'.userId = r.userId)
    (hreader : ∀ t' ∈ s'.readers,
      ∃ t ∈ s.readers, t'.serial = t.serial ∧ t'.sessionId = t.sessionId) :
    b.Owned P s' q where
  place := h.place
  socket := h.socket
  buffer := h.buffer
  row r' hr' := by
    obtain ⟨r, hr, huser⟩ := hrow _ r' hr'
    exact huser.trans (h.row r hr)
  reader t' ht' hid := by
    obtain ⟨t, ht, hser, hsid⟩ := hreader t' ht'
    rw [hser]
    exact h.reader t ht (hsid.symm.trans hid)

theorem Bridge.Owned.frame {q : Place} {b : Bridge} (h : b.Owned P s q) (hf : Frame P s s') :
    b.Owned P s' q :=
  h.mono (fun i r' hr' => (hf.rowBack i r' hr').imp fun _ hr => ⟨hr.1, hr.2.userId⟩) hf.reader

theorem Bridge.Owned.endSession {q : Place} {b : Bridge} (h : b.Owned P s q) (i : Nat)
    (reason : String) : b.Owned P (s.endSession now i reason) q := by
  refine h.mono (fun j r' hr' => ?_) fun t ht => ⟨t, ht, rfl, rfl⟩
  rw [Server.session?_endSession] at hr'
  split at hr'
  · obtain ⟨r, hr, rfl⟩ := Option.map_eq_some_iff.mp hr'
    exact ⟨r, hr, rfl⟩
  · exact ⟨r', hr', rfl⟩

theorem Bridge.Owned.recover {q : Place} {b : Bridge} (h : b.Owned P s q) :
    b.Owned P (s.recoverStaleLeases now) q := by
  refine h.mono (fun j r' hr' => ?_) fun t ht => ⟨t, ht, rfl, rfl⟩
  rw [Server.session?_recover] at hr'
  obtain ⟨r, hr, rfl⟩ := Option.map_eq_some_iff.mp hr'
  exact ⟨r, hr, (Server.recoverSession_same r).1⟩

/-- A session that enters with an id not in use for another user. -/
theorem Bridge.Owned.entered {q : Place} {b : Bridge} (h : b.Owned P s q)
    (hb : s.bridge? q = some b) {u d : Nat} {port : DevicePort} (hfresh : FreshFor u s) :
    b.Owned P (s.entered P now u d port) q where
  place := h.place
  socket := h.socket
  buffer := h.buffer
  reader := h.reader
  row r' hr' := by
    rw [session?_entered] at hr'
    split at hr'
    · rename_i hid
      cases hr'
      exact (hfresh.1 q b hb hid).symm
    · have hrec : b.Owned P (s.recoverStaleLeases now) q := h.recover
      rw [← Server.session?_recover] at hr'
      exact hrec.row r' hr'

/-- The bridge of a session that enters, and the others beside it. -/
theorem AllOwned.opened (h : AllOwned P s) {sid : Sid} {u d : Nat} {port : DevicePort}
    (hfresh : FreshFor u s) (huser : P.currentUser sid = some u) :
    AllOwned P (s.opened P now sid u d port) := by
  have hreaders : ∀ t ∈ (s.opened P now sid u d port).readers, t ∈ s.readers ∨
      t = ⟨⟨s.nextConn, u⟩, s.sessions.nextKey, 0⟩ := fun t ht =>
    (List.mem_append.mp ht).imp id List.mem_singleton.mp
  intro q b hq
  rw [bridge?_opened] at hq
  split at hq
  · rename_i hplace
    cases hq
    refine ⟨fun sid' hq' => ?_, fun sid' hs => ?_, fun x hx => absurd hx List.not_mem_nil,
      fun r hr => ?_, fun t ht hid => ?_⟩
    · rw [hplace] at hq'
      cases hq'
      exact huser
    · cases hs
      exact huser
    · have hr' : (s.opened P now sid u d port).sessions.get? s.sessions.nextKey = some r := hr
      rw [session?_opened, if_pos rfl] at hr'
      cases hr'
      rfl
    · rcases hreaders t ht with ht | rfl
      · exact hfresh.2 t ht hid
      · rfl
  · have hdriven : b.Owned P ((s.entered P now u d port).updateBridgeRegistry P now
        s.sessions.nextKey .active) q := ((h q b hq).entered hq hfresh).frame (.drive _ _)
    refine ⟨hdriven.place, hdriven.socket, hdriven.buffer, hdriven.row, fun t ht hid => ?_⟩
    rcases hreaders t ht with ht | rfl
    · exact hdriven.reader t ht hid
    · exact (hfresh.1 q b hq hid.symm).symm

/-- Traffic, a suspend and a resume keep to the user. -/
theorem Rewire.owned (hw : Rewire P now s₀ op s s') (h : AllOwned P s) :
    ∀ q b, s'.bridge? q = some b → b.Owned P s q := by
  intro q b hq
  rcases hw with hk | @⟨p, c, c', hc, ht, hk⟩ | @⟨sid, c, hc, hk⟩ |
    @⟨sid, r, c, hrow, huser, hc, hsid, hk⟩ | ⟨hc, hwhy, hk⟩
  · exact h q b ((hk q).symm.trans hq)
  · rw [hk q] at hq
    split at hq
    · rename_i hp
      cases hq
      have hown := h p c hc
      refine ⟨fun sid' hq' => ?_, fun sid' hs => ?_, fun x hx => ?_, fun r hr => ?_,
        fun t htr hid => ?_⟩
      · rw [ht.serial]
        exact hown.place sid' (hp.symm.trans hq')
      · rw [ht.serial]
        exact hown.socket sid' (ht.sid.symm.trans hs)
      · rw [ht.serial]
        rcases ht.buffer x hx with hx | ⟨t, htr, hser, hid⟩
        · exact hown.buffer x hx
        · rw [← hser]
          exact hown.reader t htr hid
      · rw [ht.serial]
        exact hown.row r (ht.sessionId ▸ hr)
      · rw [ht.serial]
        exact hown.reader t htr (hid.trans ht.sessionId)
    · exact h q b hq
  · rw [hk q] at hq
    split at hq
    · rename_i hp
      cases hq
      have hown := h _ c hc
      refine ⟨fun sid' hq' => ?_, nofun, hown.buffer, hown.row, hown.reader⟩
      rw [hp] at hq'
      cases hq'
    · split at hq
      · cases hq
      · exact h q b hq
  · rw [hk q] at hq
    split at hq
    · rename_i hp
      cases hq
      have hown := h _ c hc
      have hkey : c.sessionId = r.id := Server.sessionId_of_suspended hc
      have huser' : P.currentUser sid = some c.serial.openedFor := by
        rw [huser, hown.row r (by rw [hkey]; exact hrow)]
      refine ⟨fun sid' hq' => ?_, fun sid' hs => ?_, hown.buffer, hown.row, hown.reader⟩
      · rw [hp] at hq'
        cases hq'
        exact huser'
      · cases hs
        exact huser'
    · split at hq
      · cases hq
      · exact h q b hq
  · rw [hk q] at hq
    split at hq
    · cases hq
    · exact h q b hq

theorem Move.owned (m : Move P now s₀ op s s')
    (hfresh : ∀ user device v, portLoop? P now s₀ op = some (user, device, v) → FreshFor user.id v)
    (h : AllOwned P s) : AllOwned P s' := by
  intro q b hq
  cases m with
  | pass hw hf => exact (hw.owned h q b hq).frame hf
  | ends i reason hf hback => exact ((h q b (hback q b hq)).frame hf).endSession i reason
  | recover => exact (h q b hq).recover
  | lease =>
      have hrec : b.Owned P (s.recoverStaleLeases now) q := (h q b hq).recover
      exact ⟨hrec.place, hrec.socket, hrec.buffer, hrec.row, hrec.reader⟩
  | stranded hloop => exact (h q b hq).entered hq (hfresh _ _ _ hloop)
  | refused hloop => exact ((h q b hq).entered hq (hfresh _ _ _ hloop)).endSession _ "error"
  | started hloop _ huser => exact h.opened (hfresh _ _ _ hloop) huser q b hq
  | delete =>
      refine (h q b hq).mono (fun i r' hr' => ?_) fun t ht => ⟨t, ht, rfl, rfl⟩
      rw [Table.get?_filterRows] at hr'
      exact ⟨r', (Option.filter_eq_some_iff.mp hr').1, rfl⟩

end Moves

/-! ## 3. What is sent -/

/-- **What an owned process sends keeps to one user.** -/
theorem isolated_of_sent {P : Process} {s s' : Server} {o : Out} (h : AllOwned P s)
    (hsent : o.Sent P s s') : o.Isolated P := by
  cases o with
  | terminalOutput sid data =>
      obtain ⟨q, b, hb, hreach, hhears⟩ := hsent
      have hown := h q b hb
      have huser : P.currentUser sid = some b.serial.openedFor := by
        rcases hreach with hsid | ⟨hrow, hr, hid⟩
        · exact hown.socket sid hsid
        · rw [hr, hown.row _ (by rw [hid]; exact hrow)]
      intro x hx
      rw [huser]
      rcases hhears x hx with hbuf | hser | ⟨t, ht, hser, hid⟩
      · rw [hown.buffer x hbuf]
      · rw [hser]
      · rw [← hser, hown.reader t ht hid]
  | written sid serial data =>
      obtain ⟨b, hb, rfl⟩ := hsent
      exact (h _ b hb).place sid rfl
  | _ => trivial

/-! ## 4. Runs -/

/-- A process that keeps its users apart. -/
def Separated (P : Process) (s : Server) : Prop := s.Tidy ∧ AllOwned P s

theorem separated_started {P : Process} {s : Server} (h : s.Started) (hrows : s.LeaseRows) :
    Separated P s :=
  ⟨⟨fun _ _ hb => absurd hb h.no_bridge, hrows⟩, fun _ _ hb => absurd hb h.no_bridge⟩

theorem Separated.at {P : Process} {s : Server} (h : Separated P s) (now : Time) :
    Separated P (s.at now) :=
  ⟨tidy_at h.1 now, fun q b hb =>
    ⟨(h.2 q b hb).place, (h.2 q b hb).socket, (h.2 q b hb).buffer, (h.2 q b hb).row,
      (h.2 q b hb).reader⟩⟩

/-- **One step** that gives no id out twice. -/
theorem separated_step {P : Process} {s s' : Server} {l : Label} (h : Separated P s)
    (hfresh : FreshIds P s l) (hs : Step P s l s') : Separated P s' :=
  (hs.moves h.1).invariant (h.at l.now) fun h m => ⟨m.tidy h.1, m.owned hfresh h.2⟩

/-- **TERMINAL ISOLATION**, in every run in which no id in use for another user is given out. -/
theorem isolated_run {P : Process} {s₀ s : Server} {ls : List Label} (h0 : s₀.Started)
    (hrows : s₀.LeaseRows) (h : Run (guarded (Step P) (FreshIds P)) s₀ ls s) : Isolated P ls :=
  h.invariant_labels (separated_started h0 hrows) (fun _ _ _ hI hs => separated_step hI hs.1 hs.2)
    fun _ l _ hI hs o ho => isolated_of_sent (hI.at l.now).2 (hs.2.sends hI.1 o ho)

/-- `FreshIds`, decided. -/
def freshIds (P : Process) (s : Server) (l : Label) : Bool :=
  (portLoop? P l.now (s.at l.now) l.op).all fun e =>
    (e.2.2.active.entries.map Prod.snd ++ e.2.2.suspended.dict.entries.map Prod.snd).all
        (fun b => b.sessionId != e.2.2.sessions.nextKey || b.serial.openedFor == e.1.id) &&
      e.2.2.readers.all fun t =>
        t.sessionId != e.2.2.sessions.nextKey || t.serial.openedFor == e.1.id

theorem freshIds_of {P : Process} (s : Server) (l : Label) (h : freshIds P s l = true) :
    FreshIds P s l := by
  intro user device v hloop
  simp only [freshIds, hloop, Option.all_some, Bool.and_eq_true, List.all_eq_true,
    List.mem_append, List.mem_map, Bool.or_eq_true, bne_iff_ne, beq_iff_eq] at h
  refine ⟨fun q b hb hid => ?_, fun t ht hid => (h.2 t ht).resolve_left fun hne => hne hid⟩
  have hmem : (∃ e ∈ v.active.entries, e.2 = b) ∨ ∃ e ∈ v.suspended.dict.entries, e.2 = b := by
    cases q with
    | active sid => exact Or.inl ⟨_, Dict.get?_eq_some.mp hb, rfl⟩
    | suspended k => exact Or.inr ⟨_, Dict.get?_eq_some.mp hb, rfl⟩
  exact (h.1 b hmem).resolve_left fun hne => hne hid

/-- Terminal output of the run that goes to a socket. -/
def heardAt (ls : List Label) (sid : Sid) : List Heard :=
  ls.flatMap fun l => l.outs.flatMap fun
    | .terminalOutput sid' data => if sid' = sid then data else []
    | _ => []

/-- User 1 hears device 1, suspended in between; user 2 hears device 2. -/
theorem isolated_run_small : ∃ ls s, Run (Step desk) deskStart ls s ∧
    (heardAt ls "alice").length = 4 ∧ (heardAt ls "bob").length = 1 ∧ Isolated desk ls := by
  have h : (play (fire desk (freshIds desk)) deskStart
      [(0, requestOk "alice" 1), (0, requestOk "bob" 2), (seconds 1, .read 0 (.data [62, 32])),
        (seconds 2, .disconnect "alice"), (seconds 3, .read 1 (.data [36])),
        (seconds 4, .input "bob" "ls" true), (seconds 5, requestOk "alice" 1),
        (seconds 6, .deleteUser 2)]).any
      (fun r => (heardAt r.1 "alice").length == 4 && (heardAt r.1 "bob").length == 1) = true := by
    decide
  obtain ⟨ls, s, hr, hp⟩ := exists_run_of_play (guarded_of_fire freshIds_of) h
  simp only [Bool.and_eq_true, beq_iff_eq] at hp
  exact ⟨ls, s, hr.of_guarded, hp.1, hp.2, isolated_run deskStart_started
    deskStart_leaseRows hr⟩

/-- User 1 is on device 1, which the admin deletes; user 2 asks for device 2, which prints. -/
def reusedId : List (Time × Op) :=
  [(0, requestOk "alice" 1), (seconds 1, .deleteDevice 1), (seconds 2, requestOk "bob" 2),
    (seconds 3, .read 1 (.data [36]))]

/-- A character from a connection of another user. -/
theorem not_isolated_of {P : Process} {ls : List Label} {sid : Sid} {u : Nat}
    (huser : P.currentUser sid = some u)
    (h : ((heardAt ls sid).any fun x => x.1.openedFor != u) = true) : ¬ Isolated P ls := by
  intro hiso
  obtain ⟨x, hx, hne⟩ := List.any_eq_true.mp h
  obtain ⟨l, hl, hx⟩ := List.mem_flatMap.mp hx
  obtain ⟨o, ho, hx⟩ := List.mem_flatMap.mp hx
  have hout := hiso l hl o ho
  split at hx
  · rename_i sid' data
    split at hx
    · rename_i hsid
      have howner := hout x hx
      rw [hsid, huser] at howner
      simp [Option.some.inj howner] at hne
    · cases hx
  · cases hx

/-- **User 2's output at user 1's socket**: both bridges have session id 1. -/
theorem output_to_another_user : ∃ ls s, Run (Step desk) deskStart ls s ∧ ¬ Isolated desk ls := by
  have h : (play (fire desk fun _ _ => true) deskStart reusedId).any
      (fun r => (heardAt r.1 "alice").any fun x => x.1.openedFor != 1) = true := by decide
  have hfire : ∀ s e l s', fire desk (fun _ _ => true) s e = some (l, s') →
      guarded (Step desk) (fun _ _ => True) s l s' := guarded_of_fire fun _ _ _ => trivial
  obtain ⟨ls, s, hr, hp⟩ := exists_run_of_play hfire h
  exact ⟨ls, s, hr.of_guarded, not_isolated_of rfl hp⟩

end RetroBridge.Terminal
