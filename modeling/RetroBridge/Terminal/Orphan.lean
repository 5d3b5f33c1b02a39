/-
  File:      RetroBridge/Terminal/Orphan.lean
  Subject:   NO SESSION WITHOUT ITS BRIDGE, NO LEASE WITHOUT ITS SESSION, and the exit of a reading
             thread that leaves both behind.

  * `Orphanless` -- the property of a run: a granted session that is still active has a running
    bridge, and every lease belongs to an active session;
  * `Attached` -- the invariant: each registered bridge has an active row that says that this
    process drives it, each lease an active session of its own;
  * `Covered` -- what a grant makes true of a session, and every move keeps;
  * `Orderly` -- the steps in which no reading thread ends by an exception. The other exit without
    `end_session` is for a session that is over, and no bridge of an attached process has one;
  * `orphanless_run` -- **every run of such steps leaves no orphan**;
  * `orphan_after_read_error` -- a read error leaves an active session and its lease.
-/
import RetroBridge.Terminal.Sends

namespace RetroBridge.Terminal

open Relational Ordered Transition

/-! ## 1. The property -/

/-- The event grants session `i`. -/
def Out.grants (i : Nat) : Out → Bool
  | .sessionGranted _ j _ _ _ => j == i
  | _ => false

/-- The session was granted in the run. -/
def Granted (ls : List Label) (i : Nat) : Prop := ∃ l ∈ ls, ∃ o ∈ l.outs, o.grants i = true

/-- **No orphan**: an active session that was granted has a running bridge, and every lease
    belongs to an active session. -/
def Orphanless (ls : List Label) (s : Server) : Prop :=
  (∀ i, Granted ls i → ∀ r, s.sessions.get? i = some r → r.status = .active →
    ∃ q b, s.bridge? q = some b ∧ b.sessionId = i ∧ b.running = true) ∧
  ∀ l ∈ s.leases, ∃ r, s.sessions.get? l.sessionId = some r ∧ r.status = .active

/-- The operations of the terminal by its users, its timers and its admin. -/
def Op.ofSession : Op → Bool
  | .acquire _ _ => false
  | op => !op.deletes

theorem Op.deletes_of_ofSession {op : Op} (h : op.ofSession = true) : op.deletes = false := by
  cases op <;> first | rfl | exact nomatch h

/-- An operation of the terminal in which no reading thread ends by an exception. -/
def Orderly (P : Process) (s : Server) (l : Label) : Prop :=
  l.op.ofSession = true ∧ readFails P l.now (s.at l.now) l.op = false

/-! ## 2. The invariant -/

/-- Every lease has an active session, and no other lease has this session. -/
structure LeasesAttached (s : Server) : Prop where
  active : ∀ l ∈ s.leases, ∃ r, s.sessions.get? l.sessionId = some r ∧ r.status = .active
  single : ∀ l ∈ s.leases, ∀ k ∈ s.leases, l.sessionId = k.sessionId → l = k

/-- **Attached**: each registered bridge has the active row of its session, driven by this
    process. -/
structure Attached (P : Process) (s : Server) : Prop where
  tidy : s.Tidy
  distinct : Distinct s
  row : ∀ q b, s.bridge? q = some b → ∃ r, s.sessions.get? b.sessionId = some r ∧
    r.status = .active ∧ r.bridgeWorkerId = some P.workerId
  leases : LeasesAttached s

/-- The session's row is there, and where it is active there is a bridge of it. -/
def Covered (s : Server) (i : Nat) : Prop :=
  ∃ r, s.sessions.get? i = some r ∧
    (r.status = .active → ∃ q b, s.bridge? q = some b ∧ b.sessionId = i)

section Moves

variable {P : Process} {now : Time} {s₀ s s' : Server} {op : Op}

/-- A thread whose bridge is attached does not see its session over. -/
theorem Attached.stillActive (h : Attached P s) {q : Place} {b : Bridge}
    (hb : s.bridge? q = some b) : s.sessionStillActiveInDb P b.sessionId = true := by
  obtain ⟨r, hr, hact, hworker⟩ := h.row q b hb
  simp [Server.sessionStillActiveInDb, hr, hact, hworker]

/-! ### Leases -/

theorem Frame.leasesAttached (hf : Frame P s s') (h : LeasesAttached s) : LeasesAttached s' where
  active l' hl' := by
    obtain ⟨l, hl, -, hid⟩ := hf.leaseBack l' hl'
    obtain ⟨r, hr, hact⟩ := h.active l hl
    obtain ⟨r', hr', hdriven⟩ := hf.row _ r hr
    exact ⟨r', hid ▸ hr', hdriven.status.trans hact⟩
  single l' hl' k' hk' hid := by
    obtain ⟨l, hl, hlport, hlid⟩ := hf.leaseBack l' hl'
    obtain ⟨k, hk, hkport, hkid⟩ := hf.leaseBack k' hk'
    have hlk : l = k := h.single l hl k hk (hlid.symm.trans (hid.trans hkid))
    have hport : l'.portId = k'.portId := by rw [hlport, hlk, hkport]
    exact Table.eq_of_key hl' hk' hport

theorem LeasesAttached.endSession (h : LeasesAttached s) (i : Nat) (reason : String) :
    LeasesAttached (s.endSession now i reason) where
  active l hl := by
    obtain ⟨hl, hne⟩ := Server.mem_leases_endSession.mp hl
    obtain ⟨r, hr, hact⟩ := h.active l hl
    exact ⟨r, by rw [Server.session?_endSession, if_neg hne, hr], hact⟩
  single l hl k hk hid :=
    h.single l (Server.mem_leases_endSession.mp hl).1 k (Server.mem_leases_endSession.mp hk).1 hid

/-- A recovery ends no session whose lease it keeps. -/
theorem LeasesAttached.recover (h : LeasesAttached s) :
    LeasesAttached (s.recoverStaleLeases now) where
  active l hl := by
    obtain ⟨hl, hfresh⟩ := Server.mem_leases_recover.mp hl
    obtain ⟨r, hr, hact⟩ := h.active l hl
    have hid : r.id = l.sessionId := (Table.get?_eq_some.mp hr).2
    have hsame : s.recoverSession now r = r := by
      refine if_neg fun hc => ?_
      obtain ⟨k, hk, hkc⟩ := List.any_eq_true.mp hc.2.2
      simp only [Bool.and_eq_true, beq_iff_eq] at hkc
      have hkl : k = l := h.single k hk l hl (hkc.2.trans hid)
      rw [hkl, hfresh] at hkc
      cases hkc.1
    exact ⟨r, by rw [Server.session?_recover, hr]; exact congrArg some hsame, hact⟩
  single l hl k hk hid :=
    h.single l (Server.mem_leases_recover.mp hl).1 k (Server.mem_leases_recover.mp hk).1 hid

/-- The session that enters is active, and its lease is its only one. -/
theorem LeasesAttached.entered (h : LeasesAttached s) {u d : Nat} {port : DevicePort}
    (hfree : (s.recoverStaleLeases now).leases.get? port.id = none) :
    LeasesAttached (s.entered P now u d port) := by
  have hold : ∀ l ∈ s.leases, l.sessionId ≠ s.sessions.nextKey := by
    intro l hl hid
    obtain ⟨r, hr, -⟩ := h.active l hl
    rw [hid, Table.get?_nextKey] at hr
    cases hr
  have hrec : LeasesAttached (s.recoverStaleLeases now) := h.recover
  refine ⟨fun l hl => ?_, fun l hl k hk hid => ?_⟩
  · rw [session?_entered]
    rcases (mem_leases_entered hfree).mp hl with ⟨hl, hfresh⟩ | rfl
    · obtain ⟨r, hr, hact⟩ := hrec.active l (Server.mem_leases_recover.mpr ⟨hl, hfresh⟩)
      rw [Server.session?_recover] at hr
      exact ⟨r, by rw [if_neg (hold l hl), hr], hact⟩
    · exact ⟨_, if_pos rfl, rfl⟩
  · rcases (mem_leases_entered hfree).mp hl with ⟨hl, -⟩ | rfl
    · rcases (mem_leases_entered hfree).mp hk with ⟨hk, -⟩ | rfl
      · exact h.single l hl k hk hid
      · exact absurd hid (hold l hl)
    · rcases (mem_leases_entered hfree).mp hk with ⟨hk, -⟩ | rfl
      · exact absurd hid.symm (hold k hk)
      · rfl

theorem Move.leasesAttached (m : Move P now s₀ op s s') (hop : op.ofSession = true)
    (h : LeasesAttached s) : LeasesAttached s' := by
  cases m with
  | pass hw hf => exact hf.leasesAttached h
  | ends i reason hf => exact (hf.leasesAttached h).endSession i reason
  | recover => exact h.recover
  | lease hacq => rw [hacq] at hop; cases hop
  | stranded _ hfree => exact h.entered hfree
  | refused _ hfree => exact (h.entered hfree).endSession _ "error"
  | @started sid user device port _ hfree =>
      have hdriven : LeasesAttached ((s.entered P now user.id device.id port).updateBridgeRegistry P
          now s.sessions.nextKey .active) := (Frame.drive _ _).leasesAttached (h.entered hfree)
      exact ⟨hdriven.active, hdriven.single⟩
  | delete hdel => exact absurd (hdel.symm.trans (Op.deletes_of_ofSession hop)) (by decide)

/-! ### Rows -/

variable (now) in
/-- A recovery leaves the row of a registered bridge as it is. -/
theorem Attached.row_recover (h : Attached P s) {q : Place} {b : Bridge}
    (hb : s.bridge? q = some b) :
    ∃ r, (s.recoverStaleLeases now).sessions.get? b.sessionId = some r ∧
      r.status = .active ∧ r.bridgeWorkerId = some P.workerId := by
  obtain ⟨r, hr, hrow⟩ := h.row q b hb
  have hid : r.id = b.sessionId := (Table.get?_eq_some.mp hr).2
  have hsame : s.recoverSession now r = r :=
    Server.recoverSession_of_bridge hb (h.tidy.running q b hb) hid
  exact ⟨r, by rw [Server.session?_recover, hr]; exact congrArg some hsame, hrow⟩

theorem Attached.row_entered (h : Attached P s) {u d : Nat} {port : DevicePort} {q : Place}
    {b : Bridge} (hb : s.bridge? q = some b) :
    ∃ r, (s.entered P now u d port).sessions.get? b.sessionId = some r ∧
      r.status = .active ∧ r.bridgeWorkerId = some P.workerId := by
  obtain ⟨r, hr, hrow⟩ := h.row_recover now hb
  rw [Server.session?_recover] at hr
  exact ⟨r, by rw [session?_entered, if_neg (h.distinct.fresh hb), hr], hrow⟩

theorem Move.row_of_bridge (m : Move P now s₀ op s s') (hop : op.ofSession = true)
    (h : Attached P s) : ∀ q b, s'.bridge? q = some b →
      ∃ r, s'.sessions.get? b.sessionId = some r ∧ r.status = .active ∧
        r.bridgeWorkerId = some P.workerId := by
  intro q b hq
  cases m with
  | pass hw hf =>
      obtain ⟨origin, hback, -⟩ := hw.origin
      obtain ⟨c, hc, hsame⟩ := hback q b hq
      obtain ⟨r, hr, hact, hworker⟩ := h.row _ c hc
      obtain ⟨r', hr', hdriven⟩ := hf.row _ r hr
      rw [hsame.sessionId]
      exact ⟨r', hr', hdriven.status.trans hact, hdriven.worker.elim (·.trans hworker) id⟩
  | ends i reason hf hback hother hgone =>
      have hne : b.sessionId ≠ i := h.distinct.other hback hgone hq
      obtain ⟨r, hr, hact, hworker⟩ := h.row q b (hback q b hq)
      obtain ⟨r', hr', hdriven⟩ := hf.row _ r hr
      exact ⟨r', by rw [Server.session?_endSession, if_neg hne, hr'], hdriven.status.trans hact,
        hdriven.worker.elim (·.trans hworker) id⟩
  | recover => exact h.row_recover now hq
  | lease hacq => rw [hacq] at hop; cases hop
  | stranded => exact h.row_entered hq
  | refused =>
      obtain ⟨r, hr, hrow⟩ := h.row_entered hq
      exact ⟨r, by rw [Server.session?_endSession, if_neg (h.distinct.fresh hq), hr], hrow⟩
  | started =>
      rw [bridge?_opened] at hq
      rw [session?_opened]
      split at hq
      · cases hq
        exact ⟨_, if_pos rfl, rfl, rfl⟩
      · obtain ⟨r, hr, hrow⟩ := h.row_recover now hq
        rw [Server.session?_recover] at hr
        exact ⟨r, by rw [if_neg (h.distinct.fresh hq), hr], hrow⟩
  | delete hdel => exact absurd (hdel.symm.trans (Op.deletes_of_ofSession hop)) (by decide)

theorem Move.attached (m : Move P now s₀ op s s') (hop : op.ofSession = true) (h : Attached P s) :
    Attached P s' :=
  ⟨m.tidy h.tidy, m.distinct (Op.deletes_of_ofSession hop) h.distinct, m.row_of_bridge hop h,
    m.leasesAttached hop h.leases⟩

/-! ### Granted sessions -/

/-- **A bridge leaves only with its session's row no longer active.** -/
theorem Move.covered (m : Move P now s₀ op s s') (hop : op.ofSession = true)
    (hfails : readFails P now s₀ op = false) (h : Attached P s) {i : Nat} (hi : Covered s i) :
    Covered s' i := by
  obtain ⟨r, hr, hbridge⟩ := hi
  have hold : i ≠ s.sessions.nextKey := by
    intro e
    rw [e, Table.get?_nextKey] at hr
    cases hr
  have hrecover : (s.recoverSession now r).status = .active →
      ∃ q b, s.bridge? q = some b ∧ b.sessionId = i := fun hact =>
    hbridge ((Server.recoverSession_same r).2.2 hact ▸ hact)
  have hentered : ∀ {u d : Nat} {port : DevicePort},
      (s.entered P now u d port).sessions.get? i = some (s.recoverSession now r) := by
    intro u d port
    rw [session?_entered, if_neg hold, hr]
    rfl
  cases m with
  | pass hw hf =>
      obtain ⟨r', hr', hdriven⟩ := hf.row i r hr
      refine ⟨r', hr', fun hact => ?_⟩
      obtain ⟨p, b, hb, hid⟩ := hbridge (hdriven.status.symm.trans hact)
      rcases hw.stays hb with ⟨q, b', hb', hid'⟩ | hfail | hover
      · exact ⟨q, b', hb', hid'.trans hid⟩
      · rw [hfails] at hfail; cases hfail
      · rw [h.stillActive hb] at hover; cases hover
  | ends j reason hf hback hother hgone =>
      obtain ⟨r', hr', hdriven⟩ := hf.row i r hr
      by_cases hij : i = j
      · refine ⟨ended now reason r', by rw [Server.session?_endSession, if_pos hij, hr']; rfl, ?_⟩
        exact nofun
      · refine ⟨r', by rw [Server.session?_endSession, if_neg hij, hr'], fun hact => ?_⟩
        obtain ⟨q, b, hb, hid⟩ := hbridge (hdriven.status.symm.trans hact)
        exact ⟨q, b, hother q b hb (hid ▸ hij), hid⟩
  | recover => exact ⟨_, by rw [Server.session?_recover, hr]; rfl, hrecover⟩
  | lease hacq => rw [hacq] at hop; cases hop
  | stranded => exact ⟨_, hentered, hrecover⟩
  | refused => exact ⟨_, by rw [Server.session?_endSession, if_neg hold, hentered], hrecover⟩
  | started _ _ _ hsid =>
      refine ⟨_, by rw [session?_opened, if_neg hold, hr]; rfl, fun hact => ?_⟩
      obtain ⟨q, b, hb, hid⟩ := hrecover hact
      have hne : q ≠ .active _ := fun e => by rw [e, hsid] at hb; cases hb
      exact ⟨q, b, by rw [bridge?_opened, if_neg hne, hb], hid⟩
  | delete hdel => exact absurd (hdel.symm.trans (Op.deletes_of_ofSession hop)) (by decide)

end Moves

/-! ## 3. Steps and runs -/

/-- What holds all along a run: an attached process, and every granted session covered. -/
def Accounted (P : Process) (ls : List Label) (s : Server) : Prop :=
  Attached P s ∧ ∀ i, Granted ls i → Covered s i

theorem attached_started {P : Process} {s : Server} (h : s.Started) (hl : LeasesAttached s) :
    Attached P s where
  tidy := ⟨fun _ _ hb => absurd hb h.no_bridge, fun l hl' => (hl.active l hl').imp fun _ hr => hr.1⟩
  distinct := ⟨fun _ _ _ _ hb => absurd hb h.no_bridge, fun _ _ hb => absurd hb h.no_bridge⟩
  row _ _ hb := absurd hb h.no_bridge
  leases := hl

/-- What a step grants is covered after it. -/
theorem covered_of_grant {P : Process} {s s' : Server} {l : Label} {i : Nat}
    (hsent : AllSent P (s.at l.now) s' l.outs) (h : Attached P s') {o : Out} (ho : o ∈ l.outs)
    (hgrants : o.grants i = true) : Covered s' i := by
  have hsent' := hsent o ho
  cases o with
  | sessionGranted sid j name label baud =>
      obtain ⟨b, hb, hid⟩ := hsent'
      have hji : j = i := by simpa [Out.grants] using hgrants
      obtain ⟨r, hr, -, -⟩ := h.row _ b hb
      rw [hid, hji] at hr
      exact ⟨r, hr, fun _ => ⟨_, b, hb, hid.trans hji⟩⟩
  | _ => cases hgrants

/-- **One step** in which no reading thread ends by an exception. -/
theorem accounted_step {P : Process} {ls : List Label} {s s' : Server} {l : Label}
    (h : Accounted P ls s) (ho : Orderly P s l) (hs : Step P s l s') :
    Accounted P (ls ++ [l]) s' := by
  obtain ⟨hA, hcov⟩ := h
  have hat : Attached P (s.at l.now) := ⟨tidy_at hA.tidy l.now, hA.distinct.at l.now, hA.row,
    ⟨hA.leases.active, hA.leases.single⟩⟩
  have hmoves := hs.moves hA.tidy
  have hA' : Attached P s' := hmoves.invariant hat fun h m => m.attached ho.1 h
  refine ⟨hA', fun i hi => ?_⟩
  obtain ⟨k, hk, o, hok, hgrants⟩ := hi
  rcases List.mem_append.mp hk with hk | hk
  · -- granted before: every move of the step keeps the session covered
    have hcov' : Covered (s.at l.now) i := hcov i ⟨k, hk, o, hok, hgrants⟩
    have hI : Attached P s' ∧ Covered s' i :=
      hmoves.invariant (I := fun s => Attached P s ∧ Covered s i) ⟨hat, hcov'⟩ fun hI m =>
        ⟨m.attached ho.1 hI.1, m.covered ho.1 ho.2 hI.1 hI.2⟩
    exact hI.2
  · rw [List.mem_singleton.mp hk] at hok
    exact covered_of_grant (hs.sends hA.tidy) hA' hok hgrants

theorem Accounted.orphanless {P : Process} {ls : List Label} {s : Server} (h : Accounted P ls s) :
    Orphanless ls s := by
  refine ⟨fun i hi r hr hact => ?_, h.1.leases.active⟩
  obtain ⟨r', hr', hbridge⟩ := h.2 i hi
  rw [hr] at hr'
  cases hr'
  obtain ⟨q, b, hb, hid⟩ := hbridge hact
  exact ⟨q, b, hb, hid, h.1.tidy.running q b hb⟩

/-- **NO ORPHANED SESSION**, in every run in which no reading thread ends by an exception. -/
theorem orphanless_run {P : Process} {s₀ s : Server} {ls : List Label} (h0 : s₀.Started)
    (hl : LeasesAttached s₀) (h : Run (guarded (Step P) (Orderly P)) s₀ ls s) :
    Orphanless ls s := by
  have hstart : Accounted P [] s₀ :=
    ⟨attached_started h0 hl, fun i ⟨k, hk, _⟩ => absurd hk List.not_mem_nil⟩
  exact (h.invariant_history hstart fun ls s l s' hI hs =>
    accounted_step hI hs.1 hs.2).orphanless

/-- `Orderly`, decided. -/
def orderly (P : Process) (s : Server) (l : Label) : Bool :=
  l.op.ofSession && !readFails P l.now (s.at l.now) l.op

theorem orderly_of {P : Process} (s : Server) (l : Label) (h : orderly P s l = true) :
    Orderly P s l := by
  simpa [orderly, Orderly] using h

theorem deskStart_leasesAttached : LeasesAttached deskStart :=
  ⟨fun _ hl => absurd hl List.not_mem_nil, fun _ hl => absurd hl List.not_mem_nil⟩

def granted (ls : List Label) (i : Nat) : Bool := ls.any fun l => l.outs.any (Out.grants i)

theorem granted_iff {ls : List Label} {i : Nat} : granted ls i = true ↔ Granted ls i := by
  simp [granted, Granted, List.any_eq_true]

/-- User 1 leaves and comes back; user 2's session is ended by the admin. -/
theorem orphanless_run_small : ∃ ls s, Run (Step desk) deskStart ls s ∧ Granted ls 1 ∧
    Granted ls 2 ∧ s.activeInDb 1 = true ∧ Orphanless ls s := by
  have h : (play (fire desk (orderly desk)) deskStart
      [(0, requestOk "alice" 1), (seconds 1, .read 0 (.data [62])),
        (seconds 2, .disconnect "alice"), (seconds 3, requestOk "bob" 2),
        (seconds 4, requestOk "alice" 1), (seconds 5, .force 2),
        (seconds 6, .read 1 .exception)]).any
      (fun r => granted r.1 1 && granted r.1 2 && r.2.activeInDb 1) = true := by decide
  obtain ⟨ls, s, hr, hp⟩ := exists_run_of_play (guarded_of_fire orderly_of) h
  simp only [Bool.and_eq_true, granted_iff] at hp
  exact ⟨ls, s, hr.of_guarded, hp.1.1, hp.1.2, hp.2,
    orphanless_run deskStart_started deskStart_leasesAttached hr⟩

/-- No bridge is registered, and session `i` is active. -/
def orphaned (s : Server) (i : Nat) : Bool :=
  s.active.entries.isEmpty && s.suspended.dict.entries.isEmpty && s.activeInDb i

theorem not_orphanless_of {ls : List Label} {s : Server} {i : Nat} (hg : granted ls i = true)
    (ho : orphaned s i = true) : ¬ Orphanless ls s := by
  intro h
  simp only [orphaned, Bool.and_eq_true, List.isEmpty_iff] at ho
  obtain ⟨⟨hactive, hsuspended⟩, hrow⟩ := ho
  cases hr : s.sessions.get? i with
  | none => simp [Server.activeInDb, hr] at hrow
  | some r =>
      have hact : r.status = .active := by simpa [Server.activeInDb, hr] using hrow
      obtain ⟨q, b, hb, -⟩ := h.1 i (granted_iff.mp hg) r hr hact
      cases q with
      | active sid =>
          have hmem := Dict.get?_eq_some.mp hb
          rw [hactive] at hmem
          cases hmem
      | suspended k =>
          have hmem := Dict.get?_eq_some.mp hb
          rw [hsuspended] at hmem
          cases hmem

/-- **An orphan**: the thread of the session meets a read error. -/
theorem orphan_after_read_error : ∃ ls s,
    Run (guarded (Step desk) fun _ l => l.op.ofSession = true) deskStart ls s ∧
      ¬ Orphanless ls s := by
  have h : (play (fire desk fun _ l => l.op.ofSession) deskStart
      [(0, requestOk "alice" 1), (seconds 1, .read 0 (.serialError "device disconnected"))]).any
      (fun r => granted r.1 1 && orphaned r.2 1) = true := by decide
  obtain ⟨ls, s, hr, hp⟩ := exists_run_of_play (guarded_of_fire fun _ _ hok => hok) h
  obtain ⟨hg, ho⟩ := Bool.and_eq_true_iff.mp hp
  exact ⟨ls, s, hr, not_orphanless_of hg ho⟩

end RetroBridge.Terminal
