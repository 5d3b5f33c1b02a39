/-
  File:      RetroBridge/Terminal/LeaseRecovery.lean
  Subject:   LEASE RECOVERY AMONG SEVERAL PROCESSES (retrobridge/terminal/utils.py:
             `recover_stale_leases`, `_has_local_bridge`).

  * `HasBridge` -- a worker has a bridge: in a registry, or in the hands of a resume;
  * `Spares`, `Clears` -- what a recovery should do: no session ends whose bridge runs in any
    worker, and the expired leases of the others go with their sessions;
  * `LocalOnly` -- the bridges that run on an expired lease are the recovering worker's own;
  * `lease_recovery_run` -- **a recovery does what it should exactly where that holds**;
  * `live_session_expired` -- a suspended session, its thread heartbeating every 10 s, and a request
    in another worker after 301 s.
-/
import RetroBridge.Terminal.ReaderLife

namespace RetroBridge.Terminal

open Relational Ordered Transition Interleaved

/-! ## 1. The property -/

/-- **The worker has the bridge**: in one of its registries, or popped by a resume there. -/
def HasBridge (D : Deployment) (c : Cluster) (w : String) (b : Bridge) : Prop :=
  (∃ q, (D.view c.shared w c.shared.clock).bridge? q = some b) ∨
    ∃ t h, t.worker = w ∧ (c.phase t).held? = some h ∧ h.bridge = b

/-- A bridge that runs: active, or suspended within its grace period. -/
def Bridge.alive (now : Time) (b : Bridge) : Bool := b.running && !b.graceOver now

/-- **No session ends whose bridge is alive in any worker.** -/
def Spares (D : Deployment) (c : Cluster) (now : Time) (c' : Cluster) : Prop :=
  ∀ w b, HasBridge D c w b → b.alive now = true →
    c'.shared.sessions.get? b.sessionId = c.shared.sessions.get? b.sessionId

/-- **The expired leases whose session has no running bridge go, and these sessions are over.** -/
def Clears (D : Deployment) (c : Cluster) (now : Time) (c' : Cluster) : Prop :=
  ∀ k ∈ c.shared.leases, k.expired now = true →
    (∀ w b, HasBridge D c w b → b.running = true → b.sessionId ≠ k.sessionId) →
    k ∉ c'.shared.leases ∧
      ∀ r, c'.shared.sessions.get? k.sessionId = some r → r.status = .disconnected

/-- **The bridges on expired leases are local**: each active session with an expired lease whose
    bridge is alive in some worker has a bridge in the worker `w`. -/
def LocalOnly (D : Deployment) (c : Cluster) (w : String) (now : Time) : Prop :=
  ∀ k ∈ c.shared.leases, k.expired now = true →
    (D.view c.shared w now).activeInDb k.sessionId = true →
    (∃ v b, HasBridge D c v b ∧ b.alive now = true ∧ b.sessionId = k.sessionId) →
    (D.view c.shared w now).hasLocalBridge k.sessionId = true

/-- A session row is active or disconnected; `suspended` is a bridge's status only. -/
def NoneSuspended (rows : Table TerminalSession) : Prop :=
  ∀ i r, rows.get? i = some r → r.status ≠ .suspended

/-! ## 2. One step -/

section Steps

variable {P : Process} {now : Time} {s : Server} {rows : Table TerminalSession}

/-- No write suspends a row. -/
theorem RowWrite.noneSuspended {wr : Write} (hw : RowWrite P now s rows wr)
    (h : NoneSuspended s.sessions) : NoneSuspended rows := by
  intro i r' hr' hstatus
  cases hw.at i with
  | new _ _ hget =>
      rw [hget] at hr'
      cases hr'
      cases hstatus
  | gone _ hget | absent _ hget =>
      rw [hget] at hr'
      cases hr'
  | row h0 hget hc =>
      rw [hget] at hr'
      cases hr'
      cases hc with
      | same | driven | beaten => exact h i _ h0 hstatus
      | ended | recovered | swept => cases hstatus

variable {D : Deployment} {c c' : Shared} {t : Thread} {e : Event} {ph ph' : Phase}

/-- What a recovery leaves. -/
theorem recovers_some (h : program D t e c ph = some (c', ph')) (hwr : e.write ph = .recovers) :
    c'.sessions = ((D.view c t.worker e.now).recoverStaleLeases e.now).sessions ∧
      c'.leases = ((D.view c t.worker e.now).recoverStaleLeases e.now).leases := by
  obtain ⟨-, s', hs, rfl⟩ := program_some h
  obtain ⟨now, act⟩ := e
  cases act with
  | call k => cases hwr
  | read conn answer => cases hwr
  | input sid data ok => cases hwr
  | step env =>
      cases ph with
      | created a =>
          cases hs
          exact ⟨rfl, rfl⟩
      | recovering =>
          cases hs
          exact ⟨rfl, rfl⟩
      | reattaching hd =>
          simp only [Event.write, Phase.write] at hwr
          split at hwr <;> cases hwr
      | looping q ports => cases ports <;> cases hwr
      | _ => cases hwr

/-- The row of an active session with an expired lease and without a bridge here ends. -/
theorem recoverSession_ends {k : PortLease} {r : TerminalSession} (hk : k ∈ s.leases)
    (hexp : k.expired now = true) (hid : r.id = k.sessionId) (hact : r.status = .active)
    (hlocal : s.hasLocalBridge k.sessionId = false) :
    (s.recoverSession now r).status = .disconnected := by
  have hlease : (s.leases.rows.any fun l => l.expired now && l.sessionId == r.id) = true :=
    List.any_eq_true.mpr ⟨k, hk, by simp [hexp, hid]⟩
  rw [Server.recoverSession, if_pos ⟨hact, by rw [hid]; exact hlocal, hlease⟩]
  rfl

/-- A row that a recovery ends has an expired lease and no bridge here. -/
theorem recoverSession_why {r : TerminalSession} (h : s.recoverSession now r ≠ r) :
    r.status = .active ∧ s.hasLocalBridge r.id = false ∧
      ∃ k ∈ s.leases, k.expired now = true ∧ k.sessionId = r.id := by
  by_cases hc : r.status = .active ∧ s.hasLocalBridge r.id = false ∧
      (s.leases.rows.any fun l => l.expired now && l.sessionId == r.id) = true
  · obtain ⟨hact, hlocal, hlease⟩ := hc
    obtain ⟨k, hk, hboth⟩ := List.any_eq_true.mp hlease
    simp only [Bool.and_eq_true, beq_iff_eq] at hboth
    exact ⟨hact, hlocal, k, hk, hboth⟩
  · exact absurd (if_neg hc) h

/-- A local bridge is one that runs in a registry of the worker. -/
theorem bridge_of_hasLocal {j : Nat} (h : s.hasLocalBridge j = true) :
    ∃ q b, s.bridge? q = some b ∧ b.sessionId = j ∧ b.running = true := by
  unfold Server.hasLocalBridge at h
  obtain ⟨⟨q, b⟩, hfirst⟩ := Option.isSome_iff_exists.mp h
  obtain ⟨hb, hp⟩ := Server.firstPlace_some hfirst
  simp only [Bool.and_eq_true, beq_iff_eq] at hp
  exact ⟨q, b, hb, hp⟩

end Steps

/-! ## 3. Runs -/

section Runs

variable {D : Deployment} {c c' : Cluster} {l : Thread × Event}

/-- **A recovery clears what nobody drives.** -/
theorem recovery_clears (hrows : NoneSuspended c.shared.sessions) (hs : Turn (program D) c l c')
    (hrec : l.2.write (c.phase l.1) = .recovers) : Clears D c l.2.now c' := by
  obtain ⟨shared', ph', hprog, rfl⟩ := turn_some.mp hs
  obtain ⟨hsessions, hleases⟩ := recovers_some hprog hrec
  intro k hk hexp hnobody
  refine ⟨fun hstays => ?_, fun r' hr' => ?_⟩
  · rw [World.move_shared, hleases] at hstays
    rw [(Server.mem_leases_recover.mp hstays).2] at hexp
    cases hexp
  · rw [World.move_shared, hsessions, Server.session?_recover] at hr'
    obtain ⟨r, hr, rfl⟩ := Option.map_eq_some_iff.mp hr'
    have hid : r.id = k.sessionId := (Table.get?_eq_some.mp hr).2
    cases hstatus : r.status with
    | suspended => exact absurd hstatus (hrows _ r hr)
    | disconnected =>
        rcases Server.recoverSession_cases _ l.2.now r with ⟨hact, -⟩ | hsame
        · rw [hstatus] at hact
          cases hact
        · rw [hsame, hstatus]
    | active =>
        refine recoverSession_ends hk hexp hid hstatus ?_
        by_contra hlocal
        obtain ⟨q, b, hb, hbid, hrun⟩ := bridge_of_hasLocal (by simpa using hlocal)
        have hb' : (D.view c.shared l.1.worker c.shared.clock).bridge? q = some b :=
          (bridge?_view D c.shared _ _ _ q).trans hb
        exact hnobody l.1.worker b (.inl ⟨q, hb'⟩) hrun hbid

/-- **A recovery spares the live bridges exactly where those on expired leases are local.** -/
theorem recovery_spares_iff (hs : Turn (program D) c l c')
    (hrec : l.2.write (c.phase l.1) = .recovers) :
    Spares D c l.2.now c' ↔ LocalOnly D c l.1.worker l.2.now := by
  obtain ⟨shared', ph', hprog, rfl⟩ := turn_some.mp hs
  obtain ⟨hsessions, -⟩ := recovers_some hprog hrec
  have hrow : ∀ j, shared'.sessions.get? j =
      (c.shared.sessions.get? j).map
        ((D.view c.shared l.1.worker l.2.now).recoverSession l.2.now) := by
    intro j
    rw [hsessions]
    exact Server.session?_recover j
  constructor
  · rintro hspares k hk hexp hact ⟨v, b, hb, halive, hid⟩
    by_contra hlocal
    have hsame := hspares v b hb halive
    rw [World.move_shared, hrow, hid] at hsame
    unfold Server.activeInDb at hact
    split at hact
    · rename_i r hr
      have hr' : c.shared.sessions.get? k.sessionId = some r := hr
      rw [hr', Option.map_some] at hsame
      have hends := recoverSession_ends (s := D.view c.shared l.1.worker l.2.now) hk hexp
        (Table.get?_eq_some.mp hr).2 (beq_iff_eq.mp hact) (by simpa using hlocal)
      rw [Option.some.inj hsame, beq_iff_eq.mp hact] at hends
      cases hends
    · cases hact
  · intro hlocal v b hb halive
    rw [World.move_shared, hrow]
    cases hr : c.shared.sessions.get? b.sessionId with
    | none => rfl
    | some r =>
        rw [Option.map_some]
        refine congrArg some ?_
        by_contra hends
        obtain ⟨hact, hnot, k, hk, hexp, hkid⟩ := recoverSession_why hends
        have hid : r.id = b.sessionId := (Table.get?_eq_some.mp hr).2
        have hactive : (D.view c.shared l.1.worker l.2.now).activeInDb k.sessionId = true := by
          have hr' : (D.view c.shared l.1.worker l.2.now).sessions.get? k.sessionId = some r := by
            rw [hkid, hid]
            exact hr
          unfold Server.activeInDb
          rw [hr']
          simp [hact]
        have hyes := hlocal k hk hexp hactive ⟨v, b, hb, halive, (hkid.trans hid).symm⟩
        rw [hkid, hnot] at hyes
        cases hyes

/-- **Lease recovery**: in every run, a recovery by any worker ends no session whose bridge is alive
    somewhere, and clears the expired leases of the others, exactly where each active session with
    an expired lease and a live bridge has a bridge in that worker. -/
theorem lease_recovery_run {c₀ : Cluster} {ls : List (Thread × Event)}
    (h0 : NoneSuspended c₀.shared.sessions) (h : Run (Turn (program D)) c₀ ls c)
    (hs : Turn (program D) c l c') (hrec : l.2.write (c.phase l.1) = .recovers) :
    (Spares D c l.2.now c' ∧ Clears D c l.2.now c') ↔ LocalOnly D c l.1.worker l.2.now := by
  have hrows : NoneSuspended c.shared.sessions := by
    refine h.invariant (I := fun c => NoneSuspended c.shared.sessions) h0 fun c l c' hc hs => ?_
    obtain ⟨shared', ph', hprog, rfl⟩ := turn_some.mp hs
    exact (program_rows hprog).noneSuspended hc
  exact (and_iff_left (recovery_clears hrows hs hrec)).trans (recovery_spares_iff hs hrec)

end Runs

/-! ## 4. Small runs -/

theorem officeStart_noneSuspended : NoneSuspended officeStart.shared.sessions :=
  fun _ _ hr => nomatch hr

/-- The thread of user 1's line in worker `a` every 10 s, from 10 s on. -/
def officeReads (n : Nat) : List (Thread × Event) :=
  (List.range n).map fun k => officeRead (seconds (10 * (k + 1)))

/-- Each active session with an expired lease has a bridge in the worker. -/
def localOnly (D : Deployment) (c : Cluster) (w : String) (now : Time) : Bool :=
  c.shared.leases.rows.all fun k => !k.expired now ||
    !(D.view c.shared w now).activeInDb k.sessionId ||
      (D.view c.shared w now).hasLocalBridge k.sessionId

theorem localOnly_of {D : Deployment} {c : Cluster} {w : String} {now : Time}
    (h : localOnly D c w now = true) : LocalOnly D c w now := by
  intro k hk hexp hact _
  have hok := List.all_eq_true.mp h k hk
  simpa [hexp, hact] using hok

/-- User 1's session, whose browser has not been heard of for 301 s: the recovery of its own worker
    takes the lease and leaves the session. -/
theorem lease_recovery_run_small : ∃ ls c l c', Run (Turn (program office)) officeStart ls c ∧
    Turn (program office) c l c' ∧ c.shared.leases.rows.length = 1 ∧
    c'.shared.leases.rows.length = 0 ∧ Spares office c l.2.now c' ∧ Clears office c l.2.now c' := by
  have h : ((execAll (turn (program office)) officeStart
      (officeCall "a" 0 0 (.request "alice" 1) 11 ++ officeReads 30 ++
        [(⟨"a", 1⟩, ⟨seconds 301, .call .recover⟩)])).any fun c =>
      (turn (program office) c (officeStep "a" 1 (seconds 301))).any fun c' =>
        c.shared.leases.rows.length == 1 && (c'.shared.leases.rows.length == 0 &&
          (localOnly office c "a" (seconds 301) &&
            (officeStep "a" 1 (seconds 301)).2.write (c.phase ⟨"a", 1⟩) == .recovers))) = true := by
    decide
  obtain ⟨c, c', hr, hs, hp⟩ := exists_run_step_of_execAll h
  simp only [Bool.and_eq_true, beq_iff_eq] at hp
  obtain ⟨hone, hzero, hlocal, hrec⟩ := hp
  obtain ⟨hspares, hclears⟩ := (lease_recovery_run (l := officeStep "a" 1 (seconds 301))
    officeStart_noneSuspended hr hs hrec).mpr (localOnly_of hlocal)
  exact ⟨_, c, _, c', hr, hs, hone, hzero, hspares, hclears⟩

/-- Every thread's heartbeat is at most 10 s old. -/
def beating (c : Cluster) (l : Thread × Event) : Bool :=
  c.shared.sessions.rows.all fun r => (r.bridgeHeartbeatAt).all fun t =>
    decide (l.2.now - t ≤ seconds bridgeHeartbeatSeconds)

/-- **A live session expires**: user 1 has left for 301 s, within the grace period, and its thread
    has heartbeated every 10 s; user 2's request in another worker recovers its lease. -/
theorem live_session_expired : ∃ ls c l c',
    Run (guarded (Turn (program office)) fun c l => beating c l = true) officeStart ls c ∧
    beating c l = true ∧ Turn (program office) c l c' ∧
    l.2.write (c.phase l.1) = .recovers ∧ ¬ Spares office c l.2.now c' := by
  have h : ((execAll (execWhen beating (turn (program office))) officeStart
      (officeCall "a" 0 0 (.request "alice" 1) 11 ++ officeCall "a" 0 (seconds 1)
        (.disconnect "alice") 2 ++ officeReads 30 ++
        officeCall "b" 0 (seconds 301) (.request "bob" 1) 4)).any fun c =>
      (execWhen beating (turn (program office)) c (officeStep "b" 0 (seconds 301))).any fun c' =>
        (((office.view c.shared "a" c.shared.clock).suspended.dict.get? 1).any fun b =>
          b.alive (seconds 301) && b.sessionId == 1) &&
        ((c.shared.sessions.get? 1).any (fun r => r.status == .active) &&
        ((c'.shared.sessions.get? 1).any (fun r => r.status == .disconnected) &&
          (officeStep "b" 0 (seconds 301)).2.write (c.phase ⟨"b", 0⟩) == .recovers))) = true := by
    decide
  obtain ⟨c, hr, hp⟩ := exists_guarded_run (fun _ _ hok => hok) h
  obtain ⟨c', hs, hp⟩ := (Option.any_eq_true _ _).mp hp
  obtain ⟨hbeating, hs⟩ := execWhen_some.mp hs
  simp only [Bool.and_eq_true, Option.any_eq_true, beq_iff_eq] at hp
  obtain ⟨⟨b, hb, halive, hid⟩, ⟨r, hrow, hact⟩, ⟨r', hrow', hover⟩, hrec⟩ := hp
  refine ⟨_, c, officeStep "b" 0 (seconds 301), c', hr, hbeating, hs, hrec, fun hspares => ?_⟩
  have hsame := hspares "a" b (.inl ⟨.suspended 1, hb⟩) halive
  rw [hid, hrow, hrow'] at hsame
  rw [Option.some.inj hsame, hact] at hover
  cases hover

end RetroBridge.Terminal
