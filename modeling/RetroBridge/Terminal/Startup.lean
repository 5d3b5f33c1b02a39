/-
  File:      RetroBridge/Terminal/Startup.lean
  Subject:   A PROCESS STARTS (retrobridge/__init__.py: `_cleanup_orphaned_sessions`, which every
             `create_app` runs).

  * `clearLeases`, `sweepSessions` -- the two transactions of the sweep, each in its own `try`;
  * `liveElsewhere` -- the session is active, and another process has driven it within the last
    30 s (`is_bridge_active_remotely`);
  * `Harmless` -- a change that leaves the row and the leases of every live session alone;
  * `startup_harmless_iff` -- **the sweep is harmless exactly where no session is live**: it asks
    the registry nothing;
  * `startup_ends_live_session` -- a terminal that has just been opened, and a second process.
-/
import RetroBridge.Terminal.Server

namespace RetroBridge.Terminal

open Relational Ordered Transition

/-! ## 1. The sweep -/

/-- Which of the two transactions of the sweep commit. -/
structure SweepAnswer where
  leases : Bool
  sessions : Bool

/-- What the sweep writes of one session row. -/
def sweptSession (now : Time) (r : TerminalSession) : TerminalSession :=
  if r.status = .active then disconnected now "server_restart" r else r

theorem sweptSession_id (now : Time) (r : TerminalSession) : (sweptSession now r).id = r.id := by
  unfold sweptSession
  split <;> rfl

namespace Server

variable (P : Process) (now : Time) (s : Server)

/-- `delete(PortLease)`. -/
def clearLeases : Server := { s with leases := Table.empty }

/-- Every active session ends. -/
def sweepSessions : Server :=
  { s with sessions := s.sessions.mapRows (sweptSession now) (sweptSession_id now) }

/-- **`_cleanup_orphaned_sessions`**. -/
def cleanupOrphanedSessions (answer : SweepAnswer) : Server :=
  let s₁ := if answer.leases then s.clearLeases else s
  if answer.sessions then s₁.sweepSessions now else s₁

/-! ## 2. Live sessions -/

/-- **A live session**, as a process that starts can see it: active, and driven by another process
    whose heartbeat is not stale. -/
def liveElsewhere (i : Nat) : Bool := s.activeInDb i && s.isBridgeActiveRemotely P now i

/-- **A change that is harmless to live sessions**: the row and the leases of each are as before,
    so that only sessions without a live bridge end and only their leases go. -/
structure Harmless (s' : Server) : Prop where
  row : ∀ i, s.liveElsewhere P now i = true → s'.sessions.get? i = s.sessions.get? i
  lease : ∀ l ∈ s.leases, s.liveElsewhere P now l.sessionId = true → l ∈ s'.leases

variable {P now s}

theorem session?_sweepSessions (i : Nat) :
    (s.sweepSessions now).sessions.get? i = (s.sessions.get? i).map (sweptSession now) := by
  show (s.sessions.mapRows (sweptSession now) (sweptSession_id now)).get? i = _
  exact Table.get?_mapRows

/-- The rows after the sweep. -/
theorem session?_startup (answer : SweepAnswer) (i : Nat) :
    (s.cleanupOrphanedSessions now answer).sessions.get? i =
      if answer.sessions then (s.sessions.get? i).map (sweptSession now)
      else s.sessions.get? i := by
  obtain ⟨leases, sessions⟩ := answer
  cases leases <;> cases sessions <;> first | rfl | exact session?_sweepSessions i

/-- The leases after the sweep. -/
theorem leases_startup (answer : SweepAnswer) :
    (s.cleanupOrphanedSessions now answer).leases =
      if answer.leases then Table.empty else s.leases := by
  obtain ⟨leases, sessions⟩ := answer
  cases leases <;> cases sessions <;> rfl

/-- A row that the sweep leaves alone is not active. -/
theorem swept_eq {r : TerminalSession} (h : sweptSession now r = r) : r.status ≠ .active := by
  intro hact
  rw [sweptSession, if_pos hact] at h
  have hstatus : SessionStatus.disconnected = r.status := congrArg TerminalSession.status h
  rw [hact] at hstatus
  cases hstatus

/-! ## 3. When the sweep is harmless -/

/-- A harmless sweep that commits its second transaction has found no live session. -/
theorem Harmless.not_live {answer : SweepAnswer}
    (h : s.Harmless P now (s.cleanupOrphanedSessions now answer))
    (hsessions : answer.sessions = true) (i : Nat) : s.liveElsewhere P now i = false := by
  by_contra hlive
  have hlive' : s.liveElsewhere P now i = true := by simpa using hlive
  have hsame := h.row i hlive'
  rw [session?_startup, if_pos hsessions] at hsame
  have hact : s.activeInDb i = true := (Bool.and_eq_true_iff.mp hlive').1
  unfold activeInDb at hact
  split at hact
  · rename_i r hr
    rw [hr] at hsame
    exact swept_eq (Option.some.inj hsame) (beq_iff_eq.mp hact)
  · cases hact

/-- **The sweep is harmless exactly where it finds no live session**, or fails before it ends
    one. -/
theorem startup_harmless_iff (P : Process) (now : Time) (s : Server) (answer : SweepAnswer) :
    s.Harmless P now (s.cleanupOrphanedSessions now answer) ↔
      (answer.sessions = true → ∀ i, s.liveElsewhere P now i = false) ∧
      (answer.leases = true → ∀ l ∈ s.leases, s.liveElsewhere P now l.sessionId = false) := by
  constructor
  · intro h
    refine ⟨h.not_live, fun hleases l hl => ?_⟩
    by_contra hlive
    have hlive' : s.liveElsewhere P now l.sessionId = true := by simpa using hlive
    have hstays := h.lease l hl hlive'
    rw [leases_startup, if_pos hleases] at hstays
    exact absurd hstays List.not_mem_nil
  · rintro ⟨hsessions, hleases⟩
    refine ⟨fun i hlive => ?_, fun l hl hlive => ?_⟩
    · have hfails : answer.sessions ≠ true := fun hyes => by
        rw [hsessions hyes i] at hlive
        cases hlive
      rw [session?_startup, if_neg hfails]
    · have hfails : answer.leases ≠ true := fun hyes => by
        rw [hleases hyes l hl] at hlive
        cases hlive
      rw [leases_startup, if_neg hfails]
      exact hl

end Server

/-- A `flask` command on the host of `desk`. -/
def deskCommand : Process := { desk with workerId := "worker-2" }

/-- **A live session ends when a second process starts**: the sweep does not ask who drives it. -/
theorem startup_ends_live_session : ∃ ls s, Run (Step desk) deskStart ls s ∧
    s.liveElsewhere deskCommand (seconds 2) 1 = true ∧
    ¬ s.Harmless deskCommand (seconds 2) (s.cleanupOrphanedSessions (seconds 2) ⟨true, true⟩) := by
  have h : (play (fire desk fun _ _ => true) deskStart
      [(0, requestOk "alice" 1), (seconds 1, .read 0 (.data [62]))]).any
      (fun r => r.2.liveElsewhere deskCommand (seconds 2) 1) = true := by decide
  obtain ⟨ls, s, hr, hlive⟩ := exists_run_of_play (guarded_of_fire fun _ _ _ => trivial) h
  refine ⟨ls, s, hr.of_guarded, hlive, fun hharmless => ?_⟩
  have hdead := hharmless.not_live rfl 1
  rw [hlive] at hdead
  cases hdead

end RetroBridge.Terminal
