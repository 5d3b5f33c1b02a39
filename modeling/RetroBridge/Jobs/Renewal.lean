/-
  File:      RetroBridge/Jobs/Renewal.lean
  Subject:   THE LEASE OF A CAPTURE (worker.py: `run_job_on_device`, `_send_heartbeat`).

  `last_heartbeat` starts as `start_time`, seconds since the epoch, and is compared with `elapsed`,
  seconds since the start: the first heartbeat of a capture is due when `elapsed` passes
  `start_time + JOB_HEARTBEAT_INTERVAL`, and only from then on one every interval.

  * `Watch`, `watchStep` -- the loop with the times an observer notes: the last turn, the turn of
    the last renewal and the clock the lease was written with; the start counts as a renewal;
  * `Paced` -- turns at most `g` apart;
  * `KeepsLease` -- at a turn, the last renewal is at most one interval and `g` ago, and the lease
    outlives the turn by all that is left of it;
  * `Schedule`, `watchStep_schedule` -- THE INVARIANT: before the first heartbeat, and after it;
  * `keeps_lease_iff` -- **in every capture a turn finds the lease kept exactly where it comes in
    the first interval and `g`, or the first heartbeat was due by the turn before it.**
-/
import Mathlib.Tactic.Linarith
import RetroBridge.Jobs.Capture
import RetroBridge.Jobs.Claim

namespace RetroBridge.Jobs

open Transition

/-! ## 1. The loop under observation -/

/-- The loop variables, the clock at the top of the last turn, at the top of the last turn that sent
    a heartbeat, and inside that heartbeat. -/
structure Watch where
  capture : Capture
  top : Time
  renewed : Time
  written : Time

/-- The start of the loop counts as a renewal. -/
def Watch.start (t₀ : Time) : Watch := ⟨.start t₀, t₀, t₀, t₀⟩

/-- A turn that goes on, as the observer notes it. -/
def watchStep (port : DevicePort) (w : Watch) (it : Iteration) : Option Watch :=
  (goesOn port w.capture it).map fun c =>
    { capture := c
      top := it.top
      renewed := if w.capture.beats it.top then it.top else w.renewed
      written := if w.capture.beats it.top then it.renewal else w.written }

/-- **The next turn comes at most `g` after the last**, and its heartbeat after its top. -/
structure Paced (g : Time) (w : Watch) (it : Iteration) : Prop where
  forward : w.top ≤ it.top
  soon : it.top ≤ w.top + g
  clock : it.top ≤ it.renewal

instance (g : Time) (w : Watch) (it : Iteration) : Decidable (Paced g w it) :=
  decidable_of_iff (w.top ≤ it.top ∧ it.top ≤ w.top + g ∧ it.top ≤ it.renewal)
    ⟨fun h => ⟨h.1, h.2.1, h.2.2⟩, fun h => ⟨h.1, h.2, h.3⟩⟩

/-- The captures whose turns are at most `g` apart. -/
abbrev PacedRun (port : DevicePort) (g t₀ : Time) : List Iteration → Watch → Prop :=
  Run (guarded (fun w it w' => watchStep port w it = some w') (Paced g)) (.start t₀)

/-- The longest time between two renewals there should be. -/
def renewalBound (g : Time) : Time := seconds jobHeartbeatInterval + g

/-- **The lease is kept at a turn**: the last renewal is at most `renewalBound g` ago, and the lease
    it wrote lasts beyond the turn by what the lease is longer than that. -/
structure KeepsLease (g : Time) (w : Watch) (it : Iteration) : Prop where
  renewal : it.top - w.renewed ≤ renewalBound g
  lease : ∀ (row : Job) (now : Time),
    now ≤ it.top + (seconds jobLeaseSeconds - renewalBound g) →
      (beat w.written row).leaseExpired now = false

/-! ## 2. The schedule of the heartbeats -/

/-- **THE INVARIANT**: no heartbeat yet, and none due; or the last one recorded as elapsed time, and
    none due since. -/
inductive Schedule (t₀ : Time) (w : Watch) : Prop where
  | waiting (hstart : w.capture.startTime = t₀) (hlast : w.capture.lastHeartbeat = t₀)
      (hrenewed : w.renewed = t₀) (hwritten : w.written = t₀)
      (hdue : w.top - t₀ < t₀ + seconds jobHeartbeatInterval)
  | renewing (hstart : w.capture.startTime = t₀) (hlast : w.renewed = t₀ + w.capture.lastHeartbeat)
      (hwritten : w.renewed ≤ w.written) (hsince : w.top - w.renewed < seconds jobHeartbeatInterval)
      (hdue : t₀ + seconds jobHeartbeatInterval ≤ w.top - t₀)

section Schedule

variable {port : DevicePort} {g t₀ : Time} {w w' : Watch} {it : Iteration}

theorem interval_pos : (0 : Int) < seconds jobHeartbeatInterval := by decide

theorem schedule_start (h0 : 0 < t₀) : Schedule t₀ (.start t₀) := by
  refine .waiting rfl rfl rfl rfl ?_
  have hpos := interval_pos
  show t₀ - t₀ < t₀ + seconds jobHeartbeatInterval
  linarith

theorem Schedule.written (h : Schedule t₀ w) : w.renewed ≤ w.written := by
  cases h with
  | waiting _ _ hr hw _ => rw [hr, hw]
  | renewing _ _ hw _ _ => exact hw

theorem Schedule.startTime (h : Schedule t₀ w) : w.capture.startTime = t₀ := by
  cases h <;> assumption

/-- When a heartbeat is due: before the first, when the elapsed time passes the start time by an
    interval; after it, an interval after the last. -/
theorem beats_iff (h : Schedule t₀ w) : w.capture.beats it.top = true ↔
    t₀ + w.capture.lastHeartbeat + seconds jobHeartbeatInterval ≤ it.top := by
  unfold Capture.beats
  rw [decide_eq_true_iff, h.startTime]
  constructor <;> intro hd <;> linarith

/-- **One turn keeps the schedule.** -/
theorem watchStep_schedule (h : Schedule t₀ w) (hp : Paced g w it)
    (hs : watchStep port w it = some w') : Schedule t₀ w' := by
  obtain ⟨c, hgo, rfl⟩ := Option.map_eq_some_iff.mp hs
  obtain ⟨_, _, hstart, hlast⟩ := captureTurn_goOn (goesOn_iff.mp hgo)
  have hfwd := hp.forward
  have hclk := hp.clock
  have hpos := interval_pos
  by_cases hb : w.capture.beats it.top = true
  · -- the turn renews: its elapsed time is recorded
    have hdue := (beats_iff h).mp hb
    rw [Capture.heartbeat, if_pos hb] at hlast
    refine .renewing (hstart.trans h.startTime) ?_ ?_ ?_ ?_ <;> simp only [if_pos hb]
    · rw [hlast, h.startTime]
      linarith
    · exact hclk
    · linarith
    · cases h with
      | waiting _ hl _ _ _ =>
          rw [hl] at hdue
          linarith
      | renewing _ _ _ _ hd => linarith
  · have hdue : ¬ t₀ + w.capture.lastHeartbeat + seconds jobHeartbeatInterval ≤ it.top :=
      fun hd => hb ((beats_iff h).mpr hd)
    rw [Capture.heartbeat, if_neg hb] at hlast
    cases h with
    | waiting hs hl hr hw hd =>
        refine .waiting (hstart.trans hs) (hlast.trans hl) ?_ ?_ ?_ <;> simp only [if_neg hb]
        · exact hr
        · exact hw
        · rw [hl] at hdue
          linarith
    | renewing hs hl hw hsince hd =>
        refine .renewing (hstart.trans hs) ?_ ?_ ?_ ?_ <;> simp only [if_neg hb]
        · rw [hlast]
          exact hl
        · exact hw
        · linarith
        · linarith

theorem schedule_run {its : List Iteration} (h0 : 0 < t₀) (h : PacedRun port g t₀ its w) :
    Schedule t₀ w :=
  h.invariant (schedule_start h0) fun _ _ _ hI hs => watchStep_schedule hI hs.1 hs.2

/-- A lease lasts `JOB_LEASE_SECONDS` from its heartbeat. -/
theorem beat_not_expired {written now : Time} (row : Job)
    (h : now ≤ written + seconds jobLeaseSeconds) :
    (beat written row).leaseExpired now = false := by
  simp only [Job.leaseExpired, beat, Bool.and_eq_false_iff, decide_eq_false_iff_not]
  exact Or.inr (Int.not_lt.mpr h)

/-- A renewal in time keeps the lease. -/
theorem keepsLease_iff (h : Schedule t₀ w) :
    KeepsLease g w it ↔ it.top - w.renewed ≤ renewalBound g := by
  refine ⟨KeepsLease.renewal, fun hr => ⟨hr, fun row now hnow => beat_not_expired row ?_⟩⟩
  have hw := h.written
  linarith

end Schedule

/-- **THE LEASE OF A CAPTURE**: in every capture that starts at a positive time and whose turns are
    at most `g` apart, a turn finds the lease kept exactly where it comes at most one interval and
    `g` after the start, or where, by the turn before it, the elapsed time had passed the start
    time by an interval. -/
theorem keeps_lease_iff {port : DevicePort} {g t₀ : Time} {its : List Iteration} {w : Watch}
    {it : Iteration} (h0 : 0 < t₀) (h : PacedRun port g t₀ its w) (hp : Paced g w it) :
    KeepsLease g w it ↔ it.top - t₀ ≤ renewalBound g ∨
      t₀ + seconds jobHeartbeatInterval ≤ w.top - t₀ := by
  have hS := schedule_run h0 h
  rw [keepsLease_iff hS]
  cases hS with
  | waiting _ _ hr _ hd =>
      rw [hr]
      exact ⟨Or.inl, fun hc => hc.resolve_right (Int.not_le.mpr hd)⟩
  | renewing _ _ _ hsince hd =>
      refine ⟨fun _ => Or.inr hd, fun _ => ?_⟩
      have hsoon := hp.soon
      unfold renewalBound
      linarith

/-- **With a clock that counts from the epoch no capture sends a heartbeat**: none whose
    `max_runtime` is below the start time and an interval. -/
theorem no_heartbeat {port : DevicePort} {g t₀ : Time} {its : List Iteration} {w : Watch}
    (h0 : 0 < t₀) (hport : maxRuntime port < t₀ + seconds jobHeartbeatInterval)
    (h : PacedRun port g t₀ its w) : w.renewed = t₀ := by
  have hle : w.top - t₀ ≤ maxRuntime port ∨ w.top = t₀ := by
    refine h.invariant_history (I := fun _ w => w.capture.startTime = t₀ ∧
      (w.top - t₀ ≤ maxRuntime port ∨ w.top = t₀)) ⟨rfl, Or.inr rfl⟩ ?_ |>.2
    intro _ w it w' hI hs
    obtain ⟨c, hgo, rfl⟩ := Option.map_eq_some_iff.mp hs.2
    obtain ⟨hrun, _, hstart, _⟩ := captureTurn_goOn (goesOn_iff.mp hgo)
    rw [hI.1] at hrun
    exact ⟨hstart.trans hI.1, Or.inl hrun⟩
  have hpos := interval_pos
  cases schedule_run h0 h with
  | waiting _ _ hr _ _ => exact hr
  | renewing _ _ _ _ hd =>
      exfalso
      rcases hle with hle | hle <;> linarith

/-! ## 3. A minute between the turns -/

/-- A port for ten minutes. -/
def longPort : DevicePort := { defaultPort with maxRuntimeSeconds := some 600 }

/-- A turn that reads a byte. -/
def busyTurn (n : Int) : Iteration := turnAt n none [0x2e]

/-- The guarded step, decided. -/
def pacedStep (w : Watch) (it : Iteration) : Option Watch :=
  execWhen (fun w it => decide (Paced (seconds 60) w it)) (watchStep longPort) w it

theorem exists_pacedRun {its : List Iteration} {p : Watch → Bool}
    (h : (execAll pacedStep (.start captureStart) its).any p = true) :
    ∃ w, PacedRun longPort (seconds 60) captureStart its w ∧ p w = true :=
  exists_guarded_run (fun _ _ => of_decide_eq_true) h

/-- The second turn, in the first interval and a minute. -/
theorem keeps_lease_small : ∃ w, PacedRun longPort (seconds 60) captureStart [busyTurn 60] w ∧
    KeepsLease (seconds 60) w (busyTurn 85) := by
  have h : ((execAll pacedStep (.start captureStart) [busyTurn 60]).any fun w =>
      decide (Paced (seconds 60) w (busyTurn 85))) = true := by decide
  obtain ⟨w, hr, hp⟩ := exists_pacedRun h
  exact ⟨w, hr, (keeps_lease_iff (by decide) hr (of_decide_eq_true hp)).mpr (Or.inl (by decide))⟩

/-- **Six minutes without a heartbeat**: the sixth turn goes on with no renewal since the start, and
    the lease written then has expired. -/
theorem lease_lost : ∃ w,
    PacedRun longPort (seconds 60) captureStart ([60, 120, 180, 240, 300].map busyTurn) w ∧
    Paced (seconds 60) w (busyTurn 360) ∧ (goesOn longPort w.capture (busyTurn 360)).isSome = true ∧
    ¬ (busyTurn 360).top - w.renewed ≤ renewalBound (seconds 60) ∧
    ∀ row : Job, row.status = .running →
      (beat w.written row).leaseExpired (busyTurn 360).top = true := by
  have h : ((execAll pacedStep (.start captureStart) ([60, 120, 180, 240, 300].map busyTurn)).any
      fun w => decide (Paced (seconds 60) w (busyTurn 360) ∧
        (goesOn longPort w.capture (busyTurn 360)).isSome = true ∧
        ¬ (busyTurn 360).top - w.renewed ≤ renewalBound (seconds 60) ∧
        w.written + seconds jobLeaseSeconds < (busyTurn 360).top)) = true := by decide
  obtain ⟨w, hr, hp⟩ := exists_pacedRun h
  obtain ⟨hpaced, hgo, hlate, hlease⟩ := of_decide_eq_true hp
  refine ⟨w, hr, hpaced, hgo, hlate, fun row hrow => ?_⟩
  have hbeat : (beat w.written row).leaseExpiresAt = some (w.written + seconds jobLeaseSeconds) :=
    rfl
  simp only [Job.leaseExpired, hbeat, hlease, decide_true, Bool.and_true, beq_iff_eq]
  exact hrow

end RetroBridge.Jobs
