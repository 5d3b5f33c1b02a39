/-
  File:      RetroBridge/Jobs/Classify.lean
  Subject:   WHICH OUTCOME A CAPTURE RECORDS (worker.py: `run_job_on_device`, after a successful
             XMODEM send).

  The four exits of the capture loop meet in one decision, which looks at the row once more and at
  nothing else: a capture that was cut off and one that fell silent are recorded alike.

  * `Classified` -- what each exit is for: `canceled` where a check saw the request, `failed` where
    the runtime ran out, `completed` with exit code 0 only where the device fell silent or hung up;
  * `outcome_classified_iff` -- **a capture is classified so exactly where the last check of the row
    finds the cancellation, or the last turn of the loop was in time and saw none.**
-/
import RetroBridge.Jobs.Capture
import RetroBridge.Jobs.System

namespace RetroBridge.Jobs

open Transition

/-- **What a capture should record in the job `j`**: `e` is the exit it took, `row` the row that its
    last check has read. A cancellation that a check saw comes before the runtime. -/
structure Classified (e : Exit) (row : Option Job) (j : Job) : Prop where
  canceled : e = .cancelled ∨ checkJobCancelled row = true → j.status = .canceled
  failed : e = .runtime → checkJobCancelled row = false → j.status = .failed
  completed : j.status = .completed → j.exitCode = some 0 ∧ (e = .idle ∨ e = .hungUp)

section Classified

variable {e : Exit} {row : Option Job} {now : Time} {c : Capture} {obj : Job}

/-- The final outcome looks at the row alone. -/
theorem finalOutcome_of_cancelled (h : checkJobCancelled row = true) :
    finalOutcome now row c = .canceled (some (runtimeSince now c.startTime)) := if_pos h

theorem finalOutcome_of_not_cancelled (h : checkJobCancelled row = false) :
    finalOutcome now row c = .completed (runtimeSince now c.startTime) :=
  if_neg (by simp [h])

/-- **Which exits are classified**: every one where the last check finds the cancellation, and
    otherwise the two that end a capture of their own. -/
theorem classified_finalOutcome_iff : Classified e row ((finalOutcome now row c).record now obj) ↔
    checkJobCancelled row = true ∨ e = .idle ∨ e = .hungUp := by
  cases hrow : checkJobCancelled row with
  | true =>
      rw [finalOutcome_of_cancelled hrow]
      refine iff_of_true ⟨fun _ => Outcome.record_status .., fun _ hno => ?_, fun hst => ?_⟩
        (Or.inl rfl)
      · rw [hrow] at hno
        cases hno
      · rw [Outcome.record_status] at hst
        cases hst
  | false =>
      rw [finalOutcome_of_not_cancelled hrow]
      have hst : ((Outcome.completed (runtimeSince now c.startTime)).record now obj).status =
          .completed := Outcome.record_status ..
      refine ⟨fun h => Or.inr (h.completed hst).2, fun h => ?_⟩
      have he : e = .idle ∨ e = .hungUp := h.resolve_left Bool.false_ne_true
      refine ⟨?_, ?_, fun _ => ⟨rfl, he⟩⟩
      · rintro (rfl | hc)
        · rcases he with he | he <;> cases he
        · rw [hrow] at hc
          cases hc
      · rintro rfl
        rcases he with he | he <;> cases he

end Classified

/-- The exits that are neither the runtime nor the poll. -/
theorem exit_own_iff {e : Exit} : e = .idle ∨ e = .hungUp ↔ e ≠ .runtime ∧ e ≠ .cancelled := by
  cases e <;> simp

/-- **OUTCOME CLASSIFICATION**: whatever the port, the job, the device, the clock and the row do in
    a capture that starts at `t₀`, goes on for `its` and leaves the loop in the turn `it`, the job
    it leaves is classified exactly where the last check of the row finds the cancellation, or
    where `it` began within `max_runtime` and its poll saw none. -/
theorem outcome_classified_iff {site : JobSite} {port : DevicePort} {obj : Job} {t₀ now : Time}
    {its : List Iteration} {it : Iteration} {d d' : Capture} {e : Exit} {row : Option Job}
    (hgo : execAll (goesOn port) (.start t₀) its = some d)
    (hleave : captureTurn port d it = .leave e d') :
    ∃ rs, execAll (execCall site port) ⟨obj, .capture (.start t₀)⟩
        (captureCalls port (.start t₀) its d it now row) = some rs ∧ rs.phase = .decided ∧
      (Classified e row rs.obj ↔ checkJobCancelled row = true ∨
        it.top - t₀ ≤ maxRuntime port ∧ checkJobCancelled it.row = false) := by
  refine ⟨_, execAll_captureCalls hgo hleave, rfl, ?_⟩
  show Classified e row ((finalOutcome now row d').record now obj) ↔ _
  obtain ⟨_, hruntime, hcancelled⟩ := captureTurn_leave hleave
  have hstart : d.startTime = t₀ := execAll_goesOn_startTime hgo
  rw [hstart] at hruntime hcancelled
  have hown : e = .idle ∨ e = .hungUp ↔
      it.top - t₀ ≤ maxRuntime port ∧ checkJobCancelled it.row = false := by
    rw [exit_own_iff, Ne, Ne, hruntime, hcancelled, Int.not_lt]
    constructor
    · rintro ⟨hle, hno⟩
      exact ⟨hle, Bool.eq_false_of_not_eq_true fun hc => hno ⟨hle, hc⟩⟩
    · rintro ⟨hle, hno⟩
      refine ⟨hle, fun hc => ?_⟩
      rw [hno] at hc
      exact Bool.false_ne_true hc.2
  rw [classified_finalOutcome_iff, hown]

/-! ## A capture of five minutes -/

/-- The job of the small installation, running. -/
def runningJob : Job := { newJob smallSubmission 0 1 "job-1/hello.hex" 64 with status := .running }

/-- A turn that finds the job running. -/
def runningTurn (n : Int) (data : List UInt8) : Iteration := turnAt n (some runningJob) data

/-- The loop variables after a byte at second `n`, with no heartbeat so far. -/
def captureAt (n : Int) : Capture := ⟨captureStart, captureStart + seconds n, captureStart⟩

/-- One byte, then silence: six seconds later the capture is complete. -/
theorem outcome_classified_small : ∃ rs,
    execAll (execCall smallSite defaultPort) ⟨runningJob, .capture (.start captureStart)⟩
      (captureCalls defaultPort (.start captureStart) [runningTurn 1 [0x2e]] (captureAt 1)
        (runningTurn 7 []) (captureStart + seconds 7) (some runningJob)) = some rs ∧
    Classified .idle (some runningJob) rs.obj := by
  have hgo : execAll (goesOn defaultPort) (.start captureStart) [runningTurn 1 [0x2e]] =
      some (captureAt 1) := rfl
  have hleave : captureTurn defaultPort (captureAt 1) (runningTurn 7 []) =
      .leave .idle (captureAt 1) := rfl
  obtain ⟨rs, hrun, _, hiff⟩ := @outcome_classified_iff smallSite defaultPort runningJob
    captureStart (captureStart + seconds 7) _ _ _ _ _ (some runningJob) hgo hleave
  exact ⟨rs, hrun, hiff.mpr (Or.inr (by decide))⟩

/-- **A capture that is cut off is completed**: a device that does not stop talking, the runtime
    exceeded after three turns, and the job is recorded completed with exit code 0. -/
theorem cut_off_completed : ∃ d rs,
    execAll (goesOn defaultPort) (.start captureStart)
      ([1, 150, 300].map fun n => runningTurn n [0x2e]) = some d ∧
    captureTurn defaultPort d (runningTurn 301 [0x2e]) = .leave .runtime d ∧
    execAll (execCall smallSite defaultPort) ⟨runningJob, .capture (.start captureStart)⟩
      (captureCalls defaultPort (.start captureStart)
        ([1, 150, 300].map fun n => runningTurn n [0x2e]) d (runningTurn 301 [0x2e])
        (captureStart + seconds 301) (some runningJob)) = some rs ∧
    rs.obj.status = .completed ∧ rs.obj.exitCode = some 0 ∧
    ¬ Classified .runtime (some runningJob) rs.obj := by
  refine ⟨captureAt 300, _, rfl, rfl, rfl, rfl, rfl, fun h => ?_⟩
  have hst : JobStatus.completed = .failed := h.failed rfl rfl
  cases hst

end RetroBridge.Jobs
