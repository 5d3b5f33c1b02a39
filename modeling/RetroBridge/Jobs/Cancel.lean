/-
  File:      RetroBridge/Jobs/Cancel.lean
  Subject:   CANCELING A RUNNING JOB (worker.py: the exits of `run_job_on_device`; `claim_job`).

  * `runStep_status` -- what one step can do to the status in the object: nothing, or it cancels,
    or it completes after a check that found no cancellation, or the answer was a failure
    (`RunEvent.fails`);
  * `runStep_fails` -- a failure is recorded as `failed` without a check: the exits of a missing
    upload, a failed transfer and both exception handlers;
  * `RespectsCancel`, `FailsUncanceled` -- the property of a step, and its condition;
  * `cancellation_run` -- no cancellation is lost in a run without such a failure, and a row with a
    cancellation asked for is never claimed again.
-/
import RetroBridge.Jobs.Cap

namespace RetroBridge.Jobs

open Relational Transition

/-! ## 1. What one step of an execution records -/

/-- The answers that end an execution as failed. -/
def RunEvent.fails : RunEvent → Bool
  | .prepared false | .sendReturns false | .fault _ => true
  | _ => false

section RunStep

variable {site : JobSite} {port : DevicePort} {now : Time} {row : Option Job} {rs rs' : RunState}
  {ev : RunEvent}

theorem onFault_status (e : Raised) (obj : Job) : (onFault e now obj).obj.status = .failed := by
  cases e <;> rfl

theorem onCancelled_status (obj : Job) :
    (onCancelled now obj).obj.status = obj.status ∨
      (onCancelled now obj).obj.status = .canceled := by
  unfold onCancelled
  split
  · exact Or.inr rfl
  · exact Or.inl rfl

/-- **A failure is recorded as failed**, whatever the row says. -/
theorem runStep_fails (hf : ev.fails = true) (hs : runStep site port now row rs ev = some rs') :
    rs'.obj.status = .failed := by
  obtain ⟨obj, phase⟩ := rs
  cases ev with
  | prepared e =>
      cases e with
      | true => cases hf
      | false =>
          cases phase <;> simp only [runStep, reduceCtorEq] at hs
          cases hs
          rfl
  | sendReturns b =>
      cases b with
      | true => cases hf
      | false =>
          cases phase <;> simp only [runStep, reduceCtorEq] at hs
          cases hs
          rfl
  | fault e =>
      cases phase <;> simp only [runStep, reduceCtorEq] at hs
      all_goals
        cases hs
        exact onFault_status e obj
  | ok => cases hf
  | received _ => cases hf
  | readError => cases hf
  | callback => cases hf

/-- **What one step does to the recorded status.** -/
theorem runStep_status (hs : runStep site port now row rs ev = some rs') :
    rs'.obj.status = rs.obj.status ∨ rs'.obj.status = .canceled ∨
      (rs'.obj.status = .completed ∧ checkJobCancelled row = false) ∨ ev.fails = true := by
  cases runStep_moved hs with
  | goOn _ _ => exact Or.inl rfl
  | prepared _ => exact Or.inl rfl
  | cancelled _ =>
      rcases onCancelled_status rs.obj with e | e
      · exact Or.inl e
      · exact Or.inr (Or.inl e)
  | canceled _ => exact Or.inr (Or.inl (Outcome.record_status _ _ _))
  | completed _ hc => exact Or.inr (Or.inr (Or.inl ⟨rfl, hc⟩))
  | closed _ => exact Or.inl rfl
  | missing | sendFailed | fault => exact Or.inr (Or.inr (Or.inr rfl))

theorem afterBeat_status (hs : afterBeat rs = some rs') : rs'.obj.status = rs.obj.status := by
  obtain ⟨obj, phase⟩ := rs
  cases phase <;> simp only [afterBeat, reduceCtorEq] at hs
  cases hs
  rfl

end RunStep

/-! ## 2. The outcome of a canceled job -/

/-- An outcome that an execution records in this step is `canceled` if a cancellation of its job
    is committed by then. -/
def RespectsCancel (s s' : Sys) : Prop :=
  ∀ w c loaded port rs rs', s.worker w = .execute c loaded port rs →
    s'.worker w = .execute c loaded port rs' → rs'.obj.status ≠ rs.obj.status →
    (∃ row ∈ s.jobs, row.id = c.jobId ∧ row.cancelRequested = true) → rs'.obj.status = .canceled

/-- An execution is answered with a failure only while no cancellation of its job is committed. -/
def FailsUncanceled (s : Sys) (l : Label) : Prop :=
  ∀ w ev c loaded port rs, l.2 = .worker w (.run ev) → ev.fails = true →
    s.worker w = .execute c loaded port rs →
    ∀ row ∈ s.jobs, row.id = c.jobId → row.cancelRequested = false

section Cancel

variable {site : JobSite} {s s' : Sys} {l : Label}

/-- What takes an execution from a place to a place. -/
theorem workerMove_execute {w : Worker} {a : WorkerAct} {c : Claim} {loaded : Job}
    {port : DevicePort} {rs rs' : RunState} (hw : s.worker w = .execute c loaded port rs)
    (h : workerMove site s w a = some (.execute c loaded port rs')) :
    (∃ ev, a = .run ev ∧ runStep site port s.clock (s.jobs.get? loaded.id) rs ev = some rs') ∨
      afterBeat rs = some rs' := by
  cases workerMove_moved h with
  | @run ev _ _ _ _ _ e hrun =>
      cases hw.symm.trans e
      exact Or.inl ⟨ev, rfl, hrun⟩
  | heartbeat e _ hbeat =>
      cases hw.symm.trans e
      exact Or.inr hbeat
  | load e _ _ _ => cases hw.symm.trans e

theorem respectsCancel_step (hO : Ok site s) (hcond : FailsUncanceled s l)
    (h : Step site s l s') : RespectsCancel s s' := by
  intro w c loaded port rs rs' hw hw' hne ⟨row, hrow, hid, hc⟩
  rcases h.worker_cases w with ⟨hsame, _⟩ | ⟨a, ha, hph⟩
  · rw [hsame, hw] at hw'
    cases hw'
    exact absurd rfl hne
  · rw [hw'] at hph
    rcases workerMove_execute (s := s.at l.1) hw hph with ⟨ev, rfl, hrun⟩ | hbeat
    · rcases runStep_status hrun with e | e | ⟨_, hcheck⟩ | hf
      · exact absurd e hne
      · exact e
      · -- the check reads this row and finds the cancellation
        have hloaded := hO.worker w
        rw [hw] at hloaded
        have hget : (s.at l.1).jobs.get? loaded.id = some row :=
          Table.get?_eq_some.mpr ⟨hrow, hid.trans hloaded.1.symm⟩
        rw [checkJobCancelled_of hget hc] at hcheck
        cases hcheck
      · rw [hcond w ev c loaded port rs ha hf hw row hrow hid] at hc
        cases hc
    · exact absurd (afterBeat_status hbeat) hne

/-- An execution after one of its answers. -/
theorem step_run {now : Time} {w : Worker} {ev : RunEvent} {c : Claim} {loaded : Job}
    {port : DevicePort} {rs : RunState} (h : Step site s (now, .worker w (.run ev)) s')
    (hw : s.worker w = .execute c loaded port rs) :
    ∃ rs', s'.worker w = .execute c loaded port rs' ∧
      runStep site port now (s.jobs.get? loaded.id) rs ev = some rs' := by
  rcases h.worker_cases w with ⟨_, hne⟩ | ⟨a, ha, hph⟩
  · exact absurd rfl (hne _)
  · cases ha
    have hw' : (s.at now).worker w = .execute c loaded port rs := hw
    generalize hph' : s'.worker w = ph at hph
    cases workerMove_moved hph with
    | @run _ _ _ _ _ rs' e hrun =>
        cases hw'.symm.trans e
        exact ⟨rs', rfl, hrun⟩

/-- **A failure under a committed cancellation loses it**: the condition is needed at every step. -/
theorem not_respectsCancel_of_fails {now : Time} {w : Worker} {ev : RunEvent} {c : Claim}
    {loaded : Job} {port : DevicePort} {rs : RunState} (hf : ev.fails = true)
    (h : Step site s (now, .worker w (.run ev)) s') (hw : s.worker w = .execute c loaded port rs)
    (hrun : rs.obj.status = .running)
    (hrow : ∃ row ∈ s.jobs, row.id = c.jobId ∧ row.cancelRequested = true) :
    ¬RespectsCancel s s' := by
  intro hR
  obtain ⟨rs', hw', hs⟩ := step_run h hw
  have hst := runStep_fails hf hs
  have hc := hR w c loaded port rs rs' hw hw' (by rw [hst, hrun]; simp) hrow
  rw [hst] at hc
  cases hc

/-- **A row with a cancellation asked for is not claimed** in a step. -/
theorem not_claimed_step (hO : Ok site s) (h : Step site s l s') {row : Job} (hrow : row ∈ s.jobs)
    (hc : row.cancelRequested = true) :
    (∀ w, l.2 ≠ .worker w (.claimPort row.id)) ∧
      ∃ row' ∈ s'.jobs, row'.id = row.id ∧ row'.cancelRequested = true := by
  obtain ⟨_, he⟩ := h.effect
  obtain ⟨row', hrow', hid, hch⟩ := effect_next (hO.at l.1).recalls he hrow
  refine ⟨fun w ha => ?_, row', hrow', hid, hch.cancelRequested hc⟩
  rw [ha] at he
  obtain ⟨ph, hph, _⟩ := effect_worker he
  obtain ⟨_, _, _, q, _, hq, hqid, _, _, hnext, _⟩ := claimPort_enabled hph
  cases Table.eq_of_key hq hrow hqid
  rw [(candidate_iff.mp (candidate_of_isNext hnext)).2.2] at hc
  cases hc

end Cancel

/-- A transfer is under way when an administrator cancels; then the modem gives up. -/
def canceledTransfer : List Label :=
  claimSteps 0 workerA ++ transferSteps 0 workerA ++
    [(seconds 1, .request 9 (.cancelRead 1 2 true)), (seconds 1, .request 9 .cancelCommit)]

/-- A worker executes job `i` with an object of this status. -/
def WorkerPhase.executes (i : Nat) (status : JobStatus) : WorkerPhase → Bool
  | .execute c _ _ rs => c.jobId == i && rs.obj.status == status
  | _ => false

theorem executes_some {i : Nat} {status : JobStatus} {ph : WorkerPhase}
    (h : ph.executes i status = true) :
    ∃ c loaded port rs, ph = .execute c loaded port rs ∧ c.jobId = i ∧ rs.obj.status = status := by
  cases ph with
  | execute c loaded port rs =>
      obtain ⟨hid, hstatus⟩ := Bool.and_eq_true_iff.mp h
      exact ⟨c, loaded, port, rs, rfl, eq_of_beq hid, eq_of_beq hstatus⟩
  | _ => cases h

/-- **A committed cancellation is lost**: the failed transfer is recorded as failed. -/
theorem lost_cancellation : ∃ s s', Run (Step smallSite) smallStart canceledTransfer s ∧
    Step smallSite s (seconds 2, .worker workerA (.run (.sendReturns false))) s' ∧
    ¬RespectsCancel s s' := by
  have h : ((execAll (exec smallSite) smallStart canceledTransfer).any fun s =>
      (exec smallSite s (seconds 2, .worker workerA (.run (.sendReturns false)))).any fun _ =>
        (s.worker workerA).executes 1 .running &&
        decide ((s.jobs.get? 1).map Job.cancelRequested = some true)) = true := by decide
  obtain ⟨s, s', hr, hs, hp⟩ := exists_run_step_of_execAll h
  obtain ⟨hw, hc⟩ := Bool.and_eq_true_iff.mp hp
  obtain ⟨row, hrow, hreq⟩ := Option.map_eq_some_iff.mp (of_decide_eq_true hc)
  obtain ⟨hm, hid⟩ := Table.get?_eq_some.mp hrow
  obtain ⟨c, loaded, port, rs, e, hj, hst⟩ := executes_some hw
  exact ⟨s, s', hr, hs, not_respectsCancel_of_fails rfl hs e hst ⟨row, hm, hid.trans hj.symm, hreq⟩⟩

/-- **NO CANCELLATION IS LOST** in a run without a failure under a committed cancellation; and in
    any run a row with a cancellation asked for keeps it and is never claimed again. -/
theorem cancellation_run {site : JobSite} {s₀ s : Sys} {ls : List Label} (h0 : s₀.Started)
    (h : Run (guarded (Step site) FailsUncanceled) s₀ ls s) :
    (∀ l s', FailsUncanceled s l → Step site s l s' → RespectsCancel s s') ∧
    ∀ row ∈ s.jobs, row.cancelRequested = true → ∀ ls' s', Run (Step site) s ls' s' →
      ¬ClaimedIn ls' row.id ∧ ∃ row' ∈ s'.jobs, row'.id = row.id ∧ row'.cancelRequested = true := by
  have hO := h.of_guarded.invariant (ok_started h0) fun _ _ _ hO hs => step_ok hO hs
  refine ⟨fun l s' hcond hs => respectsCancel_step hO hcond hs, fun row hrow hc ls' s' h' => ?_⟩
  have hI := h'.invariant_history
    (I := fun ls s => Ok site s ∧ ¬ClaimedIn ls row.id ∧
      ∃ row' ∈ s.jobs, row'.id = row.id ∧ row'.cancelRequested = true)
    ⟨hO, fun ⟨_, _, hm⟩ => absurd hm List.not_mem_nil, row, hrow, rfl, hc⟩
    fun ls s l s' ⟨hO, hn, q, hq, hqid, hqc⟩ hs => by
      obtain ⟨hnot, q', hq', hid', hqc'⟩ := not_claimed_step hO hs hq hqc
      refine ⟨step_ok hO hs, fun ⟨t, w, hm⟩ => ?_, q', hq', hid'.trans hqid, hqc'⟩
      rcases List.mem_append.mp hm with hm | hm
      · exact hn ⟨t, w, hm⟩
      · refine hnot w ?_
        rw [← List.mem_singleton.mp hm, hqid]
  exact hI.2

/-- No step of an execution that fails. -/
def neverFails (_ : Sys) (l : Label) : Bool :=
  match l.2 with
  | .worker _ (.run ev) => !ev.fails
  | _ => true

theorem failsUncanceled_of {s : Sys} {l : Label} (h : neverFails s l = true) :
    FailsUncanceled s l := by
  intro w ev c loaded port rs ha hf
  simp only [neverFails, ha, hf] at h
  cases h

/-- A cancellation that the first check of an execution finds. -/
theorem cancellation_run_small : ∃ s s',
    Step smallSite s (0, .worker workerA (.run .ok)) s' ∧
    (s.jobs.get? 1).map Job.cancelRequested = some true ∧
    (∃ c loaded port rs, s'.worker workerA = .execute c loaded port rs ∧
      rs.obj.status = .canceled) ∧ RespectsCancel s s' := by
  have h : ((execAll (execWhen neverFails (exec smallSite)) smallStart
      (claimSteps 0 workerA ++ [(0, .worker workerA .load),
        (0, .worker workerA (.run (.prepared true))), (0, .request 9 (.cancelRead 1 2 true)),
        (0, .request 9 .cancelCommit)])).any fun s =>
      (exec smallSite s (0, .worker workerA (.run .ok))).any fun s' =>
        decide ((s.jobs.get? 1).map Job.cancelRequested = some true) &&
        (s'.worker workerA).executes 1 .canceled) = true := by decide
  obtain ⟨s, s', hr, hs, hp'⟩ := exists_guarded_run_step (fun _ _ hok => failsUncanceled_of hok) h
  obtain ⟨hc, hw⟩ := Bool.and_eq_true_iff.mp hp'
  obtain ⟨c, loaded, port, rs, e, -, hst⟩ := executes_some hw
  exact ⟨s, s', hs, of_decide_eq_true hc, ⟨c, loaded, port, rs, e, hst⟩,
    (cancellation_run smallStart_started hr).1 _ s' (failsUncanceled_of rfl) hs⟩

end RetroBridge.Jobs
