/-
  File:      RetroBridge/Jobs/Quota.lean
  Subject:   THE SUBMISSION LIMITS (retrobridge/jobs/utils.py: `create_job` under BEGIN IMMEDIATE).

  `create_job` takes the write lock before it counts, so what it has counted is still true when it
  commits:

  * `effect_frozen` -- while a request holds the lock, no step but its own commit changes a row;
  * `Admitted`, `admitted_step` -- THE INVARIANT: a request past its check is below both limits;
  * `pending_step` -- the pending rows of a user over a step;
  * `submission_limits_run` -- the quota is never passed once it is kept, and no hour ever holds
    more new rows than `MAX_JOBS_PER_HOUR`, on every run.
-/
import RetroBridge.Jobs.Change

namespace RetroBridge.Jobs

open Relational Transition

/-! ## 1. The write lock -/

section Lock

variable {site : JobSite} {s s' : Sys}

/-- A worker's act that writes finds the write lock free. -/
theorem workerWrite_locked {w : Worker} {a : WorkerAct} {ph : WorkerPhase}
    (h : workerMove site s w a = some ph) (hl : s.writer ≠ none) (row : Job) :
    workerWrite site s w a row = row := by
  cases workerMove_moved h with
  | sweepCommit _ hn => exact absurd hn hl
  | recover _ hn => exact absurd hn hl
  | claimPort _ _ hn _ _ => exact absurd hn hl
  | @heartbeat stored _ _ _ _ _ _ hn _ =>
      cases stored with
      | false => rfl
      | true => exact absurd (hn rfl) hl
  | finish hn => exact absurd hn hl
  | sweepRead | claimSkip | claimNone | loadGone | load | loadNoPort | run | abandon => rfl

theorem requestWrite_locked {r : Nat} {a : RequestAct} {ph : RequestPhase × Option Nat}
    (h : requestMove site.toSite s r a = some ph) (hl : s.writer ≠ none) (row : Job) :
    requestWrite s r a row = row := by
  cases requestMove_moved h with
  | cancelCommit _ hn => exact absurd hn hl
  | cancelRead | bulkRead | bulkReadMore | bulkReadAgain | createBegin | createCheck | createFlush
  | createCommit | createAbort => rfl

/-- **Under the write lock no row changes** but by the commit of the request that holds it. -/
theorem effect_frozen {a : Act} (h : effect site s a = some s') (hl : s.writer ≠ none) :
    s'.jobs = s.jobs ∨ ∃ r job, a = .request r .createCommit ∧ s.request r = .flushed job := by
  cases a with
  | worker w a =>
      obtain ⟨ph, hph, rfl⟩ := effect_worker h
      exact Or.inl (writeRows_same fun row _ => workerWrite_locked hph hl row)
  | request r a =>
      obtain ⟨ph, hph, rfl⟩ := effect_request h
      have hrows : writeRows site s (.request r a) = s.jobs :=
        writeRows_same fun row _ => requestWrite_locked hph hl row
      cases hcr : created? s r a with
      | none =>
          refine Or.inl ?_
          show writeJobs site s (.request r a) = s.jobs
          simp only [writeJobs, hcr, hrows]
      | some job =>
          cases a <;> simp only [created?, reduceCtorEq] at hcr
          split at hcr
          · rename_i hfl
            exact Or.inr ⟨r, _, rfl, hfl⟩
          · cases hcr

end Lock

/-! ## 2. A request past its check -/

/-- Below both limits at the time of the state. -/
def BelowLimits (site : Site) (s : Sys) (userId : Nat) : Prop :=
  (∃ user, site.users.get? userId = some user ∧
    (s.jobs.count (Job.pending userId) : Int) < jobLimit site user) ∧
  (0 < maxJobsPerHour site →
    (s.jobs.count (Job.createdSince userId (s.clock - hour)) : Int) < maxJobsPerHour site)

/-- What a request has established about its user's rows. -/
def PhaseAdmitted (site : Site) (s : Sys) : RequestPhase → Prop
  | .checked sub => BelowLimits site s sub.userId
  | .flushed job => BelowLimits site s job.userId
  | _ => True

/-- **The invariant of `create_job`**: past its check a request is below both limits. -/
def Admitted (site : Site) (s : Sys) : Prop := ∀ r, PhaseAdmitted site s (s.request r)

/-- Time passes and no row changes: still below. -/
theorem BelowLimits.mono {site : Site} {s s' : Sys} {u : Nat} (h : BelowLimits site s u)
    (hj : s'.jobs = s.jobs) (hc : s.clock ≤ s'.clock) : BelowLimits site s' u := by
  refine ⟨hj ▸ h.1, fun hpos => ?_⟩
  have hle : s'.jobs.count (Job.createdSince u (s'.clock - hour)) ≤
      s.jobs.count (Job.createdSince u (s.clock - hour)) := by
    rw [hj]
    exact Table.count_mono fun j _ => Job.createdSince_mono (Int.sub_le_sub_right hc hour)
  have := h.2 hpos
  omega

section Admitted

variable {site : JobSite} {s s' : Sys}

/-- What the check has established when it lets a request pass. -/
theorem belowLimits_of_check {sub : Submission} {user : User}
    (hu : site.users.get? sub.userId = some user)
    (hq : (getUserQuota site.toSite s.jobs user).2.2 = false)
    (hr : (checkRateLimit site.toSite s.clock s.jobs sub.userId).1 = false) :
    BelowLimits site.toSite s sub.userId := by
  refine ⟨⟨user, hu, ?_⟩, checkRateLimit_false hr⟩
  have hid : user.id = sub.userId := (Table.get?_eq_some.mp hu).2
  simp only [getUserQuota, decide_eq_false_iff_not, hid] at hq
  omega

/-- The request's own move keeps it below the limits: it is, or the check has just passed. -/
theorem requestMove_admitted {r : Nat} {a : RequestAct} {ph : RequestPhase × Option Nat}
    (hA : Admitted site.toSite s) (h : requestMove site.toSite s r a = some ph) :
    PhaseAdmitted site.toSite s ph.1 := by
  have hr := hA r
  cases requestMove_moved h with
  | createCheck _ hu hquota hrate => exact belowLimits_of_check hu hquota hrate
  | createFlush e =>
      rw [e] at hr
      exact hr
  | cancelRead | bulkRead | bulkReadMore | bulkReadAgain | cancelCommit | createBegin
  | createCommit | createAbort => trivial

/-- A phase that carries an obligation is inside the critical section. -/
theorem phaseAdmitted_of_not_creating {ph : RequestPhase} (h : ph.creating = false) :
    PhaseAdmitted site.toSite s ph := by
  cases ph <;> simp only [RequestPhase.creating, Bool.true_eq_false] at h <;> trivial

theorem PhaseAdmitted.mono {ph : RequestPhase} (h : PhaseAdmitted site.toSite s ph)
    (hj : s'.jobs = s.jobs) (hc : s.clock ≤ s'.clock) : PhaseAdmitted site.toSite s' ph := by
  cases ph with
  | checked sub => exact BelowLimits.mono h hj hc
  | flushed job => exact BelowLimits.mono h hj hc
  | idle => trivial
  | cancel dirty => trivial
  | begun sub => trivial

/-- A request that stays or gets inside the critical section has written no row yet. -/
theorem writeJobs_of_creating {r : Nat} {a : RequestAct} {ph : RequestPhase × Option Nat}
    (h : requestMove site.toSite s r a = some ph) (hc : ph.1.creating = true) :
    writeJobs site s (.request r a) = s.jobs := by
  cases requestMove_moved h with
  | cancelCommit | createCommit => cases hc
  | cancelRead | bulkRead | bulkReadMore | bulkReadAgain | createBegin | createCheck | createFlush
  | createAbort => exact writeRows_same fun _ _ => rfl

/-- **`Admitted` holds along every run.** -/
theorem admitted_step {l : Label} (hO : Ok site s) (hA : Admitted site.toSite s)
    (h : Step site s l s') : Admitted site.toSite s' := by
  obtain ⟨hcl, he⟩ := h.effect
  have hA' : Admitted site.toSite (s.at l.1) := fun r => (hA r).mono rfl hcl
  obtain ⟨now, a⟩ := l
  intro q
  -- outside the critical section there is nothing to show
  cases hq : (s'.request q).creating with
  | false => exact phaseAdmitted_of_not_creating hq
  | true =>
      cases a with
      | worker w a =>
          have hj : s'.jobs = s.jobs := by
            obtain ⟨ph, _, rfl⟩ := effect_worker he
            have hl : s.writer = some q := hO.lock q hq
            rcases effect_frozen he (by show s.writer ≠ none; rw [hl]; simp) with e | ⟨_, _, e, _⟩
            · exact e
            · cases e
          obtain ⟨ph, _, rfl⟩ := effect_worker he
          exact (hA' q).mono hj le_rfl
      | request r a =>
          obtain ⟨ph, hph, rfl⟩ := effect_request he
          by_cases hqr : q = r
          · subst hqr
            have e : ((s.at now).setRequest q ph.1).request q = ph.1 := Sys.setRequest_self ..
            have hc : ph.1.creating = true := by rw [← e]; exact hq
            show PhaseAdmitted _ _ (((s.at now).setRequest q ph.1).request q)
            rw [e]
            exact (requestMove_admitted hA' hph).mono (writeJobs_of_creating hph hc) le_rfl
          · have e : ((s.at now).setRequest r ph.1).request q = s.request q :=
              Sys.setRequest_other _ _ hqr
            have hc : (s.request q).creating = true := by rw [← e]; exact hq
            have hl : s.writer = some q := hO.lock q hc
            show PhaseAdmitted _ _ (((s.at now).setRequest r ph.1).request q)
            rw [e]
            rcases effect_frozen he (by show s.writer ≠ none; rw [hl]; simp) with
              hj | ⟨r', job, ha, hfl⟩
            · exact (hA' q).mono hj le_rfl
            · -- the committing request would hold the lock that `q` holds
              cases ha
              have hr : (s.request r).creating = true := by
                have hfl' : s.request r = .flushed job := hfl
                rw [hfl']; rfl
              rw [hO.lock r hr] at hl
              exact absurd (Option.some.inj hl).symm hqr

end Admitted

/-! ## 3. The limits over a run -/

section Limits

variable {site : JobSite} {s s' : Sys} {l : Label}

/-- The pending rows of a user over a step: no more than there were, or one more by a commit of
    `create_job` for this user. -/
theorem pending_step (hO : Ok site s) (h : Step site s l s') (u : Nat) :
    s'.jobs.count (Job.pending u) ≤ s.jobs.count (Job.pending u) ∨
      ∃ r job, l.2 = .request r .createCommit ∧ s.request r = .flushed job ∧ job.userId = u ∧
        s'.jobs.count (Job.pending u) ≤ s.jobs.count (Job.pending u) + 1 := by
  obtain ⟨_, he⟩ := h.effect
  have hO' := hO.at l.1
  by_cases hcr : ∃ r job, l.2 = .request r .createCommit ∧ s.request r = .flushed job ∧
      job.userId = u
  · obtain ⟨r, job, ha, hfl, hu⟩ := hcr
    rw [ha] at he
    exact Or.inr ⟨r, job, ha, hfl, hu, by simpa using effect_count_create he⟩
  · have hle : s'.jobs.count (Job.pending u) ≤ (s.at l.1).jobs.count (Job.pending u) :=
      effect_count_le hO'.recalls he (fun row _ row' hch hp => ?_) fun r job ha hfl => ?_
    · exact Or.inl hle
    · obtain ⟨hu, hf⟩ := Job.pending_iff.mp hp
      exact Job.pending_iff.mpr ⟨hch.fixed.1.symm.trans hu, hch.unfinished hf⟩
    · have hne : ¬job.userId = u := fun hu => hcr ⟨r, job, ha, hfl, hu⟩
      simp [Job.pending, hne]

/-- **The quota over a step**: kept if it was kept. -/
theorem quota_step (hO : Ok site s) (hA : Admitted site.toSite s) (h : Step site s l s')
    {user : User} (hu : user ∈ site.users)
    (hq : (s.jobs.count (Job.pending user.id) : Int) ≤ jobLimit site.toSite user) :
    (s'.jobs.count (Job.pending user.id) : Int) ≤ jobLimit site.toSite user := by
  rcases pending_step hO h user.id with hle | ⟨r, job, _, hfl, hju, hle⟩
  · omega
  · have hr := hA r
    rw [hfl] at hr
    obtain ⟨⟨user', hu', hlt⟩, _⟩ := hr
    obtain ⟨hm, hid⟩ := Table.get?_eq_some.mp hu'
    cases Table.eq_of_key hm hu (hid.trans hju)
    rw [hju] at hlt
    omega

/-- **The rate over a commit of `create_job`.** -/
theorem rate_commit (hA : Admitted site.toSite s) {r : Nat} {now : Time} {job : Job}
    (h : Step site s (now, .request r .createCommit) s') (hfl : s.request r = .flushed job)
    (hpos : 0 < maxJobsPerHour site.toSite) :
    (s'.jobs.count (Job.createdSince job.userId (now - hour)) : Int) ≤
      maxJobsPerHour site.toSite := by
  obtain ⟨hcl, he⟩ := h.effect
  have hr := hA r
  rw [hfl] at hr
  have hlt : (s.jobs.count (Job.createdSince job.userId (now - hour)) : Int) <
      maxJobsPerHour site.toSite :=
    (show PhaseAdmitted site.toSite (s.at now) (.flushed job) from hr.mono rfl hcl).2 hpos
  have hle : s'.jobs.count (Job.createdSince job.userId (now - hour)) ≤
      s.jobs.count (Job.createdSince job.userId (now - hour)) + 1 := by
    simpa using effect_count_create he
  omega

end Limits

/-- **THE SUBMISSION LIMITS HOLD ON EVERY RUN.** From any state of a run on, a user at or below the
    effective limit never gets above it; and with `MAX_JOBS_PER_HOUR` set, after every commit of
    `create_job` the user has at most that many rows created in the hour before it. -/
theorem submission_limits_run {site : JobSite} {s₀ s : Sys} {ls : List Label} (h0 : s₀.Started)
    (h : Run (Step site) s₀ ls s) :
    (∀ user ∈ site.users, (s.jobs.count (Job.pending user.id) : Int) ≤ jobLimit site.toSite user →
      ∀ ls' s', Run (Step site) s ls' s' →
        (s'.jobs.count (Job.pending user.id) : Int) ≤ jobLimit site.toSite user) ∧
    (0 < maxJobsPerHour site.toSite → ∀ r now job s',
      Step site s (now, .request r .createCommit) s' → s.request r = .flushed job →
        (s'.jobs.count (Job.createdSince job.userId (now - hour)) : Int) ≤
          maxJobsPerHour site.toSite) := by
  have hstart : Admitted site.toSite s₀ := fun r => by rw [h0.request r]; trivial
  have hI := h.invariant (I := fun s => Ok site s ∧ Admitted site.toSite s)
    ⟨ok_started h0, hstart⟩ fun s l s' ⟨hO, hA⟩ hs => ⟨step_ok hO hs, admitted_step hO hA hs⟩
  refine ⟨fun user hu hq ls' s' h' => ?_, fun hpos r now job s' hs hfl =>
    rate_commit hI.2 hs hfl hpos⟩
  have hJ := h'.invariant
    (I := fun s => (Ok site s ∧ Admitted site.toSite s) ∧
      (s.jobs.count (Job.pending user.id) : Int) ≤ jobLimit site.toSite user)
    ⟨hI, hq⟩ fun s l s' ⟨⟨hO, hA⟩, hq⟩ hs =>
      ⟨⟨step_ok hO hs, admitted_step hO hA hs⟩, quota_step hO hA hs hu hq⟩
  exact hJ.2

/-- A request whose row is in the transaction. -/
def RequestPhase.isFlushed : RequestPhase → Bool
  | .flushed _ => true
  | _ => false

theorem isFlushed_some {ph : RequestPhase} (h : ph.isFlushed = true) :
    ∃ job, ph = .flushed job := by
  cases ph with
  | flushed job => exact ⟨job, rfl⟩
  | _ => cases h

/-- The second submission of a user who may have two jobs at a time and three an hour. -/
theorem submission_limits_run_small : ∃ s s' job, s.request 1 = .flushed job ∧
    Step smallSite s (0, .request 1 .createCommit) s' ∧ s'.jobs.count (Job.pending 1) = 2 ∧
    ((s'.jobs.count (Job.createdSince job.userId (0 - hour)) : Nat) : Int) ≤
      maxJobsPerHour smallSite.toSite := by
  have h : ((execAll (exec smallSite) smallStart
      ([.createBegin smallSubmission, .createCheck, .createFlush "job-2/hello.hex" 64].map
        fun a => (0, .request 1 a))).any fun s =>
      (s.request 1).isFlushed &&
      (exec smallSite s (0, .request 1 .createCommit)).any fun s' =>
        decide (s'.jobs.count (Job.pending 1) = 2)) = true := by decide
  obtain ⟨s, hr, hp⟩ := exists_run_of_execAll h
  obtain ⟨hfl, hp⟩ := Bool.and_eq_true_iff.mp hp
  obtain ⟨s', hs', hp'⟩ := (Option.any_eq_true _ _).mp hp
  obtain ⟨job, hjob⟩ := isFlushed_some hfl
  exact ⟨s, s', job, hjob, hs', of_decide_eq_true hp',
    (submission_limits_run smallStart_started hr).2 (by decide) 1 0 job s' hs' hjob⟩

end RetroBridge.Jobs
