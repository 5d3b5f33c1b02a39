/-
  File:      RetroBridge/Jobs/LifeCycle.lean
  Subject:   THE LIFE CYCLE OF A JOB: queued, running, and one of the three finished statuses.

  * `LifeCycle`, `FollowsLifeCycle` -- the changes of status there are, and the steps that make no
    other;
  * `followsLifeCycle_step`, `finished_absorbing` -- an undisturbed step makes no other, and a run
    of such steps leaves a finished row finished;
  * `life_cycle_run` -- **both, in every undisturbed run**;
  * `finished_job_changes` -- a cancel that read the row before it was claimed.
-/
import RetroBridge.Jobs.Exclusive

namespace RetroBridge.Jobs

open Relational Transition

/-- The changes of status the life cycle has; `expired`: a recovery has found the lease expired. -/
inductive LifeCycle (expired : Prop) : JobStatus → JobStatus → Prop where
  | claim : LifeCycle expired .queued .running
  | cancel : LifeCycle expired .queued .canceled
  | complete : LifeCycle expired .running .completed
  | fail : LifeCycle expired .running .failed
  | stop : LifeCycle expired .running .canceled
  | requeue (h : expired) : LifeCycle expired .running .queued

/-- Every row keeps its status in the step or follows the life cycle. -/
def FollowsLifeCycle (s s' : Sys) (l : Label) : Prop :=
  ∀ row ∈ s.jobs, ∀ row' ∈ s'.jobs, row'.id = row.id → row'.status = row.status ∨
    LifeCycle (row.leaseExpired l.1 = true ∧ ∃ w, l.2 = .worker w .recover) row.status row'.status

/-- A cancel reads the queued row; a worker claims it, misses the upload and commits; the cancel
    commits. -/
def lateCancel : List Label :=
  [(0, .request 1 (.cancelRead 1 1 false))] ++ claimSteps 0 workerA ++
    [.load, .run (.prepared false), .finish].map fun a => (0, .worker workerA a)

/-- **A failed job becomes canceled**: the cancel writes the status it chose when it read. -/
theorem finished_job_changes : ∃ s s', Run (Step smallSite) smallStart lateCancel s ∧
    Step smallSite s (0, .request 1 .cancelCommit) s' ∧
    (s.jobs.get? 1).map Job.status = some .failed ∧
    (s'.jobs.get? 1).map Job.status = some .canceled := by
  have h : ((execAll (exec smallSite) smallStart lateCancel).any fun s =>
      (exec smallSite s (0, .request 1 .cancelCommit)).any fun s' => decide
        ((s.jobs.get? 1).map Job.status = some .failed ∧
          (s'.jobs.get? 1).map Job.status = some .canceled)) = true := by decide
  obtain ⟨s, s', hr, hs, hp⟩ := exists_run_step_of_execAll h
  exact ⟨s, s', hr, hs, of_decide_eq_true hp⟩

theorem LifeCycle.of_running {expired : Prop} {st : JobStatus} (h : st.finished = true) :
    LifeCycle expired .running st := by
  rcases JobStatus.finished_iff.mp h with rfl | rfl | rfl
  · exact .complete
  · exact .fail
  · exact .stop

theorem LifeCycle.unfinished {expired : Prop} {st st' : JobStatus} (h : LifeCycle expired st st') :
    st.finished = false := by
  cases h <;> rfl

section LifeCycle

variable {site : JobSite} {s s' : Sys} {l : Label}

/-- **One undisturbed step follows the life cycle.** -/
theorem followsLifeCycle_step (hA : Accounted site s) (hcond : Undisturbed site s l)
    (h : Step site s l s') : FollowsLifeCycle s s' l := by
  obtain ⟨_, he⟩ := h.effect
  intro row hrow row' hrow' hid
  have hch := effect_change (hA.ok.at l.1).recalls he hrow
  rw [← effect_row he hrow hrow' hid] at hch
  obtain ⟨now, a⟩ := l
  cases hch with
  | same => exact Or.inl rfl
  | @swept w oj rest hw hoid _ _ =>
      obtain ⟨q, hq, hqid, _, hst⟩ := hA.swept w _ hw oj List.mem_cons_self
      cases Table.eq_of_key hq hrow (hqid.trans hoid)
      rcases hst with e | e
      · exact Or.inr (by rw [e]; exact .cancel)
      · exact Or.inl e.symm
  | recoveredCanceled _ hs _ =>
      rw [Job.running_of_leaseExpired (stale_iff.mp hs).2]
      exact Or.inr .stop
  | recoveredQueued _ hs _ =>
      have hx := (stale_iff.mp hs).2
      rw [Job.running_of_leaseExpired hx]
      exact Or.inr (.requeue ⟨hx, _, rfl⟩)
  | claim _ _ hq =>
      rw [(candidate_iff.mp hq).2.1]
      exact Or.inr .claim
  | beat => exact Or.inl rfl
  | final hw _ hwid hret =>
      -- a final commit is a live worker's, whose row is running
      obtain ⟨_, q, hq, hqid, hrun, _⟩ := hA.occupied _ _ hw
      cases Table.eq_of_key hq hrow (hqid.trans hwid)
      rcases hret.flush_status row with e | hfin
      · exact Or.inl e
      · rw [hrun]
        exact Or.inr (.of_running hfin)
  | @cancel r dirty loaded hreq hm hlid hcl _ =>
      rw [(ormFlush_withCancel hcl).2.1]
      split
      · rename_i hq
        rcases hcond.2 r dirty rfl hreq _ hm hq row hrow hlid.symm with e | e
        · exact Or.inr (by rw [e]; exact .cancel)
        · exact Or.inl e.symm
      · exact Or.inl rfl

/-- A finished status is absorbing along an undisturbed run. -/
theorem finished_absorbing {ls : List Label} (hA : Accounted site s) {row : Job}
    (hrow : row ∈ s.jobs) (hfin : row.status.finished = true)
    (h : Run (guarded (Step site) (Undisturbed site)) s ls s') :
    ∃ row' ∈ s'.jobs, row'.id = row.id ∧ row'.status = row.status := by
  have hI := h.invariant (I := fun s => Accounted site s ∧
      ∃ row' ∈ s.jobs, row'.id = row.id ∧ row'.status = row.status)
    ⟨hA, row, hrow, rfl, rfl⟩ fun s l s' ⟨hA, q, hq, hqid, hqst⟩ hs => by
      refine ⟨accounted_step hA hs.1 hs.2, ?_⟩
      obtain ⟨_, he⟩ := hs.2.effect
      obtain ⟨q', hq', hid, _⟩ := effect_next (hA.ok.at l.1).recalls he hq
      refine ⟨q', hq', hid.trans hqid, ?_⟩
      rcases followsLifeCycle_step hA hs.1 hs.2 q hq q' hq' hid with e | hlc
      · exact e.trans hqst
      · have hunf := hlc.unfinished
        rw [hqst, hfin] at hunf
        cases hunf
  exact hI.2

end LifeCycle

/-- **THE LIFE CYCLE**, in every undisturbed run: every step follows it, and a finished status never
    changes again. -/
theorem life_cycle_run {site : JobSite} {s₀ s : Sys} {ls : List Label} (h0 : s₀.Started)
    (h : Run (guarded (Step site) (Undisturbed site)) s₀ ls s) :
    (∀ l s', Undisturbed site s l → Step site s l s' → FollowsLifeCycle s s' l) ∧
    ∀ row ∈ s.jobs, row.status.finished = true →
      ∀ ls' s', Run (guarded (Step site) (Undisturbed site)) s ls' s' →
        ∃ row' ∈ s'.jobs, row'.id = row.id ∧ row'.status = row.status := by
  have hA := accounted_run (accounted_started h0) h
  exact ⟨fun l s' hcond hs => followsLifeCycle_step hA hcond hs,
    fun row hrow hfin ls' s' h' => finished_absorbing hA hrow hfin h'⟩

/-- The first steps of a run with one worker, and its final commit. -/
theorem life_cycle_run_small : ∃ s s', Step smallSite s (0, .worker workerA .finish) s' ∧
    (s.jobs.get? 1).map Job.status = some .running ∧
    (s'.jobs.get? 1).map Job.status = some .failed ∧
    FollowsLifeCycle s s' (0, .worker workerA .finish) := by
  have h : ((execAll (execWhen (quiet smallSite) (exec smallSite)) smallStart
      (claimSteps 0 workerA ++
        [.load, .run (.prepared false)].map fun a => (0, .worker workerA a))).any fun s =>
      (exec smallSite s (0, .worker workerA .finish)).any fun s' => decide
        ((s.jobs.get? 1).map Job.status = some .running ∧
          (s'.jobs.get? 1).map Job.status = some .failed)) = true := by decide
  obtain ⟨s, s', hr, hs', hp'⟩ := exists_guarded_run_step (fun _ _ => undisturbed_of_quiet) h
  obtain ⟨h1, h2⟩ := of_decide_eq_true hp'
  exact ⟨s, s', hs', h1, h2, (life_cycle_run smallStart_started hr).1 _ s'
    (undisturbed_of_quiet (by rfl)) hs'⟩

end RetroBridge.Jobs
