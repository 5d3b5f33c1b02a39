/-
  File:      RetroBridge/Jobs/Exclusive.lean
  Subject:   EXCLUSIVE EXECUTION: as many live workers on a port as it has slots, and one on a job.

  `claim_job` counts the running rows of a port, not the workers that drive it.

  * `Swept`, `Occupied`, `occupied_step` -- in an undisturbed run the row of a live worker is
    running on the worker's port;
  * `Accounted` -- all that holds along such a run;
  * `executesExclusively_of` -- the counting: live workers are sent one-to-one to running rows;
  * `exclusive_run` -- **every undisturbed run executes exclusively**, after the run that shows the
    condition is needed.
-/
import RetroBridge.Jobs.Cap
import RetroBridge.Jobs.Fencing

namespace RetroBridge.Jobs

open Relational Transition

/-! ## 1. A live worker's row runs on its port -/

/-- The rows a sweep has read: still to cancel, or canceled by another. -/
def Swept (s : Sys) : Prop :=
  ∀ w os, s.worker w = .sweep os → ∀ o ∈ os, ∃ row ∈ s.jobs, row.id = o.id ∧
    row.cancelRequested = true ∧ (row.status = .queued ∨ row.status = .canceled)

/-- The port a live worker drives: that of its claim, and once the row is loaded the row's. -/
def WorkerPhase.drives? : WorkerPhase → Option Nat
  | .claimed c | .noPort c _ _ => some c.portId
  | .execute _ _ port _ => some port.id
  | .top | .sweep _ | .claim _ _ => none

/-- **The invariant under both conditions**: the row of a live worker is running on the port that
    the worker has claimed and drives. -/
def Occupied (s : Sys) : Prop :=
  ∀ w c, (s.worker w).claim? = some c → (s.worker w).drives? = some c.portId ∧
    ∃ row ∈ s.jobs, row.id = c.jobId ∧ row.status = .running ∧ row.portId = some c.portId

section Occupied

variable {site : JobSite} {s s' : Sys} {l : Label}

/-- A row that is to be canceled is queued or canceled after a change too: no claim takes it, and
    no final commit is due for it. -/
theorem RowChange.keepsSwept {a : Act} {row row' : Job} (h : RowChange site s row a row')
    (hOc : Occupied s) (hrow : row ∈ s.jobs) (hc : row.cancelRequested = true)
    (hs : row.status = .queued ∨ row.status = .canceled) :
    row'.status = .queued ∨ row'.status = .canceled := by
  cases h with
  | same => exact hs
  | swept => exact Or.inr rfl
  | recoveredCanceled => exact Or.inr rfl
  | recoveredQueued => exact Or.inl rfl
  | claim _ _ hq =>
      rw [(candidate_iff.mp hq).2.2] at hc
      cases hc
  | beat => exact hs
  | final hw _ hid _ =>
      obtain ⟨_, q, hq, hqid, hrun, _⟩ := hOc _ _ hw
      cases Table.eq_of_key hq hrow (hqid.trans hid)
      rw [hrun] at hs
      rcases hs with e | e <;> cases e
  | cancel _ _ _ hcl _ =>
      rw [(ormFlush_withCancel hcl).2.1]
      split
      · exact Or.inr rfl
      · exact hs

theorem swept_step (hO : Ok site s) (hOc : Occupied s) (hS : Swept s) (h : Step site s l s') :
    Swept s' := by
  obtain ⟨_, he⟩ := h.effect
  -- a row to cancel stays one
  have next : ∀ row ∈ s.jobs, row.cancelRequested = true →
      (row.status = .queued ∨ row.status = .canceled) → ∃ row' ∈ s'.jobs, row'.id = row.id ∧
        row'.cancelRequested = true ∧ (row'.status = .queued ∨ row'.status = .canceled) := by
    intro row hrow hc hs
    obtain ⟨row', hrow', hid, hch⟩ := effect_next (hO.at l.1).recalls he hrow
    exact ⟨row', hrow', hid, hch.cancelRequested hc, hch.keepsSwept hOc hrow hc hs⟩
  have kept : ∀ w os, s.worker w = .sweep os → ∀ o ∈ os, ∃ row' ∈ s'.jobs, row'.id = o.id ∧
      row'.cancelRequested = true ∧ (row'.status = .queued ∨ row'.status = .canceled) := by
    intro w os hw o ho
    obtain ⟨row, hrow, hid, hc, hs⟩ := hS w os hw o ho
    obtain ⟨row', hrow', hid', hrest⟩ := next row hrow hc hs
    exact ⟨row', hrow', hid'.trans hid, hrest⟩
  intro w os hw o ho
  rcases h.worker_cases w with ⟨hsame, _⟩ | ⟨a, _, hph⟩
  · exact kept w os (hsame.symm.trans hw) o ho
  · rw [hw] at hph
    rcases workerMove_sweep hph with ⟨os', hw', hsub⟩ | ⟨d, rfl⟩
    · exact kept w os' hw' o (hsub o ho)
    · obtain ⟨hm, _, hq, hc⟩ := mem_orphans.mp ho
      exact next o hm hc (Or.inl hq)

/-- **A live worker's row stays running on its port** over a change that is not its own. -/
theorem RowChange.keepsOccupied {a : Act} {w : Worker} {c : Claim} {row row' : Job}
    (h : RowChange site s row a row') (hK : Kept s) (hS : Swept s) (hfresh : CancelsFresh s a)
    (hr : Unrecovered site s a row) (hc : (s.worker w).claim? = some c) (hid : c.jobId = row.id)
    (hne : a ≠ .worker w .finish) (hrow : row ∈ s.jobs) (hrun : row.status = .running) :
    row'.status = .running ∧ row'.portId = row.portId := by
  cases h with
  | same => exact ⟨hrun, rfl⟩
  | @swept v oj rest hw hoid _ _ =>
      obtain ⟨q, hq, hqid, _, hst⟩ := hS v _ hw oj List.mem_cons_self
      cases Table.eq_of_key hq hrow (hqid.trans hoid)
      rw [hrun] at hst
      rcases hst with e | e <;> cases e
  | recoveredCanceled hd hs => rw [hr _ _ rfl hd] at hs; cases hs
  | recoveredQueued hd hs => rw [hr _ _ rfl hd] at hs; cases hs
  | claim _ _ hq =>
      rw [(candidate_iff.mp hq).2.1] at hrun
      cases hrun
  | beat => exact ⟨hrun, rfl⟩
  | final hv _ hvid _ =>
      -- the committing worker has this row's claim, so it is `w`
      cases hK.unique _ _ _ _ hv hc (hvid.trans hid.symm)
      exact absurd rfl hne
  | @cancel r dirty loaded hreq hm hlid hcl _ =>
      refine ⟨?_, rfl⟩
      rw [(ormFlush_withCancel hcl).2.1]
      split
      · rename_i hq
        have hst := hfresh r dirty rfl hreq _ hm hq row hrow hlid.symm
        rw [hrun] at hst
        rcases hst with e | e <;> cases e
      · exact hrun

theorem occupied_started {s : Sys} (h : s.Started) : Occupied s := fun w c hc => by
  rw [h.worker w] at hc
  cases hc

theorem swept_started {s : Sys} (h : s.Started) : Swept s := fun w os hw => by
  rw [h.worker w] at hw
  cases hw

/-- The port a worker drives after a move of its own that keeps its claim: the same, or the port of
    the row it has just loaded. -/
theorem workerMove_drives {w : Worker} {a : WorkerAct} {ph : WorkerPhase}
    (h : workerMove site s w a = some ph) {c : Claim} (hold : (s.worker w).claim? = some c)
    (hc : ph.claim? = some c) :
    ph.drives? = (s.worker w).drives? ∨ ph.drives? = some c.portId ∨
      ∃ job ∈ s.jobs, job.id = c.jobId ∧ ∃ p, job.portId = some p ∧ ph.drives? = some p := by
  cases workerMove_moved h with
  | claimPort e _ _ _ _ =>
      rw [e] at hold
      cases hold
  | load e hjob hid hport =>
      rw [e] at hold
      cases hold
      exact Or.inr (Or.inr ⟨_, hjob, hid, _, hport, rfl⟩)
  | loadNoPort e _ _ =>
      rw [e] at hold
      cases hold
      exact Or.inr (Or.inl rfl)
  | run e _ => exact Or.inl (by rw [e]; rfl)
  | heartbeat e _ _ => exact Or.inl (by rw [e]; rfl)
  | sweepRead | sweepCommit | recover | claimSkip | claimNone | loadGone | finish | abandon =>
      cases hc

/-- **`Occupied` holds along every undisturbed run.** -/
theorem occupied_step (hO : Ok site s) (hK : Kept s) (hS : Swept s) (hOc : Occupied s)
    (hcond : Undisturbed site s l) (h : Step site s l s') : Occupied s' := by
  obtain ⟨_, he⟩ := h.effect
  intro w c hc
  rcases step_claim h hc with ⟨hold, hfin⟩ | ⟨_, port, _, row, _, _, _, _, _, hnew, hph⟩
  · obtain ⟨hdr, row, hrow, hid, hrun, hport⟩ := hOc w c hold
    obtain ⟨row', hrow', hid', hch⟩ := effect_next (hO.at l.1).recalls he hrow
    obtain ⟨hrun', hport'⟩ := hch.keepsOccupied (hK.at l.1) hS hcond.2
      (hcond.1.unrecovered hrow ⟨w, c, hold, hid.symm⟩) hold hid.symm hfin hrow hrun
    refine ⟨?_, row', hrow', hid'.trans hid, hrun', hport'.trans hport⟩
    rcases h.worker_cases w with ⟨hsame, _⟩ | ⟨a, _, hph⟩
    · rw [hsame]; exact hdr
    · rcases workerMove_drives hph hold hc with e | e | ⟨job, hjob, hjid, p, hjp, e⟩
      · exact e.trans hdr
      · exact e
      · -- the row it loads is the row of its claim
        cases Table.eq_of_key hjob hrow (hjid.trans hid.symm)
        rw [e, ← hjp, hport]
  · rw [hph] at hc ⊢
    cases hc
    exact ⟨rfl, claimed l.1 w port row, hnew, rfl, rfl, rfl⟩

end Occupied

/-- **What holds along every undisturbed run.** -/
structure Accounted (site : JobSite) (s : Sys) : Prop where
  ok : Ok site s
  kept : Kept s
  swept : Swept s
  occupied : Occupied s

theorem accounted_started {site : JobSite} {s : Sys} (h : s.Started) : Accounted site s :=
  ⟨ok_started h, kept_started h, swept_started h, occupied_started h⟩

theorem accounted_step {site : JobSite} {s s' : Sys} {l : Label} (hA : Accounted site s)
    (hcond : Undisturbed site s l) (h : Step site s l s') : Accounted site s' where
  ok := step_ok hA.ok h
  kept := kept_step hA.ok hA.kept hcond.1 h
  swept := swept_step hA.ok hA.occupied hA.swept h
  occupied := occupied_step hA.ok hA.kept hA.swept hA.occupied hcond h

theorem accounted_run {site : JobSite} {s₀ s : Sys} {ls : List Label} (hA : Accounted site s₀)
    (h : Run (guarded (Step site) (Undisturbed site)) s₀ ls s) : Accounted site s :=
  h.invariant hA fun _ _ _ hA hs => accounted_step hA hs.1 hs.2

/-! ## 2. Exclusive execution -/

/-- At most `max_concurrent_jobs` live workers drive a port (none where that is negative), and no
    job has two live workers. -/
def ExecutesExclusively (site : Site) (s : Sys) : Prop :=
  (∀ port ∈ site.ports, ∀ m, port.maxConcurrentJobs = some m → ∀ ws : Finset Worker,
    (∀ w ∈ ws, (s.worker w).drives? = some port.id) → (ws.card : Int) ≤ max m 0) ∧
  ∀ w v c d, (s.worker w).claim? = some c → (s.worker v).claim? = some d → c.jobId = d.jobId →
    w = v

/-- **Two workers on one job and on one port for one job at a time.** -/
theorem two_workers_on_one_job : ∃ s, Run (Step smallSite) smallStart
    (claimSteps 0 workerA ++ transferSteps 0 workerA ++ claimSteps (seconds 301) workerB) s ∧
    ¬ExecutesExclusively smallSite.toSite s := by
  have h : (execAll (exec smallSite) smallStart
      (claimSteps 0 workerA ++ transferSteps 0 workerA ++ claimSteps (seconds 301) workerB)).any
        (fun s => decide ((s.worker workerA).claim?.map Claim.jobId = some 1 ∧
          (s.worker workerB).claim?.map Claim.jobId = some 1)) = true := by decide
  obtain ⟨s, hr, hp⟩ := exists_run_of_execAll h
  obtain ⟨ha, hb⟩ := of_decide_eq_true hp
  obtain ⟨c, hc, hcj⟩ := Option.map_eq_some_iff.mp ha
  obtain ⟨d, hd, hdj⟩ := Option.map_eq_some_iff.mp hb
  refine ⟨s, hr, fun hex => ?_⟩
  have hab : workerA = workerB := hex.2 _ _ c d hc hd (hcj.trans hdj.symm)
  exact absurd hab (by decide)

section ExecutesExclusively

variable {site : JobSite} {s s' : Sys} {l : Label}

theorem claim_of_drives {ph : WorkerPhase} {p : Nat} (h : ph.drives? = some p) :
    ∃ c, ph.claim? = some c := by
  cases ph <;> simp only [WorkerPhase.drives?, reduceCtorEq] at h <;> exact ⟨_, rfl⟩

/-- A port that a live worker drives is within its cap, whatever the rows were at the start. -/
def DrivenCapped (site : Site) (s : Sys) : Prop :=
  ∀ port ∈ site.ports, (∃ w, (s.worker w).drives? = some port.id) → PortCapped port s.jobs

theorem drivenCapped_step (hA : Accounted site s) (hD : DrivenCapped site.toSite s)
    (hcond : Undisturbed site s l) (h : Step site s l s') : DrivenCapped site.toSite s' := by
  rintro port hp ⟨w, hw⟩
  obtain ⟨c, hc⟩ := claim_of_drives hw
  have hport : c.portId = port.id := by
    have := ((accounted_step hA hcond h).occupied w c hc).1
    rw [hw] at this
    exact (Option.some.inj this).symm
  rcases step_claim h hc with ⟨hold, _⟩ | ⟨_, q, _, row, ha, _, hwq, hslot, _, _, hph⟩
  · refine portCapped_step hA.ok h hp (hD port hp ⟨w, ?_⟩)
    rw [(hA.occupied w c hold).1, hport]
  · rw [hph] at hc
    cases hc
    obtain rfl : q = port := Table.eq_of_key (claim_port_mem hA.ok hwq).1 hp hport
    intro m hm
    obtain ⟨m', hm', hlt⟩ := hasSlot_iff.mp hslot
    cases hm.symm.trans hm'
    obtain ⟨_, he⟩ := h.effect
    rw [ha] at he
    have hle : s'.jobs.count (Job.occupies q.id) ≤ s.jobs.count (Job.occupies q.id) + 1 := by
      simpa using effect_count_claim he
    omega

/-- **Rows account for workers**: in an accounted state within the driven caps, execution is
    exclusive. -/
theorem executesExclusively_of (hA : Accounted site s) (hD : DrivenCapped site.toSite s) :
    ExecutesExclusively site.toSite s := by
  refine ⟨fun port hp m hm ws hws => ?_, hA.kept.unique⟩
  rcases ws.eq_empty_or_nonempty with rfl | ⟨w₀, hw₀⟩
  · exact le_max_right _ _
  · have hcap := hD port hp ⟨w₀, hws w₀ hw₀⟩ m hm
    -- each worker has its own running row on the port
    let job : Worker → Nat := fun w => ((s.worker w).claim?.map Claim.jobId).getD 0
    have hle : ws.card ≤ s.jobs.count (Job.occupies port.id) := by
      refine Table.card_le_count s.jobs _ ws job (fun w hw v hv e => ?_) fun w hw => ?_
      · obtain ⟨c, hc⟩ := claim_of_drives (hws w hw)
        obtain ⟨d, hd⟩ := claim_of_drives (hws v hv)
        simp only [job, hc, hd] at e
        exact hA.kept.unique w v c d hc hd e
      · obtain ⟨c, hc⟩ := claim_of_drives (hws w hw)
        obtain ⟨hdr, row, hrow, hid, hrun, hport⟩ := hA.occupied w c hc
        refine ⟨row, hrow, by simpa [job, hc] using hid, Job.occupies_iff.mpr ⟨?_, hrun⟩⟩
        rw [hport, ← hdr, hws w hw]
    omega

end ExecutesExclusively

/-- **EXCLUSIVE EXECUTION**, in every undisturbed run. -/
theorem exclusive_run {site : JobSite} {s₀ s : Sys} {ls : List Label} (h0 : s₀.Started)
    (h : Run (guarded (Step site) (Undisturbed site)) s₀ ls s) :
    ExecutesExclusively site.toSite s := by
  have hstart : DrivenCapped site.toSite s₀ := by
    rintro port _ ⟨w, hw⟩
    rw [h0.worker w] at hw
    cases hw
  have hI := h.invariant (I := fun s => Accounted site s ∧ DrivenCapped site.toSite s)
    ⟨accounted_started h0, hstart⟩ fun s l s' ⟨hA, hD⟩ hs =>
      ⟨accounted_step hA hs.1 hs.2, drivenCapped_step hA hD hs.1 hs.2⟩
  exact executesExclusively_of hI.1 hI.2

/-- One worker's first transfer, undisturbed. -/
theorem exclusive_run_small : ∃ s, (s.worker workerA).drives? = some 1 ∧
    ExecutesExclusively smallSite.toSite s := by
  have h : (execAll (execWhen (quiet smallSite) (exec smallSite)) smallStart
      (claimSteps 0 workerA ++ transferSteps 0 workerA)).any
        (fun s => decide ((s.worker workerA).drives? = some 1)) = true := by decide
  obtain ⟨s, hr, hp⟩ := exists_guarded_run (fun _ _ => undisturbed_of_quiet) h
  exact ⟨s, of_decide_eq_true hp, exclusive_run smallStart_started hr⟩

end RetroBridge.Jobs
