/-
  File:      RetroBridge/Jobs/Fencing.lean
  Subject:   LIVE EXECUTIONS AND THEIR CLAIMS (worker.py: `_send_heartbeat`, the final commit of
             `worker_loop`, `recover_stale_jobs`).

  A worker between its claim commit and its final commit is LIVE; the guards of the queue count
  rows. The two agree as long as

  * `RecoversDead` -- a recovery finds stale no row of a live worker, and
  * `CancelsFresh` -- a cancel commits to a row it read queued while that row is still unclaimed;

  and each can fail, since `_send_heartbeat` runs in the capture loop only (and there compares an
  elapsed time with a start time) and the UPDATE of a cancel names the row by its id alone.

  * `Kept`, `kept_step` -- under the first: the row of a live worker carries its claim, and no two
    live workers have one job;
  * `fencing_run` -- **so a final commit or a heartbeat changes only a row that carries its claim**,
    after the run that shows the condition is needed.
-/
import RetroBridge.Jobs.Change

namespace RetroBridge.Jobs

open Relational Transition

/-! ## 1. The two conditions -/

/-- A worker is between its claim commit and its final commit on job `k`. -/
def Sys.Live (s : Sys) (k : Nat) : Prop := ∃ w c, (s.worker w).claim? = some c ∧ c.jobId = k

/-- A recovery of this step finds stale no row of a live worker. -/
def RecoversDead (site : JobSite) (s : Sys) (l : Label) : Prop :=
  ∀ w d, l.2 = .worker w .recover → enabledDevice? site.toSite w.deviceName = some d →
    ∀ row ∈ s.jobs, stale l.1 d.id row = true → ¬s.Live row.id

/-- A cancel committed by this act finds the rows it read queued still queued, or canceled. -/
def CancelsFresh (s : Sys) (a : Act) : Prop :=
  ∀ r dirty, a = .request r .cancelCommit → s.request r = .cancel dirty →
    ∀ it ∈ dirty, it.1.status = .queued → ∀ row ∈ s.jobs, row.id = it.1.id →
      row.status = .queued ∨ row.status = .canceled

/-- Both conditions. -/
def Undisturbed (site : JobSite) (s : Sys) (l : Label) : Prop :=
  RecoversDead site s l ∧ CancelsFresh s l.2

/-! ## 2. The claim stays in the row -/

/-- The row carries the worker's claim. -/
structure Carries (w : Worker) (c : Claim) (row : Job) : Prop where
  claimedBy : row.claimedBy = some (workerId w)
  claimedAt : row.claimedAt = some c.claimedAt
  notQueued : row.status ≠ .queued

/-- **The invariant under `RecoversDead`**: every live worker's row carries its claim, and no job
    has two live workers. -/
structure Kept (s : Sys) : Prop where
  carries : ∀ w c, (s.worker w).claim? = some c → ∃ row ∈ s.jobs, row.id = c.jobId ∧ Carries w c row
  unique : ∀ w v c d, (s.worker w).claim? = some c → (s.worker v).claim? = some d →
    c.jobId = d.jobId → w = v

theorem Kept.at {s : Sys} (h : Kept s) (now : Time) : Kept (s.at now) := ⟨h.carries, h.unique⟩

theorem kept_started {s : Sys} (h : s.Started) : Kept s where
  carries w c hc := by rw [h.worker w] at hc; cases hc
  unique w v c d hc := by rw [h.worker w] at hc; cases hc

section Live

variable {site : JobSite} {s s' : Sys} {l : Label}

/-- **The claims after a step**: those there were, but for the committing worker's, and at most one
    new one, of a row that was a candidate. -/
theorem step_claim (h : Step site s l s') {w : Worker} {c : Claim}
    (hc : (s'.worker w).claim? = some c) :
    ((s.worker w).claim? = some c ∧ l.2 ≠ .worker w .finish) ∨
      ∃ deviceId port ports row, l.2 = .worker w (.claimPort row.id) ∧ row ∈ s.jobs ∧
        s.worker w = .claim deviceId (port :: ports) ∧ hasSlot s.jobs port = true ∧
        candidate deviceId row = true ∧ claimed l.1 w port row ∈ s'.jobs ∧
        s'.worker w = .claimed ⟨row.id, port.id, l.1⟩ := by
  rcases h.worker_cases w with ⟨hsame, hne⟩ | ⟨a, ha, hph⟩
  · exact Or.inl ⟨by rw [← hsame]; exact hc, hne _⟩
  · rcases workerMove_claim hph hc with ⟨hold, hfin⟩ | rfl
    · refine Or.inl ⟨hold, fun e => hfin ?_⟩
      rw [ha] at e
      injection e
    · obtain ⟨_, he⟩ := h.effect
      obtain ⟨d, port, ports, row, hw, hrow, hid, _, hslot, hnext, hnew⟩ := claimPort_enabled hph
      have hm := effect_mem_of he hrow
      have ew : rowWrite site (s.at l.1) l.2 row = claimed l.1 w port row := by
        rw [ha]
        simp only [rowWrite, workerWrite, hw]
        exact Table.atKey_self hid
      rw [ew] at hm
      rw [← hid] at ha hnew
      exact Or.inr ⟨d, port, ports, row, ha, hrow, hw, hslot, candidate_of_isNext hnext, hm, hnew⟩

/-- The row `row` is not recovered in an act `a`. -/
def Unrecovered (site : JobSite) (s : Sys) (a : Act) (row : Job) : Prop :=
  ∀ w d, a = .worker w .recover → enabledDevice? site.toSite w.deviceName = some d →
    stale s.clock d.id row = false

/-- The row of a live worker is not recovered. -/
theorem RecoversDead.unrecovered (hcond : RecoversDead site s l) {row : Job} (hrow : row ∈ s.jobs)
    (hl : s.Live row.id) : Unrecovered site (s.at l.1) l.2 row := by
  intro w d ha hd
  cases hs : stale (s.at l.1).clock d.id row with
  | false => rfl
  | true => exact absurd hl (hcond w d ha hd row hrow hs)

/-- A change that is no recovery keeps a claim in its row. -/
theorem RowChange.carries {w : Worker} {c : Claim} {row row' : Job} {a : Act}
    (h : RowChange site s row a row') (hr : Unrecovered site s a row) (hc : Carries w c row) :
    Carries w c row' := by
  cases h with
  | same => exact hc
  | swept => exact ⟨hc.claimedBy, hc.claimedAt, by simp⟩
  | recoveredCanceled hd hs => rw [hr _ _ rfl hd] at hs; cases hs
  | recoveredQueued hd hs => rw [hr _ _ rfl hd] at hs; cases hs
  | claim _ _ hq => exact absurd (candidate_iff.mp hq).2.1 hc.notQueued
  | beat => exact ⟨hc.claimedBy, hc.claimedAt, hc.notQueued⟩
  | final _ _ _ hret =>
      refine ⟨hc.claimedBy, hc.claimedAt, ?_⟩
      rcases hret.flush_status row with e | hfin
      · rw [e]; exact hc.notQueued
      · intro e; rw [e] at hfin; cases hfin
  | cancel _ _ _ hcl _ =>
      refine ⟨hc.claimedBy, hc.claimedAt, ?_⟩
      rw [(ormFlush_withCancel hcl).2.1]
      split
      · simp
      · exact hc.notQueued

/-- **`Kept` holds along every run whose recoveries find only dead rows.** -/
theorem kept_step (hO : Ok site s) (hK : Kept s) (hcond : RecoversDead site s l)
    (h : Step site s l s') : Kept s' := by
  obtain ⟨_, he⟩ := h.effect
  have hO' := hO.at l.1
  -- a row that is a candidate is nobody's: a live worker's row is not queued
  have free : ∀ {deviceId : Nat} {row : Job}, row ∈ s.jobs → candidate deviceId row = true →
      ∀ v d, (s.worker v).claim? = some d → d.jobId ≠ row.id := by
    intro deviceId row hrow hq v d hd hid
    obtain ⟨row', hrow', hid', hcar⟩ := hK.carries v d hd
    cases Table.eq_of_key hrow hrow' (hid.symm.trans hid'.symm)
    exact hcar.notQueued (candidate_iff.mp hq).2.1
  refine ⟨fun w c hc => ?_, fun w v c d hc hd hcd => ?_⟩
  · rcases step_claim h hc with ⟨hold, _⟩ | ⟨_, port, _, row, _, _, _, _, _, hnew, hph⟩
    · obtain ⟨row, hrow, hid, hcar⟩ := hK.carries w c hold
      obtain ⟨row', hrow', hid', hch⟩ := effect_next hO'.recalls he hrow
      exact ⟨row', hrow', hid'.trans hid,
        hch.carries (hcond.unrecovered hrow ⟨w, c, hold, hid.symm⟩) hcar⟩
    · rw [hph] at hc
      cases hc
      exact ⟨claimed l.1 w port row, hnew, rfl, rfl, rfl, by simp [claimed]⟩
  · rcases step_claim h hc with ⟨hold, _⟩ | ⟨_, _, _, row, ha, hrow, _, _, hq, _, hph⟩
    · rcases step_claim h hd with ⟨hold', _⟩ | ⟨_, _, _, row', _, hrow', _, _, hq', _, hph'⟩
      · exact hK.unique w v c d hold hold' hcd
      · rw [hph'] at hd
        cases hd
        exact absurd hcd (free hrow' hq' w c hold)
    · rcases step_claim h hd with ⟨hold', _⟩ | ⟨_, _, _, row', ha', _, _, _, _, _, _⟩
      · rw [hph] at hc
        cases hc
        exact absurd hcd.symm (free hrow hq v d hold')
      · -- one step makes one claim
        rw [ha] at ha'
        injection ha'

end Live

/-- A check of one step that decides more than both conditions ask: nothing is stale, and no
    cancel commits. -/
def quiet (site : JobSite) (s : Sys) (l : Label) : Bool :=
  match l.2 with
  | .worker w .recover =>
    match enabledDevice? site.toSite w.deviceName with
    | some d => s.jobs.rows.all fun row => !stale l.1 d.id row
    | none => true
  | .request _ .cancelCommit => false
  | _ => true

theorem recoversDead_of_quiet {site : JobSite} {s : Sys} {l : Label} (h : quiet site s l = true) :
    RecoversDead site s l := by
  intro w d ha hd row hrow hs
  unfold quiet at h
  rw [ha] at h
  simp only [hd] at h
  have := List.all_eq_true.mp h row hrow
  rw [hs] at this
  cases this

theorem undisturbed_of_quiet {site : JobSite} {s : Sys} {l : Label} (h : quiet site s l = true) :
    Undisturbed site s l := by
  refine ⟨recoversDead_of_quiet h, fun r dirty ha => ?_⟩
  unfold quiet at h
  rw [ha] at h
  cases h

/-! ## 3. Fencing -/

/-- A final commit writes its outcome whatever the row is by then: nothing fences it. -/
theorem final_commit_unfenced {loaded obj row : Job} (hl : loaded.status = .running)
    (h : Recorded loaded obj) : (ormFlush loaded obj row).status = obj.status := by
  obtain ⟨path, t, o, rfl⟩ := h
  rw [ormFlush_status]
  refine flushCol_written ?_
  rw [Outcome.record_status]
  show o.status ≠ loaded.status
  rw [hl]
  exact o.status_ne_running

/-- The steps of a run in which worker A's transfer outlasts its lease, worker B recovers and
    claims the job, and A's transfer then fails. -/
def overtaken : List Label :=
  claimSteps 0 workerA ++ transferSteps 0 workerA ++ claimSteps (seconds 301) workerB ++
    [(seconds 302, .worker workerA (.run (.sendReturns false)))]

/-- **A stale worker's final commit overwrites the row that another worker has claimed.** -/
theorem stale_final_commit_overwrites : ∃ s s',
    Run (Step smallSite) smallStart overtaken s ∧
    Step smallSite s (seconds 303, .worker workerA .finish) s' ∧
    (s.jobs.get? 1).map (fun j => (j.status, j.claimedBy)) =
      some (.running, some (workerId workerB)) ∧
    (s'.jobs.get? 1).map (fun j => (j.status, j.claimedBy)) =
      some (.failed, some (workerId workerB)) := by
  have h : ((execAll (exec smallSite) smallStart overtaken).any fun s =>
      (exec smallSite s (seconds 303, .worker workerA .finish)).any fun s' => decide
        ((s.jobs.get? 1).map (fun j => (j.status, j.claimedBy)) =
            some (.running, some (workerId workerB)) ∧
          (s'.jobs.get? 1).map (fun j => (j.status, j.claimedBy)) =
            some (.failed, some (workerId workerB)))) = true := by decide
  obtain ⟨s, s', hr, hs, hp⟩ := exists_run_step_of_execAll h
  exact ⟨s, s', hr, hs, of_decide_eq_true hp⟩

/-- The row still carries the claim of the worker that changes it. -/
def WritesOwnClaim (s s' : Sys) (w : Worker) : Prop :=
  ∀ row ∈ s.jobs, ∀ row' ∈ s'.jobs, row'.id = row.id → row' ≠ row →
    ∃ c, (s.worker w).claim? = some c ∧ c.jobId = row.id ∧
      row.claimedBy = some (workerId w) ∧ row.claimedAt = some c.claimedAt

/-- **FENCING**, in every run whose recoveries find only dead rows: what a worker's final commit or
    heartbeat changes is a row that still carries the worker's claim. -/
theorem fencing_run {site : JobSite} {s₀ s s' : Sys} {ls : List Label} (h0 : s₀.Started)
    (h : Run (guarded (Step site) (RecoversDead site)) s₀ ls s) {now : Time} {w : Worker}
    {a : WorkerAct} (ha : a = .finish ∨ ∃ stored, a = .heartbeat stored)
    (hs : Step site s (now, .worker w a) s') : WritesOwnClaim s s' w := by
  have hI := h.invariant (I := fun s => Ok site s ∧ Kept s) ⟨ok_started h0, kept_started h0⟩
    fun s l s' ⟨hO, hK⟩ hs => ⟨step_ok hO hs.2, kept_step hO hK hs.1 hs.2⟩
  obtain ⟨_, he⟩ := hs.effect
  intro row hrow row' hrow' hid hne
  have hch := effect_change (hI.1.at now).recalls he hrow
  rw [← effect_row he hrow hrow' hid] at hch
  -- the claim of the worker that wrote `row` is in that row
  have own : ∀ c, (s.worker w).claim? = some c → c.jobId = row.id →
      ∃ c, (s.worker w).claim? = some c ∧ c.jobId = row.id ∧
        row.claimedBy = some (workerId w) ∧ row.claimedAt = some c.claimedAt := by
    intro c hc hcid
    obtain ⟨q, hq, hqid, hcar⟩ := hI.2.carries w c hc
    cases Table.eq_of_key hq hrow (hqid.trans hcid)
    exact ⟨c, hc, hcid, hcar.claimedBy, hcar.claimedAt⟩
  rcases ha with rfl | ⟨stored, rfl⟩
  · cases hch with
    | same => exact absurd rfl hne
    | final hw _ hcid _ => exact own _ hw hcid
  · cases hch with
    | same => exact absurd rfl hne
    | beat hw hcid => exact own _ (congrArg WorkerPhase.claim? hw) hcid

/-- A worker's own final commit, its recovery having found nothing. -/
theorem fencing_run_small : ∃ s s', Step smallSite s (0, .worker workerA .finish) s' ∧
    (s'.jobs.get? 1).map Job.status = some .failed ∧ WritesOwnClaim s s' workerA := by
  have h : ((execAll (execWhen (quiet smallSite) (exec smallSite)) smallStart
      (claimSteps 0 workerA ++
        [.load, .run (.prepared false)].map fun a => (0, .worker workerA a))).any fun s =>
      (exec smallSite s (0, .worker workerA .finish)).any fun s' => decide
        ((s'.jobs.get? 1).map Job.status = some .failed)) = true := by decide
  obtain ⟨s, s', hr, hs', hp'⟩ := exists_guarded_run_step (fun _ _ => recoversDead_of_quiet) h
  exact ⟨s, s', hs', of_decide_eq_true hp',
    fencing_run smallStart_started hr (Or.inl rfl) hs'⟩

end RetroBridge.Jobs
