/-
  File:      RetroBridge/Jobs/Exits.lean
  Subject:   EVERY EXECUTION AND ITS RECORD (worker.py: the exits of `run_job_on_device` and of the
             loop body of `worker_loop`).

  An exception inside the outer `try` is recorded. Before it -- the re-read of the claimed row, the
  port, `mkdir`, `exists`, `session_factory()` -- nothing catches one but `worker_loop`, which rolls
  back; and a cancellation found on an object that is not running returns with nothing recorded.

  * `CommitsSucceed`, `OutcomeReached` -- what is presumed of the database and the process, and the
    condition;
  * `Outlives`, `Held` -- a row stays finished once it is, and so does its time: the row under a
    claim has all that its worker loaded of it;
  * `runStep_recorded`, `Decides` -- a run that has returned has recorded an outcome;
  * `EndsRecorded`, `ends_recorded_run` -- **in every run a worker that gives its claim up leaves
    the job's row finished, with its time.**
-/
import RetroBridge.Jobs.Fencing

namespace RetroBridge.Jobs

open Relational Transition

/-! ## 1. The property and its condition -/

/-- **A claim ends in a record**: a worker that holds a claim before the step and none after it
    leaves the row of the job finished, and `finished_at` set. -/
def EndsRecorded (s s' : Sys) : Prop :=
  ∀ w c, (s.worker w).claim? = some c → (s'.worker w).claim? = none →
    ∃ row ∈ s'.jobs, row.id = c.jobId ∧ row.status.finished = true ∧ row.finishedAt.isSome = true

/-- The worker holds a claim and is not in the outer `try` yet. -/
def WorkerPhase.beforeTry : WorkerPhase → Bool
  | .claimed _ | .execute _ _ _ ⟨_, .entry⟩ => true
  | _ => false

/-- No crash between a claim and its final commit, and no final commit that fails: a claim is
    abandoned only by an exception that nothing catches. -/
def CommitsSucceed (s : Sys) (l : Label) : Prop :=
  ∀ w, l.2 = .worker w .abandon → (s.worker w).claim? = none ∨ (s.worker w).beforeTry = true

/-- **The outcome is reached**: no exception before the outer `try`, and where the first check finds
    a cancellation the row was running when it was loaded. -/
structure OutcomeReached (s : Sys) (l : Label) : Prop where
  caught : ∀ w, l.2 = .worker w .abandon → (s.worker w).beforeTry = false
  running : ∀ w c loaded port obj, l.2 = .worker w (.run .ok) →
    s.worker w = .execute c loaded port ⟨obj, .firstCheck⟩ →
    checkJobCancelled (s.jobs.get? loaded.id) = true → loaded.status = .running

/-! ## 2. What a row keeps -/

/-- What was finished stays finished, and a time that was set stays set. -/
structure Outlives (loaded row : Job) : Prop where
  finished : loaded.status.finished = true → row.status.finished = true
  finishedAt : loaded.finishedAt.isSome = true → row.finishedAt.isSome = true

theorem Outlives.trans {a b c : Job} (h : Outlives a b) (h' : Outlives b c) : Outlives a c :=
  ⟨fun hf => h'.finished (h.finished hf), fun hf => h'.finishedAt (h.finishedAt hf)⟩

/-- A returned run has set the time of its object or left it. -/
theorem Returned.finishedAt {loaded obj : Job} (h : Returned loaded obj) :
    obj.finishedAt = loaded.finishedAt ∨ obj.finishedAt.isSome = true := by
  rcases h with ⟨path, t, o, rfl⟩ | ⟨_, path, rfl⟩
  · exact Or.inr (by rw [Outcome.record_finishedAt]; rfl)
  · exact Or.inl rfl

/-- **Every change of a row outlives it.** -/
theorem RowChange.outlives {site : JobSite} {s : Sys} {a : Act} {row row' : Job}
    (h : RowChange site s row a row') : Outlives row row' := by
  refine ⟨fun hfin => ?_, fun hset => ?_⟩
  · cases hu : row'.status.finished with
    | true => rfl
    | false =>
        rw [h.unfinished hu] at hfin
        cases hfin
  · cases h with
    | same | swept | recoveredCanceled | recoveredQueued | claim | beat => exact hset
    | final _ _ _ hret =>
        rw [ormFlush_finishedAt]
        rcases hret.finishedAt with e | hs
        · rw [flushCol_same e]
          exact hset
        · unfold flushCol
          split
          · exact hset
          · exact hs
    | @cancel _ _ loaded =>
        have e : (withCancel loaded).finishedAt = loaded.finishedAt := by
          unfold withCancel
          split <;> rfl
        rw [ormFlush_finishedAt, flushCol_same e]
        exact hset

/-- **A recorded outcome reaches the row**: what the flush does not write is there already. -/
theorem Recorded.flush {loaded obj row : Job} (h : Recorded loaded obj) (ho : Outlives loaded row) :
    (ormFlush loaded obj row).status.finished = true ∧
      (ormFlush loaded obj row).finishedAt.isSome = true := by
  obtain ⟨path, t, o, rfl⟩ := h
  rw [ormFlush_status, ormFlush_finishedAt, Outcome.record_status, Outcome.record_finishedAt]
  unfold flushCol
  constructor
  · split
    · rename_i e
      have hl : loaded.status.finished = true := by rw [← e]; exact o.status_finished
      exact ho.finished hl
    · exact o.status_finished
  · split
    · rename_i e
      have hl : loaded.finishedAt.isSome = true := by rw [← e]; rfl
      exact ho.finishedAt hl
    · rfl

/-! ## 3. The row under a claim -/

/-- The row as the worker has loaded it. -/
def WorkerPhase.loaded? : WorkerPhase → Option Job
  | .noPort _ loaded _ | .execute _ loaded _ _ => some loaded
  | .top | .sweep _ | .claim _ _ | .claimed _ => none

/-- **The row of a claim is there**, and has outlived what the worker loaded of it. -/
def Held (s : Sys) : Prop :=
  ∀ w c, (s.worker w).claim? = some c → ∃ row ∈ s.jobs, row.id = c.jobId ∧
    ∀ loaded, (s.worker w).loaded? = some loaded → Outlives loaded row

theorem held_started {s : Sys} (h : s.Started) : Held s := fun w c hc => by
  rw [h.worker w] at hc
  cases hc

section Held

variable {site : JobSite} {s s' : Sys} {l : Label}

/-- What a worker holds of its row: what it held before, or the row as it is now. -/
theorem workerMove_loaded {w : Worker} {a : WorkerAct} {ph : WorkerPhase} {c : Claim} {loaded : Job}
    (h : workerMove site s w a = some ph) (hc : ph.claim? = some c)
    (hl : ph.loaded? = some loaded) :
    (s.worker w).loaded? = some loaded ∨ loaded ∈ s.jobs ∧ loaded.id = c.jobId := by
  cases workerMove_moved h with
  | load _ hjob hid _ =>
      cases hc
      cases hl
      exact Or.inr ⟨hjob, hid⟩
  | loadNoPort _ hjob hid =>
      cases hc
      cases hl
      exact Or.inr ⟨hjob, hid⟩
  | run e _ =>
      cases hl
      exact Or.inl (by rw [e]; rfl)
  | heartbeat e _ _ =>
      cases hl
      exact Or.inl (by rw [e]; rfl)
  | claimPort => cases hl
  | sweepRead | sweepCommit | recover | claimSkip | claimNone | loadGone | finish | abandon =>
      cases hc

theorem held_step (hR : Recalls s) (hH : Held s) (h : Step site s l s') : Held s' := by
  obtain ⟨_, he⟩ := h.effect
  -- a row with the id of a claim goes on
  have next : ∀ row ∈ s.jobs, ∃ row' ∈ s'.jobs, row'.id = row.id ∧ Outlives row row' := by
    intro row hrow
    obtain ⟨row', hrow', hid, hch⟩ := effect_next (hR.at l.1) he hrow
    exact ⟨row', hrow', hid, hch.outlives⟩
  intro w c hc
  rcases h.worker_cases w with ⟨hsame, _⟩ | ⟨a, _, hph⟩
  · rw [hsame] at hc ⊢
    obtain ⟨row, hrow, hid, hout⟩ := hH w c hc
    obtain ⟨row', hrow', hid', hlive⟩ := next row hrow
    exact ⟨row', hrow', hid'.trans hid, fun loaded hl => (hout loaded hl).trans hlive⟩
  · rcases workerMove_claim hph hc with ⟨hw, _⟩ | rfl
    · obtain ⟨row, hrow, hid, hout⟩ := hH w c hw
      obtain ⟨row', hrow', hid', hlive⟩ := next row hrow
      refine ⟨row', hrow', hid'.trans hid, fun loaded hl => ?_⟩
      rcases workerMove_loaded hph hc hl with hw' | ⟨hm, hlid⟩
      · exact (hout loaded hw').trans hlive
      · cases Table.eq_of_key hm hrow (hlid.trans hid.symm)
        exact hlive
    · -- the claim has just been made: nothing is loaded yet
      obtain ⟨_, _, _, row, _, hrow, hid, _, _, _, e⟩ := claimPort_enabled hph
      obtain ⟨row', hrow', hid', _⟩ := next row hrow
      refine ⟨row', hrow', hid'.trans hid, fun loaded hl => ?_⟩
      rw [e] at hl
      cases hl

end Held

/-! ## 4. A run that has returned -/

/-- **An execution returns with an outcome recorded**, unless its first check has found a
    cancellation on an object that is not running. -/
theorem runStep_recorded {site : JobSite} {port : DevicePort} {now : Time} {row : Option Job}
    {loaded : Job} {rs rs' : RunState} {ev : RunEvent} (h : RunOk loaded rs)
    (hcheck : rs.phase = .firstCheck → ev = .ok → checkJobCancelled row = true →
      loaded.status = .running)
    (hs : runStep site port now row rs ev = some rs') (hd : rs'.phase = .decided) :
    Recorded loaded rs'.obj := by
  obtain ⟨obj, phase⟩ := rs
  cases ev with
  | prepared e =>
      cases phase <;> simp only [runStep, reduceCtorEq] at hs
      cases e <;> cases hs
      · exact (Undecided.withOutput _ h).concluded
      · cases hd
  | ok =>
      cases phase <;> simp only [runStep, reduceCtorEq] at hs
      case firstCheck =>
        split at hs <;> cases hs
        · rename_i hc
          obtain ⟨path, rfl⟩ : Undecided loaded obj := h
          rw [onCancelled, if_pos (hcheck rfl rfl hc)]
          exact Undecided.concluded ⟨path, rfl⟩
        · cases hd
      case cancelSending =>
        cases hs
        exact Undecided.concluded h
      case cancelCapture =>
        cases hs
        exact Undecided.concluded h
      case closing =>
        cases hs
        exact Completing.recorded h
      case pre cmds => cases cmds <;> (cases hs; cases hd)
      case post cmds => cases cmds <;> (cases hs; cases hd)
      case capture =>
        split at hs
        · cases hs; cases hd
        · split at hs <;> (cases hs; cases hd)
      case polling => split at hs <;> (cases hs; cases hd)
      case finalCheck => split at hs <;> (cases hs; cases hd)
      all_goals cases hs; cases hd
  | received data =>
      cases phase <;> cases data <;> simp only [runStep, reduceCtorEq] at hs
      case reading.nil => split at hs <;> (cases hs; cases hd)
      all_goals cases hs; cases hd
  | readError =>
      cases phase <;> simp only [runStep, reduceCtorEq] at hs
      all_goals cases hs; cases hd
  | callback =>
      cases phase <;> simp only [runStep, reduceCtorEq] at hs
      split at hs <;> (cases hs; cases hd)
  | sendReturns success =>
      cases phase <;> simp only [runStep, reduceCtorEq] at hs
      cases success <;> cases hs
      · exact Undecided.concluded h
      · cases hd
  | fault e =>
      have hp : phase ≠ .decided := by
        rintro rfl
        cases hs
      cases phase <;> simp only [runStep, reduceCtorEq] at hs
      all_goals cases hs; exact h.faulted hp

/-- Every run that has returned has recorded its outcome. -/
def Decides (s : Sys) : Prop :=
  ∀ w c loaded port rs, s.worker w = .execute c loaded port rs → rs.phase = .decided →
    Recorded loaded rs.obj

theorem decides_started {s : Sys} (h : s.Started) : Decides s := fun w c loaded port rs hw => by
  rw [h.worker w] at hw
  cases hw

section Decides

variable {site : JobSite} {s s' : Sys} {l : Label}

theorem decides_step (hR : Recalls s) (hD : Decides s) (hcond : OutcomeReached s l)
    (h : Step site s l s') : Decides s' := by
  intro w c loaded port rs hw hd
  rcases h.worker_cases w with ⟨hsame, _⟩ | ⟨a, ha, hph⟩
  · exact hD w c loaded port rs (hsame.symm.trans hw) hd
  · rw [hw] at hph
    cases workerMove_moved hph with
    | load => cases hd
    | @run ev _ _ _ rs₀ _ e hrun =>
        have hmem := hR.worker w
        have hw₀ : s.worker w = .execute c loaded port rs₀ := e
        rw [hw₀] at hmem
        refine runStep_recorded hmem.2 (fun hf hev hc => ?_) hrun hd
        cases rs₀
        cases hf
        exact hcond.running w c loaded port _ (hev ▸ ha) hw₀ hc
    | @heartbeat _ _ _ _ rs₀ _ _ _ hbeat =>
        obtain ⟨obj, phase⟩ := rs₀
        cases phase <;> simp only [afterBeat, reduceCtorEq] at hbeat
        cases hbeat
        cases hd

/-- What a worker is about to commit: the row it has loaded, and a recorded outcome. -/
theorem commits_recorded {w : Worker} {loaded obj : Job} (hR : Recalls s) (hD : Decides s)
    (h : (s.worker w).commits? = some (loaded, obj)) :
    (s.worker w).loaded? = some loaded ∧ Recorded loaded obj := by
  have hmem := hR.worker w
  cases e : s.worker w with
  | noPort c j o =>
      rw [e] at h hmem
      cases h
      exact ⟨rfl, hmem.2⟩
  | execute c j port rs =>
      rw [e] at h
      obtain ⟨o, phase⟩ := rs
      cases phase <;> simp only [WorkerPhase.commits?, reduceCtorEq] at h
      cases h
      exact ⟨rfl, hD w c _ port _ e rfl⟩
  | top | sweep | claim | claimed =>
      rw [e] at h
      cases h

end Decides

/-! ## 5. The end of a claim -/

section Ends

variable {site : JobSite} {s s' : Sys} {l : Label}

/-- The acts that end a claim. -/
theorem workerMove_ends {w : Worker} {a : WorkerAct} {ph : WorkerPhase} {c : Claim}
    (h : workerMove site s w a = some ph) (hc : (s.worker w).claim? = some c)
    (hn : ph.claim? = none) : a = .finish ∨ a = .abandon ∨ a = .load ∧ s.worker w = .claimed c := by
  cases workerMove_moved h with
  | finish => exact Or.inl rfl
  | abandon => exact Or.inr (Or.inl rfl)
  | loadGone e =>
      rw [e] at hc
      cases hc
      exact Or.inr (Or.inr ⟨rfl, e⟩)
  | claimPort | load | loadNoPort | run | heartbeat => cases hn
  | sweepRead e => rw [e] at hc; cases hc
  | sweepCommit e => rw [e] at hc; cases hc
  | recover e => rw [e] at hc; cases hc
  | claimSkip e => rw [e] at hc; cases hc
  | claimNone e => rw [e] at hc; cases hc

/-- The load of a row that is there keeps the claim. -/
theorem load_keeps {w : Worker} {c : Claim} {ph : WorkerPhase} {row : Job}
    (h : workerMove site s w .load = some ph) (hw : s.worker w = .claimed c) (hrow : row ∈ s.jobs)
    (hid : row.id = c.jobId) : ph.claim? = some c := by
  have hget : s.jobs.get? c.jobId = some row := Table.get?_eq_some.mpr ⟨hrow, hid⟩
  simp only [workerMove, hw, hget] at h
  split at h <;> (cases h; rfl)

/-- **A final commit leaves its row finished.** -/
theorem finish_recorded {w : Worker} {c : Claim} (hR : Recalls s) (hH : Held s) (hD : Decides s)
    (hc : (s.worker w).claim? = some c) (h : effect site s (.worker w .finish) = some s') :
    ∃ row ∈ s'.jobs, row.id = c.jobId ∧ row.status.finished = true ∧
      row.finishedAt.isSome = true := by
  obtain ⟨ph, hph, _⟩ := effect_worker h
  simp only [workerMove] at hph
  split at hph
  · rename_i p hcom
    obtain ⟨loaded, obj⟩ := p
    obtain ⟨c', hc', hl, _⟩ := commits_ok (hR.worker w) hcom
    cases hc.symm.trans hc'
    obtain ⟨row, hrow, hid, hout⟩ := hH w c hc
    obtain ⟨hloaded, hrec⟩ := commits_recorded hR hD hcom
    have hwrite : rowWrite site s (.worker w .finish) row = ormFlush loaded obj row := by
      simp only [rowWrite, workerWrite, hcom]
      exact Table.atKey_self (hid.trans hl.symm)
    refine ⟨_, effect_mem_of h hrow, (rowWrite_id site s _ row).trans hid, ?_⟩
    rw [hwrite]
    exact hrec.flush (hout loaded hloaded)
  · cases hph

/-- **One step**: a claim that ends, ends in a record. -/
theorem endsRecorded_step (hR : Recalls s) (hH : Held s) (hD : Decides s)
    (hp : CommitsSucceed s l) (hcond : OutcomeReached s l) (h : Step site s l s') :
    EndsRecorded s s' := by
  intro w c hc hn
  obtain ⟨_, he⟩ := h.effect
  rcases h.worker_cases w with ⟨hsame, _⟩ | ⟨a, ha, hph⟩
  · rw [hsame, hc] at hn
    cases hn
  · rcases workerMove_ends hph hc hn with rfl | rfl | ⟨rfl, hw⟩
    · rw [ha] at he
      exact finish_recorded (hR.at l.1) hH hD hc he
    · -- no crash, and no exception that nothing catches
      rcases hp w ha with hnone | hbefore
      · rw [hc] at hnone
        cases hnone
      · rw [hcond.caught w ha] at hbefore
        cases hbefore
    · obtain ⟨row, hrow, hid, _⟩ := hH w c hc
      rw [load_keeps hph hw hrow hid] at hn
      cases hn

end Ends

/-- **EVERY EXECUTION ENDS IN A RECORD**, in every run in which commits succeed and outcomes are
    reached: a worker that gives its claim up leaves the job's row completed, failed or canceled,
    and `finished_at` set. -/
theorem ends_recorded_run {site : JobSite} {s₀ s : Sys} {ls : List Label} (h0 : s₀.Started)
    (h : Run (guarded (Step site) fun s l => CommitsSucceed s l ∧ OutcomeReached s l) s₀ ls s) :
    ∀ l s', CommitsSucceed s l → OutcomeReached s l → Step site s l s' → EndsRecorded s s' := by
  have hI := h.invariant (I := fun s => Recalls s ∧ Held s ∧ Decides s)
    ⟨recalls_started h0, held_started h0, decides_started h0⟩
    fun s l s' ⟨hR, hH, hD⟩ hs =>
      ⟨step_recalls hR hs.2, held_step hR hH hs.2, decides_step hR hD hs.1.2 hs.2⟩
  exact fun l s' hp hcond hs => endsRecorded_step hI.1 hI.2.1 hI.2.2 hp hcond hs

/-! ## 6. Decided conditions, and small runs -/

/-- A worker has given its claim up and the row is not finished with its time. -/
def endsUnrecorded (s s' : Sys) (w : Worker) : Bool :=
  match (s.worker w).claim?, (s'.worker w).claim? with
  | some c, none =>
    (s'.jobs.get? c.jobId).all fun row => !row.status.finished || row.finishedAt.isNone
  | _, _ => false

theorem not_endsRecorded {s s' : Sys} {w : Worker} (h : endsUnrecorded s s' w = true) :
    ¬EndsRecorded s s' := by
  intro hE
  unfold endsUnrecorded at h
  split at h
  · rename_i c hc hn
    obtain ⟨row, hrow, hid, hfin, hset⟩ := hE w c hc hn
    rw [Table.get?_eq_some.mpr ⟨hrow, hid⟩, Option.all_some, hfin,
      ← Option.not_isSome, hset] at h
    cases h
  · cases h

/-- `CommitsSucceed`, decided. -/
def commitsCheck (s : Sys) (l : Label) : Bool :=
  match l.2 with
  | .worker w .abandon => (s.worker w).claim?.isNone || (s.worker w).beforeTry
  | _ => true

theorem commitsSucceed_of_check {s : Sys} {l : Label} (h : commitsCheck s l = true) :
    CommitsSucceed s l := by
  intro w ha
  unfold commitsCheck at h
  rw [ha] at h
  rcases Bool.or_eq_true_iff.mp h with h | h
  · exact Or.inl (Option.isNone_iff_eq_none.mp h)
  · exact Or.inr h

/-- Nothing abandoned, and no cancellation found by a first check. -/
def reachesOutcome (s : Sys) (l : Label) : Bool :=
  match l.2 with
  | .worker _ .abandon => false
  | .worker w (.run .ok) =>
    match s.worker w with
    | .execute _ loaded _ ⟨_, .firstCheck⟩ => !checkJobCancelled (s.jobs.get? loaded.id)
    | _ => true
  | _ => true

theorem reached_of_reachesOutcome {s : Sys} {l : Label} (h : reachesOutcome s l = true) :
    CommitsSucceed s l ∧ OutcomeReached s l := by
  have habandon : ∀ w, l.2 ≠ .worker w .abandon := by
    intro w ha
    unfold reachesOutcome at h
    rw [ha] at h
    cases h
  refine ⟨fun w ha => absurd ha (habandon w), fun w ha => absurd ha (habandon w), ?_⟩
  intro w c loaded port obj ha hw hc
  unfold reachesOutcome at h
  rw [ha] at h
  simp only [hw, hc] at h
  cases h

/-- One job from its claim to the end of its capture, six seconds of silence. -/
def wholeJob : List Label :=
  claimSteps 0 workerA ++ transferSteps 0 workerA ++
    ([.sendReturns true, .ok, .ok, .ok].map fun ev => (0, .worker workerA (.run ev))) ++
    [.received [], .ok, .ok].map fun ev => (seconds 6, .worker workerA (.run ev))

/-- The job is completed, and its time set. -/
theorem ends_recorded_small : ∃ s s', Step smallSite s (seconds 6, .worker workerA .finish) s' ∧
    (s'.jobs.get? 1).map (fun j => (j.status, j.finishedAt)) =
      some (.completed, some (seconds 6)) ∧ EndsRecorded s s' := by
  have h : ((execAll (execWhen reachesOutcome (exec smallSite)) smallStart wholeJob).any fun s =>
      (exec smallSite s (seconds 6, .worker workerA .finish)).any fun s' => decide
        ((s'.jobs.get? 1).map (fun j => (j.status, j.finishedAt)) =
          some (.completed, some (seconds 6)))) = true := by decide
  obtain ⟨s, s', hr, hs', hp'⟩ :=
    exists_guarded_run_step (fun _ _ => reached_of_reachesOutcome) h
  obtain ⟨hcommit, hreach⟩ := reached_of_reachesOutcome (s := s)
    (l := (seconds 6, .worker workerA .finish)) rfl
  exact ⟨s, s', hs', of_decide_eq_true hp',
    ends_recorded_run smallStart_started hr _ s' hcommit hreach hs'⟩

/-- **The output directory cannot be made**: the worker gives its claim up, the row stays running
    with no time, and when the lease has expired the same job is claimed again. -/
theorem left_running : ∃ s s' s'',
    Run (guarded (Step smallSite) CommitsSucceed) smallStart
      (claimSteps 0 workerA ++ [(0, .worker workerA .load)]) s ∧
    CommitsSucceed s (0, .worker workerA .abandon) ∧
    Step smallSite s (0, .worker workerA .abandon) s' ∧ ¬EndsRecorded s s' ∧
    (s'.jobs.get? 1).map (fun j => (j.status, j.finishedAt)) = some (.running, none) ∧
    Run (Step smallSite) s' (claimSteps (seconds 301) workerA) s'' ∧
    (s''.worker workerA).claim?.map Claim.jobId = some 1 := by
  have h : ((execAll (execWhen commitsCheck (exec smallSite)) smallStart
      (claimSteps 0 workerA ++ [(0, .worker workerA .load)])).any fun s =>
      commitsCheck s (0, .worker workerA .abandon) &&
      (exec smallSite s (0, .worker workerA .abandon)).any fun s' =>
        (endsUnrecorded s s' workerA &&
          decide ((s'.jobs.get? 1).map (fun j => (j.status, j.finishedAt)) =
            some (.running, none))) &&
        (execAll (exec smallSite) s' (claimSteps (seconds 301) workerA)).any fun s'' =>
          decide ((s''.worker workerA).claim?.map Claim.jobId = some 1)) = true := by decide
  obtain ⟨s, hr, hp⟩ := exists_guarded_run (fun _ _ => commitsSucceed_of_check) h
  obtain ⟨hcommit, hp⟩ := (Bool.and_eq_true _ _).mp hp
  obtain ⟨s', hs', hp'⟩ := (Option.any_eq_true _ _).mp hp
  obtain ⟨hends, hagain⟩ := (Bool.and_eq_true _ _).mp hp'
  obtain ⟨hunrec, hrow⟩ := (Bool.and_eq_true _ _).mp hends
  obtain ⟨s'', hr'', hclaim⟩ := exists_run_of_execAll hagain
  exact ⟨s, s', s'', hr, commitsSucceed_of_check hcommit, hs', not_endsRecorded hunrec,
    of_decide_eq_true hrow, hr'', of_decide_eq_true hclaim⟩

/-- A cancel that read the job while it was queued commits between the claim and the load: the
    first check finds it on an object that is canceled already. -/
def canceledAtLoad : List Label :=
  [(0, .request 1 (.cancelRead 1 1 false))] ++ claimSteps 0 workerA ++
    [(0, .request 1 .cancelCommit)] ++
    [.load, .run (.prepared true), .run .ok].map fun a => (0, .worker workerA a)

/-- **A job canceled with no time**: no crash, no exception, and the run returns with nothing to
    commit. -/
theorem canceled_without_time : ∃ s s',
    Run (guarded (Step smallSite) CommitsSucceed) smallStart canceledAtLoad s ∧
    Step smallSite s (0, .worker workerA .finish) s' ∧ ¬EndsRecorded s s' ∧
    (s'.jobs.get? 1).map (fun j => (j.status, j.finishedAt)) = some (.canceled, none) := by
  have h : ((execAll (execWhen commitsCheck (exec smallSite)) smallStart canceledAtLoad).any
      fun s => (exec smallSite s (0, .worker workerA .finish)).any fun s' =>
        endsUnrecorded s s' workerA &&
          decide ((s'.jobs.get? 1).map (fun j => (j.status, j.finishedAt)) =
            some (.canceled, none))) = true := by decide
  obtain ⟨s, s', hr, hs', hp'⟩ := exists_guarded_run_step (fun _ _ => commitsSucceed_of_check) h
  obtain ⟨hunrec, hrow⟩ := (Bool.and_eq_true _ _).mp hp'
  exact ⟨s, s', hr, hs', not_endsRecorded hunrec, of_decide_eq_true hrow⟩

end RetroBridge.Jobs
