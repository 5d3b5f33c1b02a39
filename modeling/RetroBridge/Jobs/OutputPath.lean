/-
  File:      RetroBridge/Jobs/OutputPath.lean
  Subject:   WHEN THE PATH OF A JOB'S OUTPUT IS COMMITTED (worker.py: `run_job_on_device`,
             `worker_loop`), and the stream of a job over the job queue.

  `run_job_on_device` assigns `output_path` to the object of the claimed row, and the only commit of
  that object is the final one.

  * `RowFinal` -- a row with a path is finished, and a queued one has no port;
  * `PathsFinal`, `pathsFinal_run` -- **in every run of the queue the rows are such**;
  * `Shows`, `shows_next` -- the row as a stream reads it, over a step of the queue;
  * `LiveStep`, `live_run` -- **a stream beside the queue is a run of EventStream.lean**, whatever
    the condition on its steps;
  * `canceled_unread` -- a run of the queue that leaves a canceled job with its log and no path.
-/
import RetroBridge.Jobs.EventStream
import RetroBridge.Jobs.Pages

namespace RetroBridge.Jobs

open Relational Transition

/-! ## 1. The rows -/

/-- **A row with a path is finished**; and no queued row has a port, so that no run of it begins. -/
structure RowFinal (row : Job) : Prop where
  unported : row.status = .queued → row.portId = none
  final : (Pages.output? row).isSome = true → row.status.finished = true

/-- A row whose path was committed is finished for good. -/
def FinishedRow (jobs : Table Job) (k : Nat) : Prop :=
  ∃ row ∈ jobs, row.id = k ∧ row.status.finished = true

/-- What a worker has loaded: for an execution a running row, or one that has finished. -/
def WorkerPhase.LoadsFinal (jobs : Table Job) : WorkerPhase → Prop
  | .noPort _ loaded obj => obj.outputPath = loaded.outputPath
  | .execute _ loaded _ _ => loaded.status = .running ∨ FinishedRow jobs loaded.id
  | .top | .sweep _ | .claim _ _ | .claimed _ => True

/-- **The invariant.** -/
structure PathsFinal (site : JobSite) (s : Sys) : Prop where
  recalls : Recalls s
  paths : ∀ w, (s.worker w).PathsOwn site.toSite
  loads : ∀ w, (s.worker w).LoadsFinal s.jobs
  rows : ∀ row ∈ s.jobs, RowFinal row

theorem rowFinal_newJob (sub : Submission) (now : Time) (id : Nat) (file : String) (size : Nat) :
    RowFinal (newJob sub now id file size) where
  unported := fun _ => rfl
  final := fun h => by cases h

/-- A row that keeps its port and its path, and is not queued again. -/
theorem RowFinal.keep {row row' : Job} (h : RowFinal row) (hport : row'.portId = row.portId)
    (hpath : row'.outputPath = row.outputPath)
    (hstatus : row'.status = row.status ∨ row'.status.finished = true) : RowFinal row' := by
  constructor
  · intro hq
    rcases hstatus with e | hf
    · rw [hport]
      exact h.unported (e.symm.trans hq)
    · rw [hq] at hf
      cases hf
  · intro hsome
    rcases hstatus with e | hf
    · rw [e]
      refine h.final ?_
      unfold Pages.output? at hsome ⊢
      rwa [hpath] at hsome
    · exact hf

/-- A row without a path. -/
theorem output?_none {row : Job} (h : RowFinal row) (hu : row.status.finished = false) :
    Pages.output? row = none := by
  cases ho : Pages.output? row with
  | none => rfl
  | some p =>
      have hf := h.final (by rw [ho]; rfl)
      rw [hu] at hf
      cases hf

/-! ## 2. One step -/

section Step

variable {site : JobSite} {s s' : Sys} {l : Label}

/-- **The final commit**: it writes a final status, or the row is finished already, or no path. -/
theorem rowFinal_final {jobs : Table Job} {ph : WorkerPhase} {loaded obj row : Job}
    (hloads : ph.LoadsFinal jobs) (hc : ph.commits? = some (loaded, obj))
    (hret : Returned loaded obj) (hrow : row ∈ jobs) (hid : loaded.id = row.id)
    (h : RowFinal row) : RowFinal (ormFlush loaded obj row) := by
  by_cases hst : obj.status = loaded.status
  · have hsame : (ormFlush loaded obj row).status = row.status := by
      rw [ormFlush_status]
      exact flushCol_same hst
    cases ph with
    | noPort c l o =>
        cases hc
        have hpath : obj.outputPath = loaded.outputPath := hloads
        exact h.keep rfl (flushCol_same hpath) (.inl hsame)
    | execute c l port rs =>
        have hloaded : loaded.status = .running ∨ FinishedRow jobs loaded.id := by
          obtain ⟨o, phase⟩ := rs
          cases phase <;> simp only [WorkerPhase.commits?, reduceCtorEq] at hc
          cases hc
          exact hloads
        rcases hloaded with hrun | ⟨row₂, hrow₂, hid₂, hf⟩
        · -- of a running row a run leaves a final status
          rcases hret with ⟨path, t, o, rfl⟩ | ⟨hne, -⟩
          · rw [Outcome.record_status, hrun] at hst
            exact absurd hst o.status_ne_running
          · exact absurd hrun hne
        · cases Table.eq_of_key hrow₂ hrow (hid₂.trans hid)
          constructor
          · intro hq
            rw [hsame] at hq
            rw [hq] at hf
            cases hf
          · intro _
            rw [hsame]
            exact hf
    | top | sweep | claim | claimed => cases hc
  · have hfin : (ormFlush loaded obj row).status.finished = true := by
      rw [ormFlush_status, flushCol_written hst]
      exact hret.status.resolve_left hst
    exact ⟨fun hq => (by rw [hq] at hfin; cases hfin), fun _ => hfin⟩

/-- **What a step leaves of a row.** -/
theorem PathsFinal.change (h : PathsFinal site s) {a : Act} {row row' : Job} (hrow : row ∈ s.jobs)
    (hch : RowChange site s row a row') : RowFinal row' := by
  have hR := h.rows row hrow
  cases hch with
  | same => exact hR
  | swept => exact hR.keep rfl rfl (.inr rfl)
  | recoveredCanceled => exact ⟨fun hq => (by cases hq), fun _ => rfl⟩
  | recoveredQueued hd hs =>
      have hrun := Job.running_of_leaseExpired (stale_iff.mp hs).2
      have hnone : Pages.output? row = none := output?_none hR (by rw [hrun]; rfl)
      have hnone' : Pages.output? (requeued row) = none := hnone
      exact ⟨fun _ => rfl, fun hsome => by rw [hnone'] at hsome; cases hsome⟩
  | @claim w _ port _ hw hslot hq =>
      have hqueued := (candidate_iff.mp hq).2.1
      have hnone : Pages.output? row = none := output?_none hR (by rw [hqueued]; rfl)
      have hnone' : Pages.output? (claimed s.clock w port row) = none := hnone
      exact ⟨fun he => (by cases he), fun hsome => by rw [hnone'] at hsome; cases hsome⟩
  | beat => exact hR.keep rfl rfl (.inl rfl)
  | @final w c loaded obj hw hf hid hret =>
      obtain ⟨c', hc', hloaded, -⟩ := commits_ok (h.recalls.worker w) hf
      have hids : loaded.id = row.id := by
        rw [hc'] at hw
        rw [hloaded, Option.some.inj hw]
        exact hid
      exact rowFinal_final (h.loads w) hf hret hrow hids hR
  | @cancel r dirty loaded hreq hm hid hcl hf =>
      refine hR.keep rfl (flushCol_same ?_) ?_
      · unfold withCancel
        split <;> rfl
      · rw [(ormFlush_withCancel hcl).2.1]
        split
        · exact .inr rfl
        · exact .inl rfl

/-- A finished row stays one. -/
theorem FinishedRow.step {k : Nat} (h : FinishedRow s.jobs k) (hR : Recalls s)
    (hs : Step site s l s') : FinishedRow s'.jobs k := by
  obtain ⟨row, hrow, rfl, hf⟩ := h
  obtain ⟨-, he⟩ := hs.effect
  obtain ⟨row', hrow', hid, hch⟩ := effect_next (hR.at l.1) he hrow
  refine ⟨row', hrow', hid, ?_⟩
  cases hu : row'.status.finished with
  | true => rfl
  | false =>
      rw [hch.unfinished hu] at hf
      cases hf

/-- **What a worker loads.** -/
theorem workerMove_loadsFinal {w : Worker} {a : WorkerAct} {ph : WorkerPhase}
    (hrows : ∀ row ∈ s.jobs, RowFinal row) (hw : (s.worker w).LoadsFinal s.jobs)
    (hm : workerMove site s w a = some ph) : ph.LoadsFinal s.jobs := by
  cases workerMove_moved hm with
  | @load c job port _ hjob _ hport =>
      cases hst : job.status with
      | running => exact .inl hst
      | queued =>
          rw [(hrows job hjob).unported hst] at hport
          cases hport
      | completed | failed | canceled => exact .inr ⟨job, hjob, rfl, by rw [hst]; rfl⟩
  | loadNoPort => exact Outcome.record_outputPath _ _ _
  | run e _ =>
      rw [e] at hw
      exact hw
  | heartbeat e _ _ =>
      rw [e] at hw
      exact hw
  | sweepRead | sweepCommit | recover | claimPort | claimSkip | claimNone | loadGone | finish
  | abandon => trivial

/-- What has been loaded stays so. -/
theorem WorkerPhase.LoadsFinal.later {ph : WorkerPhase} (h : ph.LoadsFinal s.jobs)
    (hR : Recalls s) (hs : Step site s l s') : ph.LoadsFinal s'.jobs := by
  cases ph with
  | execute c loaded port rs => exact h.imp_right fun hf => hf.step hR hs
  | noPort c loaded obj => exact h
  | top | sweep | claim | claimed => trivial

/-- **What one step keeps.** -/
theorem pathsFinal_step (h : PathsFinal site s) (hs : Step site s l s') : PathsFinal site s' where
  recalls := step_recalls h.recalls hs
  paths w := by
    rcases hs.worker_cases w with ⟨e, -⟩ | ⟨a, -, hmove⟩
    · rw [e]
      exact h.paths w
    · exact workerMove_pathsOwn (q := s.at l.1) (h.paths w) hmove
  loads w := by
    rcases hs.worker_cases w with ⟨e, -⟩ | ⟨a, -, hmove⟩
    · rw [e]
      exact (h.loads w).later h.recalls hs
    · have hnow := workerMove_loadsFinal (s := s.at l.1) h.rows (h.loads w) hmove
      exact WorkerPhase.LoadsFinal.later (s := s) hnow h.recalls hs
  rows row' hrow' := by
    obtain ⟨-, he⟩ := hs.effect
    rcases effect_rows (h.recalls.at l.1) he hrow' with ⟨row, hrow, -, hch⟩ |
      ⟨r, sub, t, k, f, n, -, rfl⟩
    · have hat : PathsFinal site (s.at l.1) := ⟨h.recalls.at l.1, h.paths, h.loads, h.rows⟩
      exact hat.change hrow hch
    · exact rowFinal_newJob ..

end Step

/-- **NO PATH IS COMMITTED BEFORE THE FINAL STATUS**, in any run of the queue. -/
theorem pathsFinal_run {site : JobSite} {s₀ s : Sys} {ls : List Label} (h0 : s₀.Started)
    (hrows : ∀ row ∈ s₀.jobs, RowFinal row) (h : Run (Step site) s₀ ls s) : PathsFinal site s := by
  refine h.invariant ⟨recalls_started h0, fun w => ?_, fun w => ?_, hrows⟩
    fun _ _ _ hi hs => pathsFinal_step hi hs
  · rw [h0.worker w]
    trivial
  · rw [h0.worker w]
    trivial

/-! ## 3. A stream beside the queue -/

namespace Events

/-- **The row of a job as a stream of it reads it.** -/
def Shows (q : Sys) (k : Nat) (v : JobView) : Prop :=
  ∃ row ∈ q.jobs, row.id = k ∧ v.status = row.status ∧
    v.outputPath = (Pages.output? row).isSome

section Shows

variable {site : JobSite} {q q' : Sys} {k : Nat} {v v' : JobView}

/-- Every row can be read so. -/
theorem exists_shows (h : PathsFinal site q) {row : Job} (hrow : row ∈ q.jobs) :
    ∃ v, Shows q row.id v :=
  ⟨⟨row.status, (Pages.output? row).isSome, (h.rows row hrow).final⟩, row, hrow, rfl, rfl, rfl⟩

/-- A path that is a row's own is not empty. -/
theorem output?_of_own {row row' : Job} (hpath : row'.outputPath = row.outputPath ∨
    row'.outputPath = some (sessionLog site.toSite row)) (h : (Pages.output? row).isSome = true) :
    (Pages.output? row').isSome = true := by
  unfold Pages.output? at h ⊢
  rcases hpath with e | e
  · rwa [e]
  · have hne : sessionLog site.toSite row ≠ "" := by
      intro hnil
      have hlist := congrArg String.toList hnil
      unfold sessionLog at hlist
      rw [String.toList_append, String.toList_append] at hlist
      exact absurd (List.append_eq_nil_iff.mp hlist).2 (by decide +kernel)
    rw [e, Option.filter_some, if_pos (by simpa using hne)]
    rfl

/-- **The row over a step of the queue**: it is there, and no path is taken back. -/
theorem shows_next (h : PathsFinal site q) {l : Label} (hs : Step site q l q')
    (hv : Shows q k v) (hv' : Shows q' k v') (hpath : v.outputPath = true) :
    v'.outputPath = true := by
  obtain ⟨row, hrow, rfl, -, hp⟩ := hv
  obtain ⟨row', hrow', hid, -, hp'⟩ := hv'
  obtain ⟨-, he⟩ := hs.effect
  have hch := effect_change (h.recalls.at l.1) he hrow
  rw [← effect_row he hrow hrow' hid] at hch
  rw [hp']
  rw [hp] at hpath
  exact output?_of_own (rowChange_outputPath (h.recalls.at l.1) h.paths hch) hpath

end Shows

/-- A step of the queue, or of a stream or its file. -/
inductive LiveAct where
  | queue (l : Label)
  | stream (a : Act)

/-- **The queue and a stream of job `k`**: a step of the queue leaves the row as the stream will
    read it next. -/
def LiveStep (site : JobSite) (k : Nat) (s : Sys × Stream) : LiveAct → Sys × Stream → Prop
  | .queue l, s' => Step site s.1 l s'.1 ∧ ∃ v, Shows s'.1 k v ∧ s'.2 = { s.2 with row := v }
  | .stream a, s' => s'.1 = s.1 ∧ (∀ row, a ≠ .commit row) ∧ StreamStep s.2 a s'.2

/-- A condition on the steps of a stream, for the two together. -/
def liveOk (ok : Stream → Act → Prop) (s : Sys × Stream) : LiveAct → Prop
  | .queue _ => True
  | .stream a => ok s.2 a

/-- **A STREAM BESIDE THE QUEUE IS A RUN OF THE STREAM**: what the queue does to the row are its
    commits. -/
theorem live_run {site : JobSite} {k : Nat} {ok : Stream → Act → Prop}
    (hcommit : ∀ st row, ok st (.commit row)) {q₀ : Sys} {st₀ : Stream} (h0 : PathsFinal site q₀)
    (hrow : Shows q₀ k st₀.row) {ls : List LiveAct} {s : Sys × Stream}
    (h : Run (guarded (LiveStep site k) (liveOk ok)) (q₀, st₀) ls s) :
    ∃ as, Run (guarded StreamStep ok) st₀ as s.2 := by
  have hI := h.invariant (I := fun s => PathsFinal site s.1 ∧ Shows s.1 k s.2.row ∧
      ∃ as, Run (guarded StreamStep ok) st₀ as s.2) ⟨h0, hrow, [], .start⟩
    fun s l s' ⟨hP, hv, as, hr⟩ ⟨hok, hs⟩ => by
      cases l with
      | queue l =>
          obtain ⟨hq, v, hv', e⟩ := hs
          refine ⟨pathsFinal_step hP hq, by rw [e]; exact hv', as ++ [.commit v], ?_⟩
          refine hr.step (.commit v) ⟨hcommit _ v, ?_⟩
          show Stream.exec s.2 (.commit v) = some s'.2
          have hkept : ¬(s.2.row.outputPath = true ∧ v.outputPath = false) := fun hc => by
            rw [shows_next hP hq hv hv' hc.1] at hc
            cases hc.2
          rw [e]
          exact if_neg hkept
      | stream a =>
          obtain ⟨e, hne, hst⟩ := hs
          refine ⟨by rw [e]; exact hP, ?_, as ++ [a], hr.step a ⟨hok, hst⟩⟩
          have hsame : s'.2.row = s.2.row := Stream.row_of_exec hne hst
          rw [e, hsame]
          exact hv
  exact hI.2.2

/-- Job 1 runs and has begun its log when an administrator cancels it and the worker dies; the next
    turn of a worker, after the lease, cancels it. -/
def dyingWorker : List Label :=
  claimSteps 0 workerA ++ (transferSteps 0 workerA).take 5 ++
    [(1, .request 1 (.cancelRead 1 1 true)), (1, .request 1 .cancelCommit),
      (2, .worker workerA .abandon)] ++
    [.sweepRead, .recover].map fun a => (seconds 3600, .worker workerB a)

/-- **A canceled job with its log and no path.** -/
theorem canceled_unread : ∃ s, Run (Step smallSite) smallStart dyingWorker s ∧
    (s.jobs.get? 1).any (fun row => row.status == .canceled && (Pages.output? row).isNone) = true :=
  exists_run_of_execAll (by decide)

end Events

end RetroBridge.Jobs
