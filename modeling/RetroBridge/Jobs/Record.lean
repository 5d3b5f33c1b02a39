/-
  File:      RetroBridge/Jobs/Record.lean
  Subject:   THE COLUMNS OF A ROW AGREE WITH ITS STATUS (all writers of `jobs`, each operation taken
             as one transaction).

  * `Consistent` -- a queued row holds no claim and no times, a running row holds its claim and
    lease and is not finished, a finished row says when, and the exit code is 0 exactly on
    completion;
  * `Ledger`, `Op`, `Ledger.step` -- the job table with the rows the workers hold, and one whole
    operation on it;
  * `Timestamped` -- the operations that keep the rows consistent. Four do not: a cancel of a queued
    row, the sweep of an orphan and the first statement of a recovery leave `finished_at` NULL, and
    an execution that records a failure or a cancellation leaves `exit_code` as it finds it;
  * `consistent_run` -- without these every row of every run is consistent.
-/
import RetroBridge.Jobs.System

namespace RetroBridge.Jobs

open Relational Transition

/-! ## 1. Consistent rows -/

/-- The columns of a row agree with its status. -/
structure Consistent (j : Job) : Prop where
  queued : j.status = .queued → j.portId = none ∧ j.startedAt = none ∧ j.finishedAt = none ∧
    j.workerPid = none ∧ j.claimedBy = none ∧ j.claimedAt = none ∧ j.leaseExpiresAt = none ∧
    j.heartbeatAt = none
  running : j.status = .running → j.portId ≠ none ∧ j.startedAt ≠ none ∧ j.claimedBy ≠ none ∧
    j.leaseExpiresAt ≠ none ∧ j.finishedAt = none
  finished : j.status.finished = true → j.finishedAt ≠ none
  exitCode : j.exitCode = some 0 ↔ j.status = .completed

theorem consistent_newJob (sub : Submission) (now : Time) (id : Nat) (file : String) (size : Nat) :
    Consistent (newJob sub now id file size) where
  queued _ := ⟨rfl, rfl, rfl, rfl, rfl, rfl, rfl, rfl⟩
  running h := by cases h
  finished h := by cases h
  exitCode := by simp [newJob]

section Consistent

variable {j : Job}

theorem Consistent.exitCode_ne (h : Consistent j) (hs : j.status ≠ .completed) :
    j.exitCode ≠ some 0 := fun e => hs (h.exitCode.mp e)

/-- A claim fills the columns of a queued row. -/
theorem Consistent.claimed (h : Consistent j) (hq : j.status = .queued) (now : Time) (w : Worker)
    (port : DevicePort) : Consistent (claimed now w port j) where
  queued e := by cases e
  running _ := by simpa [Jobs.claimed] using (h.queued hq).2.2.1
  finished e := by cases e
  exitCode := ⟨fun e => absurd e (h.exitCode_ne (by rw [hq]; simp)), fun e => by cases e⟩

/-- A recovery clears the columns of a running row. -/
theorem Consistent.requeued (h : Consistent j) (hr : j.status = .running) :
    Consistent (requeued j) where
  queued _ := ⟨rfl, rfl, (h.running hr).2.2.2.2, rfl, rfl, rfl, rfl, rfl⟩
  running e := by cases e
  finished e := by cases e
  exitCode := ⟨fun e => absurd e (h.exitCode_ne (by rw [hr]; simp)), fun e => by cases e⟩

/-- A cancellation asked for while the row runs changes no other column. -/
theorem Consistent.withCancel (h : Consistent j) (hq : j.status ≠ .queued) :
    Consistent (withCancel j) := by
  have e : Jobs.withCancel j = { j with cancelRequested := true } := if_neg hq
  rw [e]
  exact ⟨h.queued, h.running, h.finished, h.exitCode⟩

/-- **A row that a final commit finishes** is consistent if its exit code is then 0 exactly on
    completion. -/
theorem consistent_of_finished (hf : j.status.finished = true) (ht : j.finishedAt ≠ none)
    (he : j.exitCode = some 0 ↔ j.status = .completed) : Consistent j where
  queued e := by rw [e] at hf; cases hf
  running e := by rw [e] at hf; cases hf
  finished _ := ht
  exitCode := he

end Consistent

/-! ## 2. Whole operations -/

/-- The job table and the row each executing worker has loaded. -/
structure Ledger where
  jobs : Table Job
  held : Worker → Option Job

/-- One operation, with the time it runs at. `complete` is an execution's end: the outcome it
    records and its final commit. -/
inductive Op where
  | create (now : Time) (sub : Submission) (file : String) (size : Nat)
  | cancel (jobId userId : Nat) (isAdmin : Bool)
  | bulkCancel (jobIds : List Nat)
  | sweep (deviceId : Nat)
  | claim (now : Time) (w : Worker)
  | recover (now : Time) (deviceId : Nat)
  | complete (now : Time) (w : Worker) (path : String) (o : Outcome)

/-- **`create_job`**, undisturbed: the row is added unless a check refuses. -/
def createJob (site : Site) (now : Time) (sub : Submission) (file : String) (size : Nat)
    (jobs : Table Job) : Table Job :=
  match site.devices.get? sub.deviceId, site.users.get? sub.userId with
  | some d, some user =>
    if d.isEnabled = true ∧ (getUserQuota site jobs user).2.2 = false ∧
        (checkRateLimit site now jobs sub.userId).1 = false then
      jobs.insert (newJob sub now jobs.nextKey file size)
    else jobs
  | _, _ => jobs

/-- The objects `bulk_cancel_jobs` has changed when its loop ends. -/
def bulkDirty (jobs : Table Job) : List Nat → Dirty → Dirty
  | [], dirty => dirty
  | k :: ks, dirty =>
    bulkDirty jobs ks <|
      if dirty.any fun it => it.1.id == k then dirty
      else addDirty (jobs.get? k) (bulkCancelOne (jobs.get? k)) dirty

/-- The commit of a cancel. -/
def commitDirty (dirty : Dirty) (jobs : Table Job) : Table Job :=
  jobs.mapRows (cancelRow dirty) (cancelRow_id dirty)

/-- The sweep of `worker_loop`, orphan by orphan. -/
def sweepOrphans (os : List Job) (jobs : Table Job) : Table Job :=
  os.foldl (fun jobs oj => jobs.mapRows (sweepRow oj) (sweepRow_id oj)) jobs

/-- The final commit of `worker_loop`. -/
def finalCommit (loaded obj : Job) (jobs : Table Job) : Table Job :=
  jobs.mapRows (Table.atKey loaded.id (ormFlush loaded obj)) (Table.atKey_key _ fun _ => rfl)

/-- **One operation on the ledger.** A worker claims while it holds no row, and gives its row back
    with the commit of its outcome. -/
def Ledger.step (site : JobSite) (s : Ledger) : Op → Ledger
  | .create now sub file size => { s with jobs := createJob site.toSite now sub file size s.jobs }
  | .cancel k userId isAdmin =>
    let dirty := addDirty (s.jobs.get? k) (cancelJob (s.jobs.get? k) userId isAdmin).1 []
    { s with jobs := commitDirty dirty s.jobs }
  | .bulkCancel ks => { s with jobs := commitDirty (bulkDirty s.jobs ks []) s.jobs }
  | .sweep deviceId => { s with jobs := sweepOrphans (orphans s.jobs deviceId) s.jobs }
  | .claim now w =>
    match s.held w with
    | some _ => s
    | none =>
      ⟨(claimJob site.toSite now w s.jobs).1,
        Function.update s.held w (claimJob site.toSite now w s.jobs).2⟩
  | .recover now deviceId => { s with jobs := recoverStaleJobs now deviceId s.jobs }
  | .complete now w path o =>
    match s.held w with
    | none => s
    | some loaded =>
      ⟨finalCommit loaded (o.record now { loaded with outputPath := some path }) s.jobs,
        Function.update s.held w none⟩

/-- The step relation of the ledger. -/
def LedgerStep (site : JobSite) (s : Ledger) (op : Op) (s' : Ledger) : Prop := s.step site op = s'

/-! ## 3. The operations that keep time and exit code -/

/-- A cancel by this user may go through only if the row is not queued. -/
def CancelsNoQueued (jobs : Table Job) (k userId : Nat) (isAdmin : Bool) : Prop :=
  ∀ row ∈ jobs, row.id = k → row.status = .queued → row.cancelRequested = false →
    row.userId ≠ userId ∧ isAdmin = false

/-- **The condition**: no cancel of a queued row, no orphan, no stale row with a cancellation asked
    for, and no outcome but completion on a row with exit code 0, nor one that sets it. -/
def Timestamped (site : JobSite) (s : Ledger) : Op → Prop
  | .create .. => True
  | .cancel k userId isAdmin => CancelsNoQueued s.jobs k userId isAdmin
  | .bulkCancel ks => ∀ k ∈ ks, CancelsNoQueued s.jobs k 0 true
  | .sweep deviceId => orphans s.jobs deviceId = []
  | .claim now w => ∀ d, enabledDevice? site.toSite w.deviceName = some d →
      cancelsStale now d.id s.jobs = false
  | .recover now deviceId => cancelsStale now deviceId s.jobs = false
  | .complete _ w _ o => ∀ loaded, s.held w = some loaded →
      (o.setsExitCode = true → o.status = .completed) ∧
      (o.status ≠ .completed → ∀ row ∈ s.jobs, row.id = loaded.id → row.exitCode ≠ some 0)

/-- A row as a worker holds it. -/
structure HeldOk (loaded : Job) : Prop where
  running : loaded.status = .running
  finishedAt : loaded.finishedAt = none
  exitCode : loaded.exitCode ≠ some 0

/-- **The invariant of the ledger.** -/
structure LedgerOk (s : Ledger) : Prop where
  rows : ∀ row ∈ s.jobs, Consistent row
  held : ∀ w loaded, s.held w = some loaded → HeldOk loaded

section Rows

variable {jobs : Table Job}

theorem consistent_createJob {site : Site} {now : Time} {sub : Submission} {file : String}
    {size : Nat} (h : ∀ row ∈ jobs, Consistent row) :
    ∀ row ∈ createJob site now sub file size jobs, Consistent row := by
  intro row hrow
  unfold createJob at hrow
  split at hrow
  · split at hrow
    · rcases Table.mem_insert hrow with hrow | rfl
      · exact h row hrow
      · exact consistent_newJob ..
    · exact h row hrow
  · exact h row hrow

/-- The objects a cancel changes are rows of the table with the cancel on them. -/
def DirtyOf (jobs : Table Job) (it : Job × Job) : Prop :=
  it.1 ∈ jobs ∧ it.2 = withCancel it.1 ∧ it.1.status ≠ .queued

theorem commitDirty_consistent {dirty : Dirty} (hd : ∀ it ∈ dirty, DirtyOf jobs it)
    (h : ∀ row ∈ jobs, Consistent row) : ∀ row ∈ commitDirty dirty jobs, Consistent row := by
  intro row' hrow'
  obtain ⟨row, hrow, rfl⟩ := Table.mem_mapRows.mp hrow'
  rcases cancelRow_cases dirty row with e | ⟨it, hit, hid, e⟩
  · rw [e]; exact h row hrow
  · obtain ⟨hm, ho, hq⟩ := hd it hit
    cases Table.eq_of_key hm hrow hid
    rw [e, ho]
    have hself : ormFlush it.1 (withCancel it.1) it.1 = withCancel it.1 := by
      unfold withCancel
      rw [if_neg hq]
      simp [ormFlush, flushCol]
    rw [hself]
    exact (h _ hm).withCancel hq

/-- A cancel that its caller may not make changes no object. -/
theorem cancelJob_unauthorized {j : Job} {userId : Nat} {isAdmin : Bool}
    (h : j.userId ≠ userId ∧ isAdmin = false) : (cancelJob (some j) userId isAdmin).1 = none := by
  simp only [cancelJob]
  rw [if_pos h]

theorem dirtyOf_cancel {k userId : Nat} {isAdmin : Bool} {dirty : Dirty}
    (hcond : CancelsNoQueued jobs k userId isAdmin) (hd : ∀ it ∈ dirty, DirtyOf jobs it) :
    ∀ it ∈ addDirty (jobs.get? k) (cancelJob (jobs.get? k) userId isAdmin).1 dirty,
      DirtyOf jobs it := by
  intro it hit
  unfold addDirty at hit
  split at hit
  · rename_i j o hj ho
    rcases List.mem_append.mp hit with hit | hit
    · exact hd it hit
    · rw [List.mem_singleton.mp hit]
      obtain ⟨hm, hid⟩ := Table.get?_eq_some.mp hj
      obtain ⟨j', e, hobj, hc, _⟩ := cancelJob_some ho
      cases hj.symm.trans e
      refine ⟨hm, hobj, fun hq => ?_⟩
      rw [hj, cancelJob_unauthorized (hcond j hm hid hq hc)] at ho
      cases ho
  · exact hd it hit

theorem dirtyOf_bulk {ks : List Nat} (hcond : ∀ k ∈ ks, CancelsNoQueued jobs k 0 true) :
    ∀ {dirty : Dirty}, (∀ it ∈ dirty, DirtyOf jobs it) →
      ∀ it ∈ bulkDirty jobs ks dirty, DirtyOf jobs it := by
  induction ks with
  | nil => exact fun hd => hd
  | cons k ks ih =>
      intro dirty hd
      refine ih (fun q hq => hcond q (List.mem_cons_of_mem _ hq)) ?_
      split
      · exact hd
      · rw [bulkCancelOne_eq _ 0]
        exact dirtyOf_cancel (hcond k List.mem_cons_self) hd

theorem consistent_recover {now : Time} {deviceId : Nat}
    (hcond : cancelsStale now deviceId jobs = false) (h : ∀ row ∈ jobs, Consistent row) :
    ∀ row ∈ recoverStaleJobs now deviceId jobs, Consistent row := by
  intro row' hrow'
  obtain ⟨row, hrow, rfl⟩ := Table.mem_mapRows.mp hrow'
  rcases recoverRow_cases now deviceId (cancelsStale now deviceId jobs) row with
    e | ⟨_, _, hc, _⟩ | ⟨hs, _, e⟩
  · rw [e]; exact h row hrow
  · rw [hcond] at hc; cases hc
  · rw [e]
    exact (h row hrow).requeued (Job.running_of_leaseExpired (stale_iff.mp hs).2)

/-- A claim leaves every row consistent, and what it loads is in order. -/
theorem consistent_claim {site : Site} {now : Time} {w : Worker}
    (hcond : ∀ d, enabledDevice? site w.deviceName = some d → cancelsStale now d.id jobs = false)
    (h : ∀ row ∈ jobs, Consistent row) :
    (∀ row ∈ (claimJob site now w jobs).1, Consistent row) ∧
      ∀ loaded, (claimJob site now w jobs).2 = some loaded → HeldOk loaded := by
  unfold claimJob
  split
  · exact ⟨h, fun _ e => by cases e⟩
  · rename_i d hd
    have hrec := consistent_recover (hcond d hd) h
    rcases claimPorts_cases now w d.id (recoverStaleJobs now d.id jobs)
        (enabledPorts site d.id .jobQueue) with e | ⟨p, _, j, hj, _, hnext, e⟩
    · rw [e]
      exact ⟨hrec, fun _ e => by cases e⟩
    · rw [e]
      have hq := (candidate_iff.mp (candidate_of_isNext hnext)).2.1
      have hcl := (hrec j hj).claimed hq now w p
      refine ⟨fun row' hrow' => ?_, fun loaded e => ?_⟩
      · have hm : row' ∈ (recoverStaleJobs now d.id jobs).mapRows (claimRow now w p j.id)
            (claimRow_id now w p j.id) := hrow'
        obtain ⟨row, hrow, rfl⟩ := Table.mem_mapRows.mp hm
        by_cases hid : row.id = j.id
        · cases Table.eq_of_key hrow hj hid
          rw [claimRow, Table.atKey_self hid]
          exact hcl
        · rw [claimRow, Table.atKey_other hid]
          exact hrec row hrow
      · cases e
        exact ⟨rfl, (hcl.running rfl).2.2.2.2, hcl.exitCode_ne (by simp [claimed])⟩

/-- **The final commit of an outcome** leaves the row consistent, given the condition. -/
theorem consistent_final {loaded row : Job} {now : Time} {path : String} {o : Outcome}
    (hl : HeldOk loaded) (hset : o.setsExitCode = true → o.status = .completed)
    (hrow : o.status ≠ .completed → row.exitCode ≠ some 0) :
    Consistent (ormFlush loaded (o.record now { loaded with outputPath := some path }) row) := by
  have hst : (ormFlush loaded (o.record now { loaded with outputPath := some path }) row).status =
      o.status := by
    rw [ormFlush_status, Outcome.record_status]
    exact flushCol_written (by rw [hl.running]; exact o.status_ne_running)
  refine consistent_of_finished (by rw [hst]; exact o.status_finished) ?_ ?_
  · rw [ormFlush_finishedAt, Outcome.record_finishedAt, hl.finishedAt, flushCol_written (by simp)]
    simp
  · rw [hst, ormFlush_exitCode, Outcome.record_exitCode]
    by_cases hs : o.setsExitCode = true
    · rw [if_pos hs, flushCol_written (Ne.symm hl.exitCode)]
      exact ⟨fun _ => hset hs, fun _ => rfl⟩
    · rw [if_neg hs, flushCol_same rfl]
      have hne : o.status ≠ .completed := by
        cases o <;> simp_all [Outcome.setsExitCode, Outcome.status]
      exact ⟨fun e => absurd e (hrow hne), fun e => absurd e hne⟩

end Rows

/-- **One operation keeps the ledger consistent**, given the condition. -/
theorem ledgerOk_step {site : JobSite} {s s' : Ledger} {op : Op} (hI : LedgerOk s)
    (hcond : Timestamped site s op) (h : LedgerStep site s op s') : LedgerOk s' := by
  obtain rfl : s.step site op = s' := h
  cases op with
  | create now sub file size => exact ⟨consistent_createJob hI.rows, hI.held⟩
  | cancel k userId isAdmin =>
      exact ⟨commitDirty_consistent
        (dirtyOf_cancel hcond fun it hit => absurd hit List.not_mem_nil) hI.rows, hI.held⟩
  | bulkCancel ks =>
      exact ⟨commitDirty_consistent
        (dirtyOf_bulk hcond fun it hit => absurd hit List.not_mem_nil) hI.rows, hI.held⟩
  | sweep deviceId =>
      have e : s.step site (.sweep deviceId) = s := by
        simp only [Ledger.step, show orphans s.jobs deviceId = [] from hcond, sweepOrphans,
          List.foldl_nil]
      rw [e]
      exact hI
  | recover now deviceId => exact ⟨consistent_recover hcond hI.rows, hI.held⟩
  | claim now w =>
      simp only [Ledger.step]
      split
      · exact hI
      · obtain ⟨hrows, hheld⟩ := consistent_claim hcond hI.rows
        refine ⟨hrows, fun v loaded hv => ?_⟩
        by_cases hvw : v = w
        · subst hvw
          exact hheld loaded (by simpa using hv)
        · exact hI.held v loaded (by simpa [Function.update_of_ne hvw] using hv)
  | complete now w path o =>
      simp only [Ledger.step]
      split
      · exact hI
      · rename_i held hw
        obtain ⟨hset, hrow⟩ := hcond held hw
        refine ⟨fun row' hrow' => ?_, fun v loaded hv => ?_⟩
        · have hm : row' ∈ finalCommit held (o.record now { held with outputPath := some path })
              s.jobs := hrow'
          obtain ⟨row, hr, rfl⟩ := Table.mem_mapRows.mp hm
          by_cases hid : row.id = held.id
          · rw [Table.atKey_self hid]
            exact consistent_final (hI.held w held hw) hset fun hne => hrow hne row hr hid
          · rw [Table.atKey_other hid]
            exact hI.rows row hr
        · by_cases hvw : v = w
          · subst hvw
            simp at hv
          · exact hI.held v loaded (by simpa [Function.update_of_ne hvw] using hv)

/-- **A canceled job without a time of finishing**: its owner cancels the job while it is queued. -/
theorem canceled_without_finished_at : ∃ s,
    Run (LedgerStep smallSite) ⟨Table.empty, fun _ => none⟩
      [.create 0 smallSubmission "job-1/hello.hex" 64, .cancel 1 1 false] s ∧
    ∃ row ∈ s.jobs, row.status = .canceled ∧ ¬Consistent row := by
  have h : ((execAll (fun s op => some (Ledger.step smallSite s op)) ⟨Table.empty, fun _ => none⟩
      [.create 0 smallSubmission "job-1/hello.hex" 64, .cancel 1 1 false]).any fun s =>
        (s.jobs.get? 1).any fun row => decide (row.status = .canceled ∧ row.finishedAt = none)) =
      true := by decide
  obtain ⟨s, hr, hp⟩ := exists_run_of_execAll h
  obtain ⟨row, hrow, hc⟩ := (Option.any_eq_true _ _).mp hp
  obtain ⟨hst, hfin⟩ := of_decide_eq_true hc
  refine ⟨s, hr.mono fun _ _ _ e => Option.some.inj e, row, (Table.get?_eq_some.mp hrow).1, hst,
    fun hcons => hcons.finished (by rw [hst]; rfl) hfin⟩

/-- **EVERY ROW IS CONSISTENT IN EVERY RUN** of operations that meet the condition, from a table of
    consistent rows. -/
theorem consistent_run {site : JobSite} {s₀ s : Ledger} {ops : List Op}
    (h0 : ∀ row ∈ s₀.jobs, Consistent row) (hheld : ∀ w, s₀.held w = none)
    (h : Run (guarded (LedgerStep site) (Timestamped site)) s₀ ops s) :
    ∀ row ∈ s.jobs, Consistent row := by
  have hI : LedgerOk s := h.invariant
    ⟨h0, fun w loaded hw => by rw [hheld w] at hw; cases hw⟩
    fun _ _ _ hI hs => ledgerOk_step hI hs.1 hs.2
  exact hI.rows

/-- The operations of workers that claim where nothing is stale and complete, and of new jobs. -/
def claimsAndCompletes (s : Ledger) : Op → Bool
  | .create .. => true
  | .claim now w => (enabledDevice? smallSite.toSite w.deviceName).all fun d =>
      !cancelsStale now d.id s.jobs
  | .complete _ _ _ (.completed _) => true
  | _ => false

theorem timestamped_of {s : Ledger} {op : Op} (h : claimsAndCompletes s op = true) :
    Timestamped smallSite s op := by
  cases op with
  | create now sub file size => trivial
  | claim now w =>
      intro d hd
      simp only [claimsAndCompletes, hd, Option.all_some] at h
      simpa using h
  | complete now w path o =>
      cases o with
      | completed r => exact fun _ _ => ⟨fun _ => rfl, fun hne => absurd rfl hne⟩
      | _ => cases h
  | _ => cases h

/-- A job from its submission to its completion. -/
theorem consistent_run_small : ∃ s : Ledger,
    (s.jobs.get? 1).map Job.status = some .completed ∧ ∀ row ∈ s.jobs, Consistent row := by
  have h : ((execAll (execWhen claimsAndCompletes fun s op => some (Ledger.step smallSite s op))
      ⟨Table.empty, fun _ => none⟩ [.create 0 smallSubmission "job-1/hello.hex" 64,
        .claim 0 workerA, .complete (seconds 1) workerA "outputs/job-1/session.log"
          (.completed 1)]).any fun s =>
      decide ((s.jobs.get? 1).map Job.status = some .completed)) = true := by decide
  obtain ⟨s, hr, hp⟩ := exists_guarded_run (fun _ _ hok => timestamped_of hok) h
  have hr' := hr.mono fun s op s' hs =>
    (⟨hs.1, Option.some.inj hs.2⟩ : guarded (LedgerStep smallSite) (Timestamped smallSite) s op s')
  exact ⟨s, of_decide_eq_true hp,
    consistent_run (fun _ hrow => absurd hrow List.not_mem_nil) (fun _ => rfl) hr'⟩

end RetroBridge.Jobs
