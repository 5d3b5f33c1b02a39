/-
  File:      RetroBridge/Jobs/Submit.lean
  Subject:   SUBMITTING AND CANCELING (retrobridge/jobs/utils.py: `get_user_quota`,
             `check_rate_limit`, `create_job`, `cancel_job`; retrobridge/admin/routes.py:
             `bulk_cancel_jobs`; worker.py: the orphaned-cancel sweep of `worker_loop`).

  * `getUserQuota`, `checkRateLimit` -- the two checks `create_job` makes under the write lock;
  * `newJob` -- the row it adds;
  * `cancelJob`, `bulkCancelOne` -- what the two cancel paths make of the object they read:
    `bulkCancelOne_eq`, they agree for an administrator;
  * `cancelRow`, `sweepRow` -- what their commits write of one row (`ormFlush`).
-/
import RetroBridge.Jobs.Claim

namespace RetroBridge.Jobs

open Relational

/-! ## 1. Quota and rate limit -/

/-- The effective limit of a user's queued and running jobs. -/
def jobLimit (site : Site) (user : User) : Int :=
  raisedLimit site user Prod.fst user.maxQueuedJobs

/-- `get_user_quota`: the count, the limit, and whether it is reached. -/
def getUserQuota (site : Site) (jobs : Table Job) (user : User) : Nat × Int × Bool :=
  let queuedRunning := jobs.count (Job.pending user.id)
  (queuedRunning, jobLimit site user, decide (jobLimit site user ≤ queuedRunning))

/-- `MAX_JOBS_PER_HOUR`. -/
def maxJobsPerHour (site : Site) : Int := getInt site "MAX_JOBS_PER_HOUR"

/-- `timedelta(hours=1)`. -/
def hour : Time := seconds 3600

/-- A job of user `u` created at or after `since`. -/
def Job.createdSince (u : Nat) (since : Time) (j : Job) : Bool :=
  j.userId == u && decide (since ≤ j.createdAt)

theorem Job.createdSince_mono {u : Nat} {since since' : Time} {j : Job} (h : since ≤ since')
    (hj : j.createdSince u since' = true) : j.createdSince u since = true := by
  simp only [createdSince, Bool.and_eq_true, beq_iff_eq, decide_eq_true_eq] at hj ⊢
  exact ⟨hj.1, le_trans h hj.2⟩

/-- `check_rate_limit`: whether the hour is full, and the limit. -/
def checkRateLimit (site : Site) (now : Time) (jobs : Table Job) (userId : Nat) : Bool × Int :=
  if maxJobsPerHour site ≤ 0 then (false, 0)
  else
    let recentCount := jobs.count (Job.createdSince userId (now - hour))
    (decide (maxJobsPerHour site ≤ recentCount), maxJobsPerHour site)

theorem checkRateLimit_false {site : Site} {now : Time} {jobs : Table Job} {userId : Nat}
    (h : (checkRateLimit site now jobs userId).1 = false) (hpos : 0 < maxJobsPerHour site) :
    (jobs.count (Job.createdSince userId (now - hour)) : Int) < maxJobsPerHour site := by
  unfold checkRateLimit at h
  rw [if_neg (by omega)] at h
  simpa using h

/-! ## 2. create_job -/

/-- The arguments of `create_job` that reach the row. -/
structure Submission where
  userId : Nat
  deviceId : Nat
  safeName : String
  priority : Int
  newlineMode : Option String
  preTransferCmds : Option String
  postTransferCmds : Option String

/-- The row `create_job` flushes; the file's path and size follow before the commit. -/
def newJob (sub : Submission) (now : Time) (id : Nat) (storedFilename : String) (size : Nat) :
    Job where
  id := id
  userId := sub.userId
  deviceId := sub.deviceId
  portId := none
  originalFilename := sub.safeName
  storedFilename := some storedFilename
  status := .queued
  priority := sub.priority
  fileSizeBytes := some size
  createdAt := now
  startedAt := none
  finishedAt := none
  runtimeSeconds := none
  exitCode := none
  outputPath := none
  errorMessage := none
  workerPid := none
  claimedBy := none
  claimedAt := none
  leaseExpiresAt := none
  heartbeatAt := none
  overrideNewlineMode := sub.newlineMode
  overridePreTransferCmds := sub.preTransferCmds
  overridePostTransferCmds := sub.postTransferCmds
  cancelRequested := false

/-! ## 3. cancel_job and bulk_cancel_jobs -/

/-- What a cancel makes of an unfinished job with no cancellation asked for. -/
def withCancel (j : Job) : Job :=
  if j.status = .queued then { j with cancelRequested := true, status := .canceled }
  else { j with cancelRequested := true }

/-- **`cancel_job`** on the row it read: the object to commit if any, the success flag and the
    message. -/
def cancelJob (job : Option Job) (userId : Nat) (isAdmin : Bool) : Option Job × Bool × String :=
  match job with
  | none => (none, false, "Job not found")
  | some j =>
    if j.userId ≠ userId ∧ isAdmin = false then (none, false, "Not authorized")
    else if j.status.finished then (none, false, "Job already finished")
    else if j.cancelRequested then (none, false, "Cancellation already requested")
    else if j.status = .queued then (some (withCancel j), true, "Job canceled")
    else if j.status = .running ∧ isAdmin = true then
      (some (withCancel j), true, "Cancellation requested — worker will stop shortly")
    else (none, false, "Cannot cancel a running job")

/-- One turn of the loop of `bulk_cancel_jobs`. -/
def bulkCancelOne (job : Option Job) : Option Job :=
  match job with
  | none => none
  | some j =>
    if j.status.finished then none
    else if j.cancelRequested then none
    else if j.status = .queued then some (withCancel j)
    else if j.status = .running then some (withCancel j)
    else none

/-- **The bulk loop treats a row as `cancel_job` does for an administrator.** -/
theorem bulkCancelOne_eq (job : Option Job) (userId : Nat) :
    bulkCancelOne job = (cancelJob job userId true).1 := by
  cases job with
  | none => rfl
  | some j =>
      simp only [bulkCancelOne, cancelJob, Bool.true_eq_false, and_false, if_false, and_true]
      split
      · rfl
      split
      · rfl
      split
      · rfl
      split <;> rfl

/-- **What a cancel commits**: an unfinished row, no cancellation asked for yet, to which the
    request is added, and the status only if it was queued. -/
theorem cancelJob_some {job : Option Job} {userId : Nat} {isAdmin : Bool} {obj : Job}
    (h : (cancelJob job userId isAdmin).1 = some obj) :
    ∃ j, job = some j ∧ obj = withCancel j ∧ j.cancelRequested = false ∧
      j.status.finished = false := by
  cases job with
  | none => cases h
  | some j =>
      refine ⟨j, rfl, ?_⟩
      simp only [cancelJob] at h
      split at h
      · cases h
      split at h
      · cases h
      rename_i hf
      split at h
      · cases h
      rename_i hc
      have hf' : j.status.finished = false := by simpa using hf
      have hc' : j.cancelRequested = false := by simpa using hc
      split at h
      · cases h
        exact ⟨rfl, hc', hf'⟩
      split at h
      · cases h
        exact ⟨rfl, hc', hf'⟩
      · cases h

section WithCancel

variable {j : Job}

@[simp] theorem withCancel_id : (withCancel j).id = j.id := by
  unfold withCancel
  split <;> rfl

@[simp] theorem withCancel_cancelRequested : (withCancel j).cancelRequested = true := by
  unfold withCancel
  split <;> rfl

theorem withCancel_status :
    (withCancel j).status = if j.status = .queued then .canceled else j.status := by
  unfold withCancel
  split <;> rfl

@[simp] theorem withCancel_finishedAt : (withCancel j).finishedAt = j.finishedAt := by
  unfold withCancel
  split <;> rfl

@[simp] theorem withCancel_exitCode : (withCancel j).exitCode = j.exitCode := by
  unfold withCancel
  split <;> rfl

end WithCancel

/-- **What committing a cancel writes of the row there is by then**: the request always, the
    status canceled if the row was queued when it was READ. -/
theorem ormFlush_withCancel {loaded row : Job} (h : loaded.cancelRequested = false) :
    (ormFlush loaded (withCancel loaded) row).cancelRequested = true ∧
    (ormFlush loaded (withCancel loaded) row).status =
      (if loaded.status = .queued then .canceled else row.status) ∧
    (ormFlush loaded (withCancel loaded) row).finishedAt = row.finishedAt ∧
    (ormFlush loaded (withCancel loaded) row).exitCode = row.exitCode := by
  refine ⟨?_, ?_, flushCol_same withCancel_finishedAt, flushCol_same withCancel_exitCode⟩
  · rw [ormFlush_cancelRequested, withCancel_cancelRequested, h]
    rfl
  · rw [ormFlush_status, withCancel_status]
    split
    · rename_i hq
      rw [hq]
      rfl
    · exact flushCol_same rfl

/-- The rows one request has read and changed, each with its object: the session holds one object
    a row. -/
abbrev Dirty := List (Job × Job)

/-- What the commit of a request writes of one row. -/
def cancelRow (dirty : Dirty) (j : Job) : Job :=
  match dirty.find? fun it => it.1.id == j.id with
  | some it => ormFlush it.1 it.2 j
  | none => j

theorem cancelRow_id (dirty : Dirty) (j : Job) : (cancelRow dirty j).id = j.id := by
  unfold cancelRow
  split <;> rfl

theorem cancelRow_cases (dirty : Dirty) (j : Job) :
    cancelRow dirty j = j ∨
      ∃ it ∈ dirty, it.1.id = j.id ∧ cancelRow dirty j = ormFlush it.1 it.2 j := by
  unfold cancelRow
  split
  · rename_i it hit
    exact Or.inr ⟨it, List.mem_of_find?_eq_some hit, by simpa using List.find?_some hit, rfl⟩
  · exact Or.inl rfl

/-! ## 4. The orphaned-cancel sweep -/

/-- The rows the sweep reads: queued on this device with a cancellation asked for. -/
def orphans (jobs : Table Job) (deviceId : Nat) : List Job :=
  jobs.rows.filter fun j => j.deviceId == deviceId && j.status == .queued && j.cancelRequested

theorem mem_orphans {jobs : Table Job} {deviceId : Nat} {j : Job} :
    j ∈ orphans jobs deviceId ↔
      j ∈ jobs ∧ j.deviceId = deviceId ∧ j.status = .queued ∧ j.cancelRequested = true := by
  simp [orphans, Table.mem_def, and_assoc]

/-- What the sweep's commit for one orphan writes of one row. -/
def sweepRow (oj : Job) : Job → Job :=
  Table.atKey oj.id (ormFlush oj { oj with status := .canceled })

theorem sweepRow_id (oj j : Job) : (sweepRow oj j).id = j.id :=
  Table.atKey_key (ormFlush oj { oj with status := .canceled }) (fun _ => rfl) j

/-- The sweep writes the status canceled and nothing else. -/
theorem ormFlush_sweep {oj row : Job} (h : oj.status = .queued) :
    ormFlush oj { oj with status := .canceled } row = { row with status := .canceled } := by
  simp only [ormFlush, flushCol_same, h]
  rfl

end RetroBridge.Jobs
