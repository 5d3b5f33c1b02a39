/-
  File:      RetroBridge/Jobs/Model.lean
  Subject:   THE JOB ROW and what a unit of work writes of it (models.py, worker.py).

  * `Job`, `JobStatus` -- the row of `jobs` with the columns that the queue, the workers and the
    job pages read or write;
  * `ormFlush` -- the UPDATE of a session commit: a column is written only where the object
    differs from the row AS LOADED, and it is written whatever the row holds by then. Every
    read-modify-write of the queue (cancel, bulk cancel, the orphan sweep, the worker's final
    commit) is one `ormFlush`; a write that goes by an UPDATE statement (claim, recovery,
    heartbeat) is not;
  * `leaseExpired`, `occupies`, `pending` -- the predicates the statements select by.
-/
import RetroBridge.Models

namespace RetroBridge.Jobs

open Relational

/-! ## 1. Rows -/

/-- `Job.status`, with the values of `ck_jobs_status`. -/
inductive JobStatus where
  | queued
  | running
  | completed
  | failed
  | canceled
  deriving DecidableEq, Repr

/-- The states `cancel_job` calls finished. -/
def JobStatus.finished : JobStatus → Bool
  | .completed | .failed | .canceled => true
  | .queued | .running => false

@[simp] theorem JobStatus.finished_queued : JobStatus.queued.finished = false := rfl
@[simp] theorem JobStatus.finished_running : JobStatus.running.finished = false := rfl

theorem JobStatus.finished_iff {st : JobStatus} :
    st.finished = true ↔ st = .completed ∨ st = .failed ∨ st = .canceled := by
  cases st <;> simp [finished]

/-- A row of `jobs`. -/
structure Job where
  id : Nat
  userId : Nat
  deviceId : Nat
  portId : Option Nat
  originalFilename : String
  storedFilename : Option String
  status : JobStatus
  priority : Int
  fileSizeBytes : Option Nat
  createdAt : Time
  startedAt : Option Time
  finishedAt : Option Time
  runtimeSeconds : Option Int
  exitCode : Option Int
  outputPath : Option String
  errorMessage : Option String
  workerPid : Option Nat
  claimedBy : Option String
  claimedAt : Option Time
  leaseExpiresAt : Option Time
  heartbeatAt : Option Time
  overrideNewlineMode : Option String
  overridePreTransferCmds : Option String
  overridePostTransferCmds : Option String
  cancelRequested : Bool
  deriving DecidableEq

instance : Keyed Job := ⟨Job.id⟩

@[simp] theorem key_job (j : Job) : key j = j.id := rfl

/-! ## 2. What the statements select by -/

/-- `JOB_LEASE_SECONDS`. -/
def jobLeaseSeconds : Int := 300

/-- `JOB_HEARTBEAT_INTERVAL`. -/
def jobHeartbeatInterval : Int := 30

/-- Running on a lease that ended before `now` (a NULL lease never does). -/
def Job.leaseExpired (j : Job) (now : Time) : Bool :=
  j.status == .running && match j.leaseExpiresAt with
    | some t => decide (t < now)
    | none => false

theorem Job.running_of_leaseExpired {j : Job} {now : Time} (h : j.leaseExpired now = true) :
    j.status = .running := by
  simp only [leaseExpired, Bool.and_eq_true, beq_iff_eq] at h
  exact h.1

/-- The job holds a slot of port `p`: `port_id = p AND status = 'running'`. -/
def Job.occupies (p : Nat) (j : Job) : Bool := j.portId == some p && j.status == .running

theorem Job.occupies_iff {p : Nat} {j : Job} :
    j.occupies p = true ↔ j.portId = some p ∧ j.status = .running := by
  simp [occupies]

/-- The job counts against its owner's quota: queued or running. -/
def Job.pending (u : Nat) (j : Job) : Bool :=
  j.userId == u && (j.status == .queued || j.status == .running)

theorem Job.pending_iff {u : Nat} {j : Job} :
    j.pending u = true ↔ j.userId = u ∧ j.status.finished = false := by
  cases h : j.status <;> simp [pending, JobStatus.finished, h]

/-! ## 3. The unit of work -/

section Flush

variable {α : Type} [DecidableEq α]

/-- One column of a flush: written only where the object differs from the row as loaded. -/
def flushCol (loaded obj row : α) : α := if obj = loaded then row else obj

theorem flushCol_same {loaded obj row : α} (h : obj = loaded) : flushCol loaded obj row = row :=
  if_pos h

theorem flushCol_written {loaded obj row : α} (h : obj ≠ loaded) :
    flushCol loaded obj row = obj := if_neg h

end Flush

/-- **`session.commit()` on one dirty object**, over the columns any object of the queue assigns:
    `row` is the row at commit time, `loaded` the row the object was loaded from. -/
def ormFlush (loaded obj row : Job) : Job :=
  { row with
    status := flushCol loaded.status obj.status row.status
    finishedAt := flushCol loaded.finishedAt obj.finishedAt row.finishedAt
    runtimeSeconds := flushCol loaded.runtimeSeconds obj.runtimeSeconds row.runtimeSeconds
    exitCode := flushCol loaded.exitCode obj.exitCode row.exitCode
    outputPath := flushCol loaded.outputPath obj.outputPath row.outputPath
    errorMessage := flushCol loaded.errorMessage obj.errorMessage row.errorMessage
    cancelRequested := flushCol loaded.cancelRequested obj.cancelRequested row.cancelRequested }

section OrmFlush

variable (loaded obj row : Job)

@[simp] theorem ormFlush_id : (ormFlush loaded obj row).id = row.id := rfl
@[simp] theorem ormFlush_userId : (ormFlush loaded obj row).userId = row.userId := rfl
@[simp] theorem ormFlush_deviceId : (ormFlush loaded obj row).deviceId = row.deviceId := rfl
@[simp] theorem ormFlush_portId : (ormFlush loaded obj row).portId = row.portId := rfl
@[simp] theorem ormFlush_createdAt : (ormFlush loaded obj row).createdAt = row.createdAt := rfl
@[simp] theorem ormFlush_startedAt : (ormFlush loaded obj row).startedAt = row.startedAt := rfl
@[simp] theorem ormFlush_claimedBy : (ormFlush loaded obj row).claimedBy = row.claimedBy := rfl
@[simp] theorem ormFlush_claimedAt : (ormFlush loaded obj row).claimedAt = row.claimedAt := rfl
@[simp] theorem ormFlush_workerPid : (ormFlush loaded obj row).workerPid = row.workerPid := rfl
@[simp] theorem ormFlush_heartbeatAt :
    (ormFlush loaded obj row).heartbeatAt = row.heartbeatAt := rfl
@[simp] theorem ormFlush_leaseExpiresAt :
    (ormFlush loaded obj row).leaseExpiresAt = row.leaseExpiresAt := rfl
@[simp] theorem ormFlush_status :
    (ormFlush loaded obj row).status = flushCol loaded.status obj.status row.status := rfl
@[simp] theorem ormFlush_finishedAt :
    (ormFlush loaded obj row).finishedAt =
      flushCol loaded.finishedAt obj.finishedAt row.finishedAt := rfl
@[simp] theorem ormFlush_exitCode :
    (ormFlush loaded obj row).exitCode = flushCol loaded.exitCode obj.exitCode row.exitCode := rfl
@[simp] theorem ormFlush_cancelRequested :
    (ormFlush loaded obj row).cancelRequested =
      flushCol loaded.cancelRequested obj.cancelRequested row.cancelRequested := rfl

end OrmFlush

end RetroBridge.Jobs
