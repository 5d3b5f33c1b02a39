/-
  File:      RetroBridge/Jobs/Claim.lean
  Subject:   CLAIM, RECOVERY AND HEARTBEAT (worker.py: `claim_job`, `recover_stale_jobs`,
             `_send_heartbeat`), as UPDATE statements on the job table.

  Each statement is a row transformer that keeps ids, so that a transaction is one `mapRows`:

  * `recoverRow`, `recoverStaleJobs` -- expired leases: canceled where a cancellation was asked
    for, and only if there is none of these, queued again;
  * `claimRow`, `isNext`, `hasSlot` -- one port's claim: the next queued job of the device, if
    the port has a free slot by the count in the same statement;
  * `claimPorts`, `claimJob` -- the loop over the device's ports and the whole call;
  * `beatRow` -- the heartbeat, by job id alone.
-/
import RetroBridge.Jobs.Model

namespace RetroBridge.Jobs

open Relational

/-! ## 1. Workers -/

/-- A worker process: `python worker.py --device deviceName`. -/
structure Worker where
  hostname : String
  pid : Nat
  deviceName : String
  deriving DecidableEq

/-- `_worker_id(device_name)`. -/
def workerId (w : Worker) : String := w.hostname ++ ":" ++ toString w.pid ++ ":" ++ w.deviceName

/-! ## 2. recover_stale_jobs -/

/-- The WHERE of both recovery statements: running on this device on an expired lease. -/
def stale (now : Time) (deviceId : Nat) (j : Job) : Bool :=
  j.deviceId == deviceId && j.leaseExpired now

theorem stale_iff {now : Time} {deviceId : Nat} {j : Job} :
    stale now deviceId j = true ↔ j.deviceId = deviceId ∧ j.leaseExpired now = true := by
  simp [stale]

/-- The claim columns of a row that no worker holds. -/
def unclaimed (j : Job) : Job :=
  { j with portId := none, startedAt := none, workerPid := none, claimedBy := none,
           claimedAt := none, leaseExpiresAt := none, heartbeatAt := none }

/-- The first statement's values. -/
def canceledByRecovery (j : Job) : Job :=
  { unclaimed j with status := .canceled, errorMessage := some "Canceled during stale recovery" }

/-- The second statement's values. -/
def requeued (j : Job) : Job := { unclaimed j with status := .queued }

/-- Some stale job of the device has a cancellation asked for. -/
def cancelsStale (now : Time) (deviceId : Nat) (jobs : Table Job) : Bool :=
  0 < jobs.count fun j => stale now deviceId j && j.cancelRequested

/-- What recovery writes of one row; `cancels` is `cancelsStale`. Where the first statement finds
    a row, the call returns and the second is not run. -/
def recoverRow (now : Time) (deviceId : Nat) (cancels : Bool) (j : Job) : Job :=
  if cancels then
    if stale now deviceId j && j.cancelRequested then canceledByRecovery j else j
  else
    if stale now deviceId j then requeued j else j

theorem recoverRow_id (now : Time) (deviceId : Nat) (cancels : Bool) (j : Job) :
    (recoverRow now deviceId cancels j).id = j.id := by
  unfold recoverRow
  split <;> split <;> rfl

/-- **`recover_stale_jobs`**: both statements run in one write transaction. -/
def recoverStaleJobs (now : Time) (deviceId : Nat) (jobs : Table Job) : Table Job :=
  jobs.mapRows (recoverRow now deviceId (cancelsStale now deviceId jobs))
    (recoverRow_id now deviceId _)

/-- **What recovery can do to a row**: nothing, or its lease was expired and it is canceled with
    its cancellation asked for, or its lease was expired and it is queued again. -/
theorem recoverRow_cases (now : Time) (deviceId : Nat) (cancels : Bool) (j : Job) :
    recoverRow now deviceId cancels j = j ∨
      (stale now deviceId j = true ∧ j.cancelRequested = true ∧ cancels = true ∧
        recoverRow now deviceId cancels j = canceledByRecovery j) ∨
      (stale now deviceId j = true ∧ cancels = false ∧
        recoverRow now deviceId cancels j = requeued j) := by
  unfold recoverRow
  by_cases hc : cancels = true
  · rw [if_pos hc]
    split
    · rename_i h
      simp only [Bool.and_eq_true] at h
      exact Or.inr (Or.inl ⟨h.1, h.2, hc, rfl⟩)
    · exact Or.inl rfl
  · rw [if_neg hc]
    split
    · rename_i h
      exact Or.inr (Or.inr ⟨h, by simpa using hc, rfl⟩)
    · exact Or.inl rfl

/-! ## 3. claim_job -/

/-- The jobs the claim chooses from. -/
def candidate (deviceId : Nat) (j : Job) : Bool :=
  j.deviceId == deviceId && j.status == .queued && !j.cancelRequested

theorem candidate_iff {deviceId : Nat} {j : Job} :
    candidate deviceId j = true ↔
      j.deviceId = deviceId ∧ j.status = .queued ∧ j.cancelRequested = false := by
  simp [candidate, and_assoc]

/-- `ORDER BY priority DESC, created_at ASC`: `j` strictly before `k`. -/
def ordersBefore (j k : Job) : Bool :=
  decide (k.priority < j.priority) ||
    (j.priority == k.priority && decide (j.createdAt < k.createdAt))

/-- `j` may be the row `LIMIT 1` picks: a candidate with none strictly before it. Which of several
    it is, SQL leaves open. -/
def isNext (jobs : Table Job) (deviceId : Nat) (j : Job) : Bool :=
  candidate deviceId j && jobs.rows.all fun k => !(candidate deviceId k && ordersBefore k j)

/-- The guard of the claim: fewer running jobs on the port than `max_concurrent_jobs`; never on a
    port where that is NULL. -/
def hasSlot (jobs : Table Job) (port : DevicePort) : Bool :=
  match port.maxConcurrentJobs with
  | some m => decide ((jobs.count (Job.occupies port.id) : Int) < m)
  | none => false

theorem hasSlot_iff {jobs : Table Job} {port : DevicePort} :
    hasSlot jobs port = true ↔
      ∃ m, port.maxConcurrentJobs = some m ∧ (jobs.count (Job.occupies port.id) : Int) < m := by
  unfold hasSlot
  cases port.maxConcurrentJobs <;> simp

/-- The values of the claim. -/
def claimed (now : Time) (w : Worker) (port : DevicePort) (j : Job) : Job :=
  { j with
    status := .running
    portId := some port.id
    startedAt := some now
    workerPid := some w.pid
    claimedBy := some (workerId w)
    claimedAt := some now
    leaseExpiresAt := some (now + seconds jobLeaseSeconds)
    heartbeatAt := some now }

/-- What the claim of job `k` writes of one row. -/
def claimRow (now : Time) (w : Worker) (port : DevicePort) (k : Nat) : Job → Job :=
  Table.atKey k (claimed now w port)

theorem claimRow_id (now : Time) (w : Worker) (port : DevicePort) (k : Nat) (j : Job) :
    (claimRow now w port k j).id = j.id := Table.atKey_key (claimed now w port) (fun _ => rfl) j

/-- The table after the claim of job `k`. -/
def claimRows (now : Time) (w : Worker) (port : DevicePort) (k : Nat) (jobs : Table Job) :
    Table Job := jobs.mapRows (claimRow now w port k) (claimRow_id now w port k)

/-- The loop over the device's ports: the first with a slot takes the next job. Of several jobs
    that may be next, the first in table order. On a port whose `max_concurrent_jobs` is NULL the
    claim ends: SQLAlchemy refuses to compare with None by `<` (`ArgumentError`), and the handler
    rolls back and returns None. -/
def claimPorts (now : Time) (w : Worker) (deviceId : Nat) :
    List DevicePort → Table Job → Table Job × Option Job
  | [], jobs => (jobs, none)
  | p :: ps, jobs =>
    if p.maxConcurrentJobs.isNone then (jobs, none)
    else
      match (if hasSlot jobs p then jobs.rows.find? (isNext jobs deviceId) else none) with
      | some j => (claimRows now w p j.id jobs, some (claimed now w p j))
      | none => claimPorts now w deviceId ps jobs

/-- **`claim_job`**, undisturbed: recovery, then the ports. -/
def claimJob (site : Site) (now : Time) (w : Worker) (jobs : Table Job) : Table Job × Option Job :=
  match enabledDevice? site w.deviceName with
  | none => (jobs, none)
  | some d =>
    claimPorts now w d.id (enabledPorts site d.id .jobQueue) (recoverStaleJobs now d.id jobs)

/-- **What the port loop can do**: nothing, or claim one candidate on one port with a slot. -/
theorem claimPorts_cases (now : Time) (w : Worker) (deviceId : Nat) (jobs : Table Job) :
    ∀ ports : List DevicePort,
      claimPorts now w deviceId ports jobs = (jobs, none) ∨
      ∃ p ∈ ports, ∃ j ∈ jobs, hasSlot jobs p = true ∧ isNext jobs deviceId j = true ∧
        claimPorts now w deviceId ports jobs =
          (claimRows now w p j.id jobs, some (claimed now w p j))
  | [] => Or.inl rfl
  | p :: ps => by
      unfold claimPorts
      split
      · exact Or.inl rfl
      · split
        · rename_i j hj
          split at hj
          · rename_i hs
            exact Or.inr ⟨p, List.mem_cons_self, j, List.mem_of_find?_eq_some hj, hs,
              List.find?_some hj, rfl⟩
          · cases hj
        · rcases claimPorts_cases now w deviceId jobs ps with h | ⟨q, hq, h⟩
          · exact Or.inl h
          · exact Or.inr ⟨q, List.mem_cons_of_mem _ hq, h⟩

theorem candidate_of_isNext {jobs : Table Job} {deviceId : Nat} {j : Job}
    (h : isNext jobs deviceId j = true) : candidate deviceId j = true := by
  unfold isNext at h
  exact (Bool.and_eq_true_iff.mp h).1

/-! ## 4. _send_heartbeat -/

/-- The values of a heartbeat. -/
def beat (now : Time) (j : Job) : Job :=
  { j with heartbeatAt := some now, leaseExpiresAt := some (now + seconds jobLeaseSeconds) }

/-- What a heartbeat for job `k` writes of one row: by id, whoever holds the claim. -/
def beatRow (now : Time) (k : Nat) : Job → Job := Table.atKey k (beat now)

theorem beatRow_key (now : Time) (k : Nat) (j : Job) : (beatRow now k j).id = j.id :=
  Table.atKey_key (beat now) (fun _ => rfl) j

end RetroBridge.Jobs
