/-
  File:      RetroBridge/Jobs/Recovery.lean
  Subject:   WHAT ONE RECOVERY COVERS (worker.py: `recover_stale_jobs`).

  * `recoveredRow` -- what recovery is for, row by row: a stale job is canceled if that was asked
    for, and queued again otherwise;
  * `Recovers` -- every row is so, none is new, and no stale job is left;
  * `recovery_iff` -- **one call does this exactly where the stale jobs are all of one kind**: where
    the first statement finds a row, the call returns before the second.
-/
import RetroBridge.Jobs.System

namespace RetroBridge.Jobs

open Relational

/-! ## 1. The property -/

/-- A row after recovery. -/
def recoveredRow (now : Time) (deviceId : Nat) (j : Job) : Job :=
  if stale now deviceId j then if j.cancelRequested then canceledByRecovery j else requeued j else j

/-- **A complete and exact recovery.** -/
structure Recovers (now : Time) (deviceId : Nat) (jobs jobs' : Table Job) : Prop where
  rows : ∀ j ∈ jobs, jobs'.get? j.id = some (recoveredRow now deviceId j)
  noneNew : ∀ k, jobs.get? k = none → jobs'.get? k = none
  noneStale : ∀ j ∈ jobs', stale now deviceId j = false

/-- The stale jobs are all of one kind: not one with a cancellation asked for and one without. -/
def oneKind (now : Time) (deviceId : Nat) (jobs : Table Job) : Bool :=
  !(jobs.rows.any (fun j => stale now deviceId j && j.cancelRequested) &&
    jobs.rows.any fun j => stale now deviceId j && !j.cancelRequested)

/-! ## 2. The statements -/

section Recovery

variable {now : Time} {deviceId : Nat} {jobs : Table Job}

theorem cancelsStale_iff : cancelsStale now deviceId jobs = true ↔
    ∃ j ∈ jobs, stale now deviceId j = true ∧ j.cancelRequested = true := by
  unfold cancelsStale Table.count
  rw [decide_eq_true_iff, List.countP_pos_iff]
  simp only [Bool.and_eq_true]
  rfl

theorem oneKind_iff : oneKind now deviceId jobs = true ↔
    ∀ j ∈ jobs, ∀ k ∈ jobs, stale now deviceId j = true → stale now deviceId k = true →
      j.cancelRequested = k.cancelRequested := by
  unfold oneKind
  rw [Bool.not_eq_true', Bool.and_eq_false_iff, List.any_eq_false, List.any_eq_false]
  constructor
  · rintro h j hj k hk hsj hsk
    cases hcj : j.cancelRequested <;> cases hck : k.cancelRequested
    · rfl
    · rcases h with h | h
      · exact absurd (by simp [hsk, hck]) (h k hk)
      · exact absurd (by simp [hsj, hcj]) (h j hj)
    · rcases h with h | h
      · exact absurd (by simp [hsj, hcj]) (h j hj)
      · exact absurd (by simp [hsk, hck]) (h k hk)
    · rfl
  · intro h
    by_contra hno
    rw [not_or] at hno
    push Not at hno
    obtain ⟨⟨j, hj, hcj⟩, ⟨k, hk, hck⟩⟩ := hno
    simp only [Bool.and_eq_true, Bool.not_eq_true'] at hcj hck
    have hsame := h j hj k hk hcj.1 hck.1
    rw [hcj.2, hck.2] at hsame
    cases hsame

/-- No row is stale after it was recovered. -/
theorem recoveredRow_fresh (j : Job) :
    stale now deviceId (recoveredRow now deviceId j) = false := by
  unfold recoveredRow
  cases hs : stale now deviceId j with
  | false =>
      rw [if_neg Bool.false_ne_true]
      exact hs
  | true =>
      rw [if_pos rfl]
      cases j.cancelRequested <;>
        simp [stale, Job.leaseExpired, canceledByRecovery, requeued, unclaimed]

/-- Where the stale jobs are of one kind, the statement that runs writes what recovery is for. -/
theorem recoverRow_eq (h : oneKind now deviceId jobs = true) {j : Job} (hj : j ∈ jobs) :
    recoverRow now deviceId (cancelsStale now deviceId jobs) j = recoveredRow now deviceId j := by
  unfold recoverRow recoveredRow
  cases hs : stale now deviceId j with
  | false => cases cancelsStale now deviceId jobs <;> rfl
  | true =>
      have hkind : cancelsStale now deviceId jobs = j.cancelRequested := by
        cases hc : j.cancelRequested with
        | true => exact cancelsStale_iff.mpr ⟨j, hj, hs, hc⟩
        | false =>
            refine Bool.eq_false_iff.mpr fun hcancels => ?_
            obtain ⟨k, hk, hsk, hck⟩ := cancelsStale_iff.mp hcancels
            rw [oneKind_iff.mp h j hj k hk hs hsk, hck] at hc
            cases hc
      rw [hkind]
      cases j.cancelRequested <;> rfl

theorem get?_recoverStaleJobs {j : Job} (hj : j ∈ jobs) :
    (recoverStaleJobs now deviceId jobs).get? j.id =
      some (recoverRow now deviceId (cancelsStale now deviceId jobs) j) := by
  have hget : jobs.get? j.id = some j := Table.get?_key hj
  unfold recoverStaleJobs
  rw [Table.get?_mapRows, hget]
  rfl

end Recovery

/-! ## 3. One call -/

/-- **One call of `recover_stale_jobs` is complete and exact exactly where the stale jobs of the
    device are all of one kind.** -/
theorem recovery_iff (now : Time) (deviceId : Nat) (jobs : Table Job) :
    Recovers now deviceId jobs (recoverStaleJobs now deviceId jobs) ↔
      oneKind now deviceId jobs = true := by
  constructor
  · intro h
    by_contra hkind
    have hmixed : (∃ j ∈ jobs, stale now deviceId j = true ∧ j.cancelRequested = true) ∧
        ∃ k ∈ jobs, stale now deviceId k = true ∧ k.cancelRequested = false := by
      simpa [oneKind, Table.mem_def] using hkind
    obtain ⟨⟨j, hj, hsj, hcj⟩, k, hk, hsk, hck⟩ := hmixed
    -- the first statement finds `j`, so the second is not run and `k` stays as it is
    have hcancels : cancelsStale now deviceId jobs = true := cancelsStale_iff.mpr ⟨j, hj, hsj, hcj⟩
    have hkept : recoverRow now deviceId (cancelsStale now deviceId jobs) k = k := by
      simp [recoverRow, hcancels, hck]
    have hrow : (recoverStaleJobs now deviceId jobs).get? k.id = some k := by
      rw [get?_recoverStaleJobs hk, hkept]
    have hstale := h.noneStale k (Table.get?_eq_some.mp hrow).1
    rw [hsk] at hstale
    cases hstale
  · intro hkind
    refine ⟨fun j hj => ?_, fun k hk => ?_, fun j' hj' => ?_⟩
    · rw [get?_recoverStaleJobs hj, recoverRow_eq hkind hj]
    · unfold recoverStaleJobs
      rw [Table.get?_mapRows, hk]
      rfl
    · obtain ⟨j, hj, rfl⟩ := Table.mem_mapRows.mp hj'
      rw [recoverRow_eq hkind hj]
      exact recoveredRow_fresh j

/-- A job of device 1 that runs on a lease that ends at 300 s. -/
def claimedJob (id : Nat) (cancelRequested : Bool) : Job :=
  { newJob smallSubmission 0 id "upload" 64 with
    status := .running
    portId := some 1
    leaseExpiresAt := some (seconds 300)
    cancelRequested := cancelRequested }

/-- One of two stale jobs was to be canceled. -/
def mixedJobs : Table Job := (Table.empty.insert (claimedJob 1 true)).insert (claimedJob 2 false)

/-- **Two stale jobs of different kinds**: the other one still runs on its expired lease. -/
theorem mixed_not_recovered : ¬Recovers (seconds 301) 1 mixedJobs
    (recoverStaleJobs (seconds 301) 1 mixedJobs) := by
  intro h
  have hleft : ((recoverStaleJobs (seconds 301) 1 mixedJobs).rows.any
      fun j => stale (seconds 301) 1 j) = true := by decide
  obtain ⟨j, hj, hs⟩ := List.any_eq_true.mp hleft
  rw [h.noneStale j hj] at hs
  cases hs

end RetroBridge.Jobs
