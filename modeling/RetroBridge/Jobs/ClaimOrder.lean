/-
  File:      RetroBridge/Jobs/ClaimOrder.lean
  Subject:   WHICH JOB ONE CLAIM TAKES (worker.py: `claim_job`).

  * `claimKey` -- priority descending, then `created_at` ascending, as a linear order;
    `exists_isNext`: where there is a candidate, there is one with none before it;
  * `ClaimsNext` -- what a claim is for: the next candidate on a port with a slot, if there are
    both, every other row as recovery left it, and nothing otherwise;
  * `reachesSlot` -- no port whose limit is NULL stands before the first port with a slot;
  * `claim_iff` -- **a claim does what it is for exactly where it has nothing to take or reaches a
    slot.**
-/
import Mathlib.Data.Prod.Lex
import Mathlib.Data.Finset.Max
import RetroBridge.Jobs.System

namespace RetroBridge.Jobs

open Relational

/-! ## 1. The order of the queue -/

/-- `ORDER BY priority DESC, created_at ASC`. -/
def claimKey (j : Job) : Int ×ₗ Int := toLex (-j.priority, j.createdAt)

theorem ordersBefore_iff {j k : Job} : ordersBefore j k = true ↔ claimKey j < claimKey k := by
  unfold ordersBefore claimKey
  rw [Prod.Lex.toLex_lt_toLex]
  simp only [Bool.or_eq_true, Bool.and_eq_true, decide_eq_true_eq, beq_iff_eq]
  constructor
  · rintro (h | ⟨he, hc⟩)
    · exact Or.inl (by omega)
    · exact Or.inr ⟨by omega, hc⟩
  · rintro (h | ⟨he, hc⟩)
    · exact Or.inl (by omega)
    · exact Or.inr ⟨by omega, hc⟩

theorem isNext_iff {jobs : Table Job} {deviceId : Nat} {j : Job} :
    isNext jobs deviceId j = true ↔ candidate deviceId j = true ∧
      ∀ k ∈ jobs, candidate deviceId k = true → claimKey j ≤ claimKey k := by
  unfold isNext
  rw [Bool.and_eq_true, List.all_eq_true]
  refine and_congr_right fun _ => forall₂_congr fun k _ => ?_
  rw [Bool.not_eq_true', Bool.and_eq_false_iff]
  constructor
  · rintro h hk
    refine not_lt.mp fun hlt => ?_
    rcases h with h | h
    · rw [hk] at h
      cases h
    · rw [ordersBefore_iff.mpr hlt] at h
      cases h
  · intro h
    cases hk : candidate deviceId k with
    | false => exact Or.inl rfl
    | true =>
        refine Or.inr (Bool.eq_false_iff.mpr fun hb => ?_)
        exact not_lt.mpr (h hk) (ordersBefore_iff.mp hb)

/-- **Where there is a candidate, there is a next one.** -/
theorem exists_isNext {jobs : Table Job} {deviceId : Nat} {j : Job} (hj : j ∈ jobs)
    (hc : candidate deviceId j = true) : ∃ k ∈ jobs, isNext jobs deviceId k = true := by
  have hne : ((jobs.rows.filter (candidate deviceId)).toFinset).Nonempty :=
    ⟨j, List.mem_toFinset.mpr (List.mem_filter.mpr ⟨hj, hc⟩)⟩
  obtain ⟨k, hk, hmin⟩ := Finset.exists_min_image _ claimKey hne
  obtain ⟨hmem, hck⟩ := List.mem_filter.mp (List.mem_toFinset.mp hk)
  refine ⟨k, hmem, isNext_iff.mpr ⟨hck, fun l hl hcl => ?_⟩⟩
  exact hmin l (List.mem_toFinset.mpr (List.mem_filter.mpr ⟨hl, hcl⟩))

/-! ## 2. The property -/

/-- Some port has a slot, and some job is a candidate. -/
def Claimable (deviceId : Nat) (ports : List DevicePort) (jobs : Table Job) : Prop :=
  (∃ p ∈ ports, hasSlot jobs p = true) ∧ ∃ j ∈ jobs, candidate deviceId j = true

/-- **What a claim is for**: from the rows as recovery leaves them, a job with none before it, on a
    port with a slot, every other row as it was; nothing where there is no such job or port. -/
def ClaimsNext (now : Time) (w : Worker) (deviceId : Nat) (ports : List DevicePort)
    (jobs : Table Job) (result : Table Job × Option Job) : Prop :=
  (Claimable deviceId ports jobs → ∃ p ∈ ports, ∃ j ∈ jobs, hasSlot jobs p = true ∧
    isNext jobs deviceId j = true ∧
      result = (claimRows now w p j.id jobs, some (claimed now w p j))) ∧
  (¬Claimable deviceId ports jobs → result = (jobs, none))

/-- The first port that has a slot or a NULL limit has a slot, if there is one. -/
def reachesSlot (ports : List DevicePort) (jobs : Table Job) : Bool :=
  (ports.find? fun p => hasSlot jobs p || p.maxConcurrentJobs.isNone).all (hasSlot jobs)

/-! ## 3. The loop over the ports -/

section Ports

variable {now : Time} {w : Worker} {deviceId : Nat} {ports : List DevicePort} {jobs : Table Job}

/-- A port whose limit is NULL has no slot. -/
theorem limit_of_hasSlot {p : DevicePort} (h : hasSlot jobs p = true) :
    p.maxConcurrentJobs.isNone = false := by
  obtain ⟨m, hm, -⟩ := hasSlot_iff.mp h
  rw [hm]
  rfl

/-- **The loop claims** where a job can be claimed and the first port that decides has a slot. -/
theorem claimPorts_claims (hreach : reachesSlot ports jobs = true)
    (hport : ∃ p ∈ ports, hasSlot jobs p = true)
    (hjob : ∃ j ∈ jobs, isNext jobs deviceId j = true) :
    ∃ p ∈ ports, ∃ j ∈ jobs, hasSlot jobs p = true ∧ isNext jobs deviceId j = true ∧
      claimPorts now w deviceId ports jobs =
        (claimRows now w p j.id jobs, some (claimed now w p j)) := by
  induction ports with
  | nil =>
      obtain ⟨p, hp, -⟩ := hport
      exact absurd hp List.not_mem_nil
  | cons p ps ih =>
      cases hs : hasSlot jobs p with
      | true =>
          -- this port takes the next job
          obtain ⟨k, hk, hnext⟩ := hjob
          have hfind : (jobs.rows.find? (isNext jobs deviceId)).isSome = true :=
            List.find?_isSome.mpr ⟨k, hk, hnext⟩
          obtain ⟨j, hj⟩ := Option.isSome_iff_exists.mp hfind
          refine ⟨p, List.mem_cons_self, j, List.mem_of_find?_eq_some hj, hs,
            List.find?_some hj, ?_⟩
          unfold claimPorts
          rw [limit_of_hasSlot hs, hs]
          simp only [Bool.false_eq_true, if_false, if_true, hj]
      | false =>
          have hlimit : p.maxConcurrentJobs.isNone = false := by
            by_contra hnone
            simp [reachesSlot, hs, Bool.eq_true_of_not_eq_false hnone] at hreach
          have hreach' : reachesSlot ps jobs = true := by
            unfold reachesSlot at hreach ⊢
            rw [List.find?_cons_of_neg (by simp [hs, hlimit])] at hreach
            exact hreach
          have hport' : ∃ q ∈ ps, hasSlot jobs q = true := by
            obtain ⟨q, hq, hsq⟩ := hport
            rcases List.mem_cons.mp hq with rfl | hq
            · rw [hs] at hsq
              cases hsq
            · exact ⟨q, hq, hsq⟩
          obtain ⟨q, hq, j, hj, hsq, hnext, e⟩ := ih hreach' hport'
          refine ⟨q, List.mem_cons_of_mem _ hq, j, hj, hsq, hnext, ?_⟩
          unfold claimPorts
          rw [hlimit, hs]
          simp only [Bool.false_eq_true, if_false]
          exact e

/-- **The loop ends without a claim** at a port whose limit is NULL, before any port with a slot. -/
theorem claimPorts_blocked (hreach : reachesSlot ports jobs = false) :
    claimPorts now w deviceId ports jobs = (jobs, none) := by
  induction ports with
  | nil => rfl
  | cons p ps ih =>
      unfold claimPorts
      split
      · rfl
      · rename_i hlimit
        cases hs : hasSlot jobs p with
        | true => simp [reachesSlot, hs] at hreach
        | false =>
            simp only [Bool.false_eq_true, if_false]
            refine ih ?_
            unfold reachesSlot at hreach ⊢
            rw [List.find?_cons_of_neg (by simp [hs, hlimit])] at hreach
            exact hreach

/-- Where nothing can be claimed, nothing is. -/
theorem claimPorts_none (h : ¬Claimable deviceId ports jobs) :
    claimPorts now w deviceId ports jobs = (jobs, none) := by
  rcases claimPorts_cases now w deviceId jobs ports with e | ⟨p, hp, j, hj, hs, hnext, -⟩
  · exact e
  · exact absurd ⟨⟨p, hp, hs⟩, j, hj, candidate_of_isNext hnext⟩ h

end Ports

/-! ## 4. The call -/

/-- **A claim on an enabled device does what it is for exactly where there is nothing to claim, or
    no port whose limit is NULL stands before the first port with a slot.** -/
theorem claim_iff (site : Site) (now : Time) (w : Worker) (jobs : Table Job) (d : Device)
    (hd : enabledDevice? site w.deviceName = some d) :
    ClaimsNext now w d.id (enabledPorts site d.id .jobQueue) (recoverStaleJobs now d.id jobs)
        (claimJob site now w jobs) ↔
      (Claimable d.id (enabledPorts site d.id .jobQueue) (recoverStaleJobs now d.id jobs) →
        reachesSlot (enabledPorts site d.id .jobQueue) (recoverStaleJobs now d.id jobs) =
          true) := by
  have hclaim : claimJob site now w jobs = claimPorts now w d.id
      (enabledPorts site d.id .jobQueue) (recoverStaleJobs now d.id jobs) := by
    unfold claimJob
    rw [hd]
  rw [hclaim]
  generalize enabledPorts site d.id .jobQueue = ports
  generalize recoverStaleJobs now d.id jobs = jobs
  constructor
  · rintro ⟨hsome, -⟩ hcl
    by_contra hreach
    obtain ⟨p, -, j, -, -, -, e⟩ := hsome hcl
    rw [claimPorts_blocked (Bool.eq_false_of_not_eq_true hreach)] at e
    cases congrArg Prod.snd e
  · intro h
    refine ⟨fun hcl => ?_, claimPorts_none⟩
    obtain ⟨j, hj, hc⟩ := hcl.2
    exact claimPorts_claims (h hcl) hcl.1 (exists_isNext hj hc)

/-- The device of `smallSite`. -/
def centurion : Device := ⟨1, "centurion", none, true⟩

/-- A job port of `centurion`. -/
def jobPort (id : Nat) (limit : Option Int) : DevicePort where
  id := id
  deviceId := 1
  portLabel := "CRT0"
  transport := none
  devPath := "/dev/ttyUSB0"
  purpose := .jobQueue
  baud := none
  maxConcurrentJobs := limit
  maxRuntimeSeconds := none
  idleTimeoutSeconds := none
  isEnabled := true

/-- `centurion` with two job ports, with these limits. -/
def twoPorts (first second : Option Int) : Site :=
  { smallSite.toSite with
    ports := (Table.empty.insert (jobPort 1 first)).insert (jobPort 2 second) }

/-- A queued job with a priority. -/
def queuedJob (id : Nat) (priority : Int) : Job :=
  { newJob smallSubmission 0 id "upload" 64 with priority := priority }

/-- Two queued jobs; the second is the more urgent one. -/
def twoQueued : Table Job := (Table.empty.insert (queuedJob 1 0)).insert (queuedJob 2 9)

/-- The second job is claimed on the second port, since the first has no slot to give. -/
theorem claim_small : ((claimJob (twoPorts (some 0) (some 1)) 0 workerA twoQueued).2.any
      fun j => j.id == 2 && j.portId == some 2) = true ∧
    ClaimsNext 0 workerA 1 (enabledPorts (twoPorts (some 0) (some 1)) 1 .jobQueue)
      (recoverStaleJobs 0 1 twoQueued)
      (claimJob (twoPorts (some 0) (some 1)) 0 workerA twoQueued) :=
  ⟨by decide, (claim_iff (twoPorts (some 0) (some 1)) 0 workerA twoQueued centurion rfl).mpr
    fun _ => by decide⟩

/-- **A port without a limit first**: the second port has a slot, two jobs wait, none is claimed. -/
theorem claim_blocked : Claimable 1 (enabledPorts (twoPorts none (some 1)) 1 .jobQueue)
      (recoverStaleJobs 0 1 twoQueued) ∧
    (claimJob (twoPorts none (some 1)) 0 workerA twoQueued).2 = none ∧
    ¬ClaimsNext 0 workerA 1 (enabledPorts (twoPorts none (some 1)) 1 .jobQueue)
      (recoverStaleJobs 0 1 twoQueued) (claimJob (twoPorts none (some 1)) 0 workerA twoQueued) := by
  have hslot : (enabledPorts (twoPorts none (some 1)) 1 .jobQueue).any
      (hasSlot (recoverStaleJobs 0 1 twoQueued)) = true := by decide
  have hjob : (recoverStaleJobs 0 1 twoQueued).rows.any (candidate 1) = true := by decide
  have hcl : Claimable 1 (enabledPorts (twoPorts none (some 1)) 1 .jobQueue)
      (recoverStaleJobs 0 1 twoQueued) := ⟨List.any_eq_true.mp hslot, List.any_eq_true.mp hjob⟩
  have hnone : (claimJob (twoPorts none (some 1)) 0 workerA twoQueued).2 = none := by decide
  refine ⟨hcl, hnone, fun h => ?_⟩
  obtain ⟨p, -, j, -, -, -, e⟩ := h.1 hcl
  rw [e] at hnone
  cases hnone

end RetroBridge.Jobs
