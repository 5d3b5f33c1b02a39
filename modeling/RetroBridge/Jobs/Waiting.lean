/-
  File:      RetroBridge/Jobs/Waiting.lean
  Subject:   HOW LONG A JOB CAN BE PASSED OVER (worker.py: `claim_job`, `recover_stale_jobs`;
             retrobridge/jobs/utils.py: `create_job`), with any number of workers and requests.

  * `ahead` -- the jobs of its device that a claim may take before it;
  * `claimsOther`, `putsAhead` -- an act that claims another job of the device, and the jobs an act
    puts ahead: a submission, or what a recovery queues again; `Tally`, `tally`: both, counted along
    a run;
  * `RowChange.candidate` -- no other act makes a job one to claim;
  * `ahead_step` -- while a job waits, each claim takes one of those ahead of it;
  * `overtaken_run` -- **on every run a waiting job is passed over at most as often as there were
    jobs ahead of it and jobs that were put ahead of it.**
-/
import RetroBridge.Jobs.ClaimOrder
import RetroBridge.Jobs.Change

namespace RetroBridge.Jobs

open Relational Transition

/-! ## 1. The jobs ahead -/

/-- Job `k` is one that a claim on the device of `j` may take before `j`: queued there, and not
    strictly behind it. -/
def ahead (j k : Job) : Bool :=
  candidate j.deviceId k && decide (k.id ≠ j.id) && !ordersBefore j k

theorem ahead_iff {j k : Job} : ahead j k = true ↔
    candidate j.deviceId k = true ∧ k.id ≠ j.id ∧ claimKey k ≤ claimKey j := by
  unfold ahead
  rw [Bool.and_eq_true, Bool.and_eq_true, decide_eq_true_eq, Bool.not_eq_true', and_assoc,
    ← Bool.not_eq_true, ordersBefore_iff, not_lt]

/-- The job is still one to claim. -/
def Waiting (j : Job) (s : Sys) : Prop :=
  ∃ row ∈ s.jobs, row.id = j.id ∧ candidate j.deviceId row = true

/-- The act claims another job of the device of `j`. -/
def claimsOther (j : Job) (s : Sys) : Act → Bool
  | .worker w (.claimPort k) =>
    match s.worker w with
    | .claim deviceId _ => deviceId == j.deviceId && k != j.id
    | _ => false
  | _ => false

/-- **How many jobs the act puts ahead of `j`**: the one a submission adds, if it is as urgent, and
    those that a recovery queues again. -/
def putsAhead (site : JobSite) (j : Job) (s : Sys) : Act → Nat
  | .request r .createCommit =>
    match s.request r with
    | .flushed new => (ahead j new).toNat
    | _ => 0
  | .worker w .recover =>
    s.jobs.count fun k => ahead j (workerWrite site s w .recover k) && !ahead j k
  | _ => 0

/-- What is counted along a run. -/
structure Tally where
  claims : Nat
  arrivals : Nat

/-- One step counted. -/
def Tally.add (site : JobSite) (j : Job) (t : Tally) (s : Sys) (l : Label) : Tally where
  claims := t.claims + (claimsOther j (s.at l.1) l.2).toNat
  arrivals := t.arrivals + putsAhead site j (s.at l.1) l.2

/-- The state after a label. -/
def nextSys (site : JobSite) (s : Sys) (l : Label) : Sys := (exec site s l).getD s

/-- **The claims of other jobs, and the jobs put ahead of `j`**, in the steps `ls` from `s`. -/
def tally (site : JobSite) (j : Job) (s : Sys) (ls : List Label) : Tally :=
  observe (nextSys site) (Tally.add site j) ⟨0, 0⟩ s ls

/-! ## 2. What a change of a row does to the queue -/

section Change

variable {site : JobSite} {s s' : Sys} {a : Act} {row row' : Job}

/-- A row keeps its id and its place in the order of the queue. -/
theorem RowChange.claimKey (h : RowChange site s row a row') :
    row'.id = row.id ∧ claimKey row' = claimKey row := by
  cases h <;> exact ⟨rfl, rfl⟩

/-- **No change makes a job one to claim but a recovery's.** -/
theorem RowChange.candidate (h : RowChange site s row a row') {deviceId : Nat}
    (hc : Jobs.candidate deviceId row' = true) :
    Jobs.candidate deviceId row = true ∨ ∃ w, a = .worker w .recover := by
  obtain ⟨hdev, hq, hfree⟩ := candidate_iff.mp hc
  cases h with
  | same => exact Or.inl hc
  | swept => cases hq
  | recoveredCanceled => cases hq
  | recoveredQueued => exact Or.inr ⟨_, rfl⟩
  | claim => cases hq
  | beat => exact Or.inl (candidate_iff.mpr ⟨hdev, hq, hfree⟩)
  | final _ _ _ hret =>
      refine Or.inl (candidate_iff.mpr ⟨hdev, ?_, ?_⟩)
      · rcases hret.flush_status row with e | hfin
        · exact e.symm.trans hq
        · rw [hq] at hfin
          cases hfin
      · rw [ormFlush_cancelRequested, flushCol_same hret.cancelRequested] at hfree
        exact hfree
  | cancel _ _ _ hno _ =>
      rw [(ormFlush_withCancel hno).1] at hfree
      cases hfree

/-- What is ahead after a change was ahead before it, or a recovery has put it there. -/
theorem RowChange.ahead {j : Job} (h : RowChange site s row a row')
    (ha : Jobs.ahead j row' = true) :
    Jobs.ahead j row = true ∨ ∃ w, a = .worker w .recover := by
  obtain ⟨hc, hne, hle⟩ := ahead_iff.mp ha
  obtain ⟨hid, hkey⟩ := h.claimKey
  rcases h.candidate hc with hc | hrec
  · exact Or.inl (ahead_iff.mpr ⟨hc, hid ▸ hne, hkey ▸ hle⟩)
  · exact Or.inr hrec

end Change

/-! ## 3. One step -/

section Step

variable {site : JobSite} {s s' : Sys} {a : Act} {j : Job}

/-- The row of the job has the place in the queue that the job has. -/
def KeepsPlace (j : Job) (s : Sys) : Prop :=
  ∀ row ∈ s.jobs, row.id = j.id → claimKey row = claimKey j

theorem keepsPlace_effect (hR : Recalls s) (h : effect site s a = some s') (hw : Waiting j s)
    (hk : KeepsPlace j s) : KeepsPlace j s' := by
  intro row' hr' hid'
  obtain ⟨row, hrow, hid, -⟩ := hw
  have e : row' = rowWrite site s a row := effect_row h hrow hr' (hid'.trans hid.symm)
  rw [e, (effect_change hR h hrow).claimKey.2]
  exact hk row hrow hid

/-- **A claim takes a job that is ahead**, if it takes another than `j`. -/
theorem claim_ahead (h : effect site s a = some s') (hw : Waiting j s) (hk : KeepsPlace j s)
    (hcl : claimsOther j s a = true) :
    ∃ w k, a = .worker w (.claimPort k) ∧ ∃ row ∈ s.jobs, row.id = k ∧ ahead j row = true := by
  unfold claimsOther at hcl
  split at hcl
  · rename_i w k
    obtain ⟨ph, hph, -⟩ := effect_worker h
    obtain ⟨d, port, ports, row, e, hrow, hrk, -, -, hnext, -⟩ := claimPort_enabled hph
    rw [e] at hcl
    simp only [Bool.and_eq_true, beq_iff_eq, bne_iff_ne] at hcl
    obtain ⟨rfl, hne⟩ := hcl
    obtain ⟨hc, hmin⟩ := isNext_iff.mp hnext
    obtain ⟨own, hown, hid, hcand⟩ := hw
    refine ⟨w, k, rfl, row, hrow, hrk, ahead_iff.mpr ⟨hc, hrk ▸ hne, ?_⟩⟩
    rw [← hk own hown hid]
    exact hmin own hown hcand
  · cases hcl

/-- A claimed row is not one to claim. -/
theorem ahead_claimed {w : Worker} {k : Nat} {row : Job} (hid : row.id = k)
    (h : effect site s (.worker w (.claimPort k)) = some s') :
    ahead j (rowWrite site s (.worker w (.claimPort k)) row) = false := by
  obtain ⟨ph, hph, -⟩ := effect_worker h
  obtain ⟨d, port, ports, row', e, -, -, -, -, -, -⟩ := claimPort_enabled hph
  have hwrite : rowWrite site s (.worker w (.claimPort k)) row = claimed s.clock w port row := by
    simp only [rowWrite, workerWrite, e]
    exact Table.atKey_self hid
  rw [hwrite]
  refine Bool.eq_false_iff.mpr fun ha => ?_
  have hq := (candidate_iff.mp (ahead_iff.mp ha).1).2.1
  cases hq

/-- What a commit of `create_job` adds to a count. -/
theorem count_create {r : Nat} (h : effect site s (.request r .createCommit) = some s') :
    s'.jobs.count (ahead j) ≤
      s.jobs.count (ahead j) + putsAhead site j s (.request r .createCommit) := by
  obtain ⟨ph, hph, rfl⟩ := effect_request h
  have hrows : writeRows site s (.request r .createCommit) = s.jobs :=
    writeRows_same fun _ _ => rfl
  cases requestMove_moved hph with
  | @createCommit new hr =>
      have hinsert : writeJobs site s (.request r .createCommit) = s.jobs.insert new := by
        simp only [writeJobs, created?, hr, hrows]
      show (writeJobs site s (.request r .createCommit)).count (ahead j) ≤ _
      rw [hinsert, putsAhead, hr]
      refine Nat.le_trans Table.count_insert_le (Nat.add_le_add_left ?_ _)
      cases ha : ahead j new <;> simp [ha]

/-- **While `j` waits, each claim of another job takes one that is ahead, and nothing but a
    submission and a recovery puts one there.** -/
theorem ahead_step (hR : Recalls s) (h : effect site s a = some s') (hw : Waiting j s)
    (hk : KeepsPlace j s) :
    s'.jobs.count (ahead j) + (claimsOther j s a).toNat ≤
      s.jobs.count (ahead j) + putsAhead site j s a := by
  cases hcl : claimsOther j s a with
  | true =>
      obtain ⟨w, k, rfl, row, hrow, hid, ha⟩ := claim_ahead h hw hk hcl
      have hlt : (writeRows site s (.worker w (.claimPort k))).count (ahead j) <
          s.jobs.count (ahead j) := by
        refine Table.count_mapRows_lt (fun r hr har => ?_) hrow ha (ahead_claimed hid h)
        rcases (effect_change hR h hr).ahead har with har | ⟨_, e⟩
        · exact har
        · cases e
      obtain ⟨ph, -, rfl⟩ := effect_worker h
      exact Nat.le_trans hlt (Nat.le_add_right _ _)
  | false =>
      rw [Bool.toNat_false, Nat.add_zero]
      by_cases hrec : ∃ w, a = .worker w .recover
      · obtain ⟨w, rfl⟩ := hrec
        obtain ⟨ph, -, rfl⟩ := effect_worker h
        exact @Table.count_mapRows_le_add Job _ s.jobs _ (rowWrite_id site s _) (ahead j)
      · have hold : ∀ row ∈ s.jobs, ∀ row', RowChange site s row a row' →
            ahead j row' = true → ahead j row = true := fun row _ row' hch ha =>
          (hch.ahead ha).resolve_right hrec
        by_cases hcr : ∃ r, a = .request r .createCommit
        · obtain ⟨r, rfl⟩ := hcr
          exact count_create h
        · refine Nat.le_trans (effect_count_le hR h hold fun r new e _ => ?_) (Nat.le_add_right _ _)
          exact absurd ⟨r, e⟩ hcr

end Step

/-! ## 4. Every run -/

/-- The label of a step determines the state after it. -/
theorem nextSys_step {site : JobSite} {s s' : Sys} {l : Label} (h : Step site s l s') :
    nextSys site s l = s' := by
  unfold nextSys
  rw [h]
  rfl

/-- **What a run from a state keeps**, as long as `j` waits. -/
structure Passing (site : JobSite) (j : Job) (start : Nat) (t : Tally) (s : Sys) : Prop where
  recalls : Recalls s
  place : KeepsPlace j s
  passed : t.claims + s.jobs.count (ahead j) ≤ start + t.arrivals

/-- **A WAITING JOB IS PASSED OVER AT MOST AS OFTEN AS JOBS STOOD AHEAD OF IT OR WERE PUT THERE**,
    whatever the workers, the submissions and the cancellations. -/
theorem overtaken_run {site : JobSite} {s₀ s₁ s : Sys} {ls₀ ls : List Label} {j : Job}
    (h0 : s₀.Started) (hreach : Run (Step site) s₀ ls₀ s₁) (hj : j ∈ s₁.jobs)
    (h : Run (guarded (Step site) fun s _ => Waiting j s) s₁ ls s) :
    (tally site j s₁ ls).claims + s.jobs.count (ahead j) ≤
      s₁.jobs.count (ahead j) + (tally site j s₁ ls).arrivals := by
  have hrecalls : Recalls s₁ :=
    hreach.invariant (recalls_started h0) fun _ _ _ hR hs => step_recalls hR hs
  have hstart : Passing site j (s₁.jobs.count (ahead j)) ⟨0, 0⟩ s₁ := by
    refine ⟨hrecalls, fun row hrow hid => ?_, ?_⟩
    · rw [Table.eq_of_key hrow hj hid]
    · exact Nat.le_of_eq (Nat.zero_add _)
  refine (h.observed (I := Passing site j (s₁.jobs.count (ahead j)))
    (fun _ _ _ hs => nextSys_step hs.2) hstart fun t s l s' hp hs => ?_).passed
  · obtain ⟨hw, hs⟩ := hs
    obtain ⟨-, he⟩ := hs.effect
    have hR := hp.recalls.at l.1
    have hone := ahead_step hR he hw hp.place
    have hpassed := hp.passed
    refine ⟨step_recalls hp.recalls hs, keepsPlace_effect hR he hw hp.place, ?_⟩
    show t.claims + (claimsOther j (s.at l.1) l.2).toNat + s'.jobs.count (ahead j) ≤
      s₁.jobs.count (ahead j) + (t.arrivals + putsAhead site j (s.at l.1) l.2)
    simp only [Sys.at_jobs] at hone
    omega

/-- A second job of the user, as old as the first. -/
def secondJob : Job := newJob smallSubmission 0 2 "job-2/hello.hex" 64

theorem waiting_of_get {j : Job} {s : Sys}
    (h : (s.jobs.get? j.id).any (candidate j.deviceId) = true) : Waiting j s := by
  obtain ⟨row, hget, hc⟩ := (Option.any_eq_true _ _).mp h
  obtain ⟨hrow, hid⟩ := Table.get?_eq_some.mp hget
  exact ⟨row, hrow, hid, hc⟩

/-- The second job waits while a worker claims the first. -/
theorem overtaken_run_small : ∃ (s₁ s : Sys) (ls : List Label),
    (tally smallSite secondJob s₁ ls).claims = 1 ∧
    (tally smallSite secondJob s₁ ls).claims + s.jobs.count (ahead secondJob) ≤
      s₁.jobs.count (ahead secondJob) + (tally smallSite secondJob s₁ ls).arrivals := by
  have h : ((execAll (exec smallSite) smallStart
      ([.createBegin smallSubmission, .createCheck, .createFlush "job-2/hello.hex" 64,
        .createCommit].map fun a => (0, .request 1 a))).any fun s₁ =>
      decide (s₁.jobs.get? 2 = some secondJob ∧
        (tally smallSite secondJob s₁ (claimSteps 0 workerA)).claims = 1) &&
      (execAll (execWhen (fun (s : Sys) _ => (s.jobs.get? 2).any (candidate 1)) (exec smallSite))
        s₁ (claimSteps 0 workerA)).any fun _ => true) = true := by decide
  obtain ⟨s₁, hr, hp⟩ := exists_run_of_execAll h
  obtain ⟨hp, hrest⟩ := (Bool.and_eq_true _ _).mp hp
  obtain ⟨hget, hclaims⟩ := of_decide_eq_true hp
  obtain ⟨s, hrun, -⟩ : ∃ s, Run (guarded (Step smallSite) fun s _ => Waiting secondJob s) s₁
      (claimSteps 0 workerA) s ∧ true = true :=
    exists_guarded_run (fun _ _ => waiting_of_get) hrest
  exact ⟨s₁, s, _, hclaims,
    overtaken_run smallStart_started hr (Table.get?_eq_some.mp hget).1 hrun⟩

end RetroBridge.Jobs
