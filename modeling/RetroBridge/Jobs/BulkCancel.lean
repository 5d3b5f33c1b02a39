/-
  File:      RetroBridge/Jobs/BulkCancel.lean
  Subject:   BULK CANCEL AGAINST REPEATED CANCEL (retrobridge/admin/routes.py: `bulk_cancel_jobs`,
             `_safe_int`; retrobridge/jobs/utils.py: `cancel_job`), with no other writer.

  The loop of `bulk_cancel_jobs` changes the objects of its session and commits once, behind the
  last id; `cancel_job` commits what it changes. A lookup with an id that SQLite cannot hold raises
  `OverflowError`, which neither catches: the request ends and its session is rolled back.

  * `safeInt`, `bindable` -- the ids that are looked up, and those of them that raise;
  * `bulkCancelJobs` -- the rows it leaves and the count it reports;
  * `cancelEach` -- `cancel_job` for one id after the other, and how many succeed;
  * `sessionGet_eq` -- the session's object is the row as committed so far;
  * `commitDirty_concat` -- one commit more;
  * `bulk_eq_each_iff` -- **the two agree exactly where every id that parses fits into 64 bits**;
  * `batch_rolled_back` -- an id past the range takes the cancelled job before it back.
-/
import RetroBridge.Jobs.Record
import RetroBridge.Library.Numeral

namespace RetroBridge.Jobs

open Relational

/-! ## 1. The two ways -/

/-- **`_safe_int`**, over what `int` reads of a text: none where it raises. -/
def safeInt (int : String → Option Int) (value : Option String) (default : Option Int) :
    Option Int :=
  match value with
  | none => default
  | some text =>
    match int text with
    | some n => some n
    | none => default

/-- The id can be bound to a statement: SQLite's integers have 64 bits. -/
def bindable (jobId : Int) : Bool :=
  decide (-9223372036854775808 ≤ jobId) && decide (jobId ≤ 9223372036854775807)

/-- The row with an id; the store gives no negative ones. -/
def rowOf (jobs : Table Job) (jobId : Int) : Option Job :=
  if jobId < 0 then none else jobs.get? jobId.toNat

/-- `db_session.get(Job, job_id)` with the objects the session has changed. -/
def sessionGet (jobs : Table Job) (dirty : Dirty) (jobId : Int) : Option Job :=
  match dirty.find? fun it => (it.1.id : Int) == jobId with
  | some it => some it.2
  | none => rowOf jobs jobId

/-- The loop of `bulk_cancel_jobs`, with the changed objects and the count; none where a lookup
    raises. -/
def bulkLoop (int : String → Option Int) (jobs : Table Job) :
    List String → Dirty → Nat → Option (Dirty × Nat)
  | [], dirty, count => some (dirty, count)
  | rawId :: ids, dirty, count =>
    match safeInt int (some rawId) none with
    | none => bulkLoop int jobs ids dirty count
    | some jobId =>
      if bindable jobId = false then none
      else
        let job := sessionGet jobs dirty jobId
        match bulkCancelOne job with
        | none => bulkLoop int jobs ids dirty count
        | some obj => bulkLoop int jobs ids (addDirty job (some obj) dirty) (count + 1)

/-- **`bulk_cancel_jobs`**: the rows behind it and the count, if it reports one. -/
def bulkCancelJobs (int : String → Option Int) (jobs : Table Job) (ids : List String) :
    Table Job × Option Nat :=
  match bulkLoop int jobs ids [] 0 with
  | some (dirty, count) => (commitDirty dirty jobs, some count)
  | none => (jobs, none)

/-- **`cancel_job(db_session, job_id, admin_id, is_admin=True)`**: the rows behind it, and whether
    it returns success; a lookup that raises leaves the rows as they are. -/
def cancelOne (adminId : Nat) (jobs : Table Job) (jobId : Int) : Table Job × Bool :=
  if bindable jobId = false then (jobs, false)
  else
    let job := rowOf jobs jobId
    let answer := cancelJob job adminId true
    (commitDirty (addDirty job answer.1 []) jobs, answer.2.1)

/-- `cancel_job` for one id after the other: the rows, and the number of calls that succeed. -/
def cancelEach (adminId : Nat) : Table Job → List Int → Table Job × Nat
  | jobs, [] => (jobs, 0)
  | jobs, jobId :: ids =>
    let one := cancelOne adminId jobs jobId
    let rest := cancelEach adminId one.1 ids
    (rest.1, rest.2 + if one.2 then 1 else 0)

/-- The ids of a form that parse. -/
def parsable (int : String → Option Int) (ids : List String) : List Int :=
  ids.filterMap fun rawId => safeInt int (some rawId) none

/-! ## 2. The session's objects -/

variable {jobs : Table Job} {dirty : Dirty} {int : String → Option Int}
  {ids : List String}

/-- **The objects of the batch**: rows with the cancel on them, none asked for before. -/
def Batched (jobs : Table Job) (dirty : Dirty) : Prop :=
  ∀ it ∈ dirty, it.1 ∈ jobs ∧ it.2 = withCancel it.1 ∧ it.1.cancelRequested = false

theorem flushCol_self {α : Type} [DecidableEq α] (loaded obj : α) :
    flushCol loaded obj loaded = obj := by
  unfold flushCol
  split
  · rename_i h
    exact h.symm
  · rfl

/-- With no other writer the commit of a cancel leaves the object. -/
theorem ormFlush_withCancel_self (j : Job) : ormFlush j (withCancel j) j = withCancel j := by
  unfold withCancel ormFlush
  split <;> simp only [flushCol_self]

theorem rowOf_commitDirty (jobId : Int) :
    rowOf (commitDirty dirty jobs) jobId = (rowOf jobs jobId).map (cancelRow dirty) := by
  unfold rowOf commitDirty
  split
  · rfl
  · exact Table.get?_mapRows

theorem rowOf_eq_some {jobId : Int} {j : Job} (h : rowOf jobs jobId = some j) :
    j ∈ jobs ∧ (j.id : Int) = jobId := by
  unfold rowOf at h
  split at h
  · cases h
  · obtain ⟨hmem, hkey⟩ := Table.get?_eq_some.mp h
    have hid : j.id = jobId.toNat := hkey
    exact ⟨hmem, by omega⟩

/-- **The session's object is the row as the commits would have left it so far.** -/
theorem sessionGet_eq (h : Batched jobs dirty) (jobId : Int) :
    sessionGet jobs dirty jobId = rowOf (commitDirty dirty jobs) jobId := by
  rw [rowOf_commitDirty]
  unfold sessionGet
  cases hfind : dirty.find? fun it => (it.1.id : Int) == jobId with
  | some it =>
      obtain ⟨hmem, hobj, -⟩ := h it (List.mem_of_find?_eq_some hfind)
      have hid : (it.1.id : Int) = jobId := by simpa using List.find?_some hfind
      have hrow : rowOf jobs jobId = some it.1 := by
        unfold rowOf
        rw [if_neg (by omega), ← hid]
        exact Table.get?_key hmem
      have hsame : dirty.find? (fun other => other.1.id == it.1.id) = some it := by
        rw [← hfind]
        congr 1
        funext other
        rw [← hid, Bool.eq_iff_iff, beq_iff_eq, beq_iff_eq, Int.ofNat_inj]
      have hwritten : cancelRow dirty it.1 = ormFlush it.1 it.2 it.1 := by
        rw [cancelRow, hsame]
      rw [hrow, Option.map_some, hwritten, hobj, ormFlush_withCancel_self]
      exact congrArg some hobj
  | none =>
      cases hrow : rowOf jobs jobId with
      | none => rfl
      | some j =>
          have hid := (rowOf_eq_some hrow).2
          have hnone : dirty.find? (fun other => other.1.id == j.id) = none := by
            refine List.find?_eq_none.mpr fun other hother heq => ?_
            refine List.find?_eq_none.mp hfind other hother ?_
            rw [beq_iff_eq] at heq ⊢
            omega
          change some j = some (cancelRow dirty j)
          rw [cancelRow, hnone]

/-- An object of the batch is not cancelled again: what the loop changes is a row no entry is
    for. -/
theorem fresh_of_cancel (h : Batched jobs dirty) {jobId : Int} {j obj : Job}
    (hget : sessionGet jobs dirty jobId = some j) (hcancel : bulkCancelOne (some j) = some obj) :
    j ∈ jobs ∧ obj = withCancel j ∧ j.cancelRequested = false ∧ ∀ it ∈ dirty, it.1.id ≠ j.id := by
  rw [bulkCancelOne_eq _ 0] at hcancel
  obtain ⟨j', hj, hobj, hfresh, -⟩ := cancelJob_some hcancel
  cases hj
  unfold sessionGet at hget
  cases hfind : dirty.find? fun it => (it.1.id : Int) == jobId with
  | some it =>
      rw [hfind] at hget
      obtain ⟨-, hobj', -⟩ := h it (List.mem_of_find?_eq_some hfind)
      obtain rfl : it.2 = j := Option.some.inj hget
      rw [hobj', withCancel_cancelRequested] at hfresh
      cases hfresh
  | none =>
      rw [hfind] at hget
      obtain ⟨hmem, hid⟩ := rowOf_eq_some hget
      refine ⟨hmem, hobj, hfresh, fun it hit heq => ?_⟩
      refine List.find?_eq_none.mp hfind it hit ?_
      rw [beq_iff_eq]
      omega

/-! ## 3. One commit more -/

theorem commitDirty_nil (jobs : Table Job) : commitDirty [] jobs = jobs :=
  Table.mapRows_id fun _ _ => rfl

/-- **Committing one object more is a commit of its own.** -/
theorem commitDirty_concat {j obj : Job} (hnew : ∀ it ∈ dirty, it.1.id ≠ j.id) :
    commitDirty (dirty ++ [(j, obj)]) jobs = commitDirty [(j, obj)] (commitDirty dirty jobs) := by
  refine Table.ext_rows ?_
  change jobs.rows.map _ = (jobs.rows.map _).map _
  rw [List.map_map]
  refine List.map_congr_left fun row _ => ?_
  change cancelRow _ row = cancelRow _ (cancelRow dirty row)
  have hconcat : (dirty ++ [(j, obj)]).find? (fun it => it.1.id == row.id) =
      (dirty.find? fun it => it.1.id == row.id).or
        ([(j, obj)].find? fun it => it.1.id == row.id) := List.find?_append
  cases hfind : dirty.find? fun it => it.1.id == row.id with
  | none =>
      have hkept : cancelRow dirty row = row := by
        rw [cancelRow, hfind]
      have hlast : cancelRow (dirty ++ [(j, obj)]) row = cancelRow [(j, obj)] row := by
        rw [cancelRow, cancelRow, hconcat, hfind, Option.none_or]
      rw [hlast, hkept]
  | some it =>
      have hid : it.1.id = row.id := by simpa using List.find?_some hfind
      have hother : [(j, obj)].find? (fun it => it.1.id == row.id) = none := by
        refine List.find?_eq_none.mpr fun other hmem => ?_
        rw [List.mem_singleton.mp hmem, beq_iff_eq, ← hid]
        exact (hnew it (List.mem_of_find?_eq_some hfind)).symm
      have hkept : cancelRow [(j, obj)] (cancelRow dirty row) = cancelRow dirty row := by
        rw [← cancelRow_id dirty row] at hother
        rw [cancelRow, hother]
      have hfirst : cancelRow (dirty ++ [(j, obj)]) row = cancelRow dirty row := by
        rw [cancelRow, cancelRow, hconcat, hfind, Option.some_or]
      rw [hkept, hfirst]

/-! ## 4. The two loops -/

/-- A call succeeds exactly where it changes an object. -/
theorem cancelJob_success (job : Option Job) (userId : Nat) (isAdmin : Bool) :
    (cancelJob job userId isAdmin).2.1 = (cancelJob job userId isAdmin).1.isSome := by
  unfold cancelJob
  cases job with
  | none => rfl
  | some j =>
      change (ite _ _ _ : Option Job × Bool × String).2.1 =
        (ite _ _ _ : Option Job × Bool × String).1.isSome
      split_ifs <;> rfl

/-- **One id**: what `cancel_job` does with it on the rows the batch stands for. -/
theorem cancelOne_commitDirty (adminId : Nat) (h : Batched jobs dirty) {jobId : Int}
    (hb : bindable jobId = true) :
    (bulkCancelOne (sessionGet jobs dirty jobId) = none ∧
        cancelOne adminId (commitDirty dirty jobs) jobId = (commitDirty dirty jobs, false)) ∨
      ∃ obj, bulkCancelOne (sessionGet jobs dirty jobId) = some obj ∧
        Batched jobs (addDirty (sessionGet jobs dirty jobId) (some obj) dirty) ∧
        cancelOne adminId (commitDirty dirty jobs) jobId =
          (commitDirty (addDirty (sessionGet jobs dirty jobId) (some obj) dirty) jobs, true) := by
  have hone : cancelOne adminId (commitDirty dirty jobs) jobId =
      (commitDirty (addDirty (sessionGet jobs dirty jobId)
          (bulkCancelOne (sessionGet jobs dirty jobId)) []) (commitDirty dirty jobs),
        (bulkCancelOne (sessionGet jobs dirty jobId)).isSome) := by
    rw [cancelOne, if_neg (Bool.not_eq_false _ ▸ hb), bulkCancelOne_eq _ adminId,
      ← cancelJob_success, sessionGet_eq h]
  rw [hone]
  cases hget : sessionGet jobs dirty jobId with
  | none => exact .inl ⟨rfl, congrArg (·, false) (commitDirty_nil _)⟩
  | some j =>
      cases hcancel : bulkCancelOne (some j) with
      | none => exact .inl ⟨rfl, congrArg (·, false) (commitDirty_nil _)⟩
      | some obj =>
          obtain ⟨hmem, hobj, hfresh, hnew⟩ := fresh_of_cancel h hget hcancel
          refine .inr ⟨obj, rfl, ?_, congrArg (·, true) (commitDirty_concat hnew).symm⟩
          intro it hit
          rcases List.mem_append.mp hit with hit | hit
          · exact h it hit
          · rw [List.mem_singleton.mp hit]
            exact ⟨hmem, hobj, hfresh⟩

/-- **The batch stands for the calls made so far.** -/
theorem bulkLoop_eq (adminId : Nat) (hids : ∀ jobId ∈ parsable int ids, bindable jobId = true) :
    ∀ {dirty : Dirty}, Batched jobs dirty → ∀ count, ∃ dirty',
      bulkLoop int jobs ids dirty count =
        some (dirty', count + (cancelEach adminId (commitDirty dirty jobs) (parsable int ids)).2) ∧
      commitDirty dirty' jobs =
        (cancelEach adminId (commitDirty dirty jobs) (parsable int ids)).1 := by
  induction ids with
  | nil => exact fun _ count => ⟨_, rfl, rfl⟩
  | cons rawId ids ih =>
      intro dirty hdirty count
      unfold parsable at hids ih ⊢
      rw [List.filterMap_cons] at hids ⊢
      rw [bulkLoop]
      cases hparse : safeInt int (some rawId) none with
      | none =>
          rw [hparse] at hids
          exact ih hids hdirty count
      | some jobId =>
          rw [hparse] at hids
          obtain ⟨hb, hids⟩ := List.forall_mem_cons.mp hids
          simp only [hb, Bool.true_eq_false, if_false, cancelEach]
          rcases cancelOne_commitDirty adminId hdirty hb with
            ⟨hkept, hone⟩ | ⟨obj, hcancel, hdirty', hone⟩
          · rw [hkept, hone]
            exact ih hids hdirty count
          · rw [hcancel, hone]
            obtain ⟨dirty', hloop, hrows⟩ := ih hids hdirty' (count + 1)
            refine ⟨dirty', hloop.trans ?_, hrows⟩
            rw [Nat.add_assoc, Nat.add_comm 1]
            rfl

/-- An id out of range ends the batch. -/
theorem bulkLoop_none {jobId : Int} (hmem : jobId ∈ parsable int ids)
    (hrange : bindable jobId = false) :
    ∀ dirty count, bulkLoop int jobs ids dirty count = none := by
  induction ids with
  | nil => exact absurd hmem List.not_mem_nil
  | cons rawId ids ih =>
      intro dirty count
      unfold parsable at hmem ih
      rw [List.filterMap_cons] at hmem
      rw [bulkLoop]
      cases hparse : safeInt int (some rawId) none with
      | none =>
          rw [hparse] at hmem
          exact ih hmem dirty count
      | some first =>
          rw [hparse] at hmem
          by_cases hfirst : bindable first = false
          · exact if_pos hfirst
          · rcases List.mem_cons.mp hmem with rfl | hlater
            · exact absurd hrange hfirst
            · simp only [hfirst]
              cases bulkCancelOne (sessionGet jobs dirty first) with
              | none => exact ih hlater dirty count
              | some obj => exact ih hlater _ _

/-- **Bulk cancel is repeated cancel exactly where every id that parses can be bound.** -/
theorem bulk_eq_each_iff (int : String → Option Int) (jobs : Table Job) (adminId : Nat)
    (ids : List String) :
    bulkCancelJobs int jobs ids =
        ((cancelEach adminId jobs (parsable int ids)).1,
          some (cancelEach adminId jobs (parsable int ids)).2) ↔
      ∀ jobId ∈ parsable int ids, bindable jobId = true := by
  constructor
  · intro heq jobId hmem
    by_contra hrange
    rw [bulkCancelJobs, bulkLoop_none hmem (Bool.not_eq_true _ ▸ hrange)] at heq
    cases congrArg Prod.snd heq
  · intro hids
    have hempty : Batched jobs [] := fun _ hit => absurd hit List.not_mem_nil
    obtain ⟨dirty, hloop, hrows⟩ := bulkLoop_eq adminId hids hempty 0
    rw [commitDirty_nil] at hloop hrows
    rw [bulkCancelJobs, hloop, Nat.zero_add]
    exact congrArg (·, _) hrows

/-- **The batch is rolled back**: an id of nineteen digits behind a queued job's. -/
theorem batch_rolled_back : ¬∀ (int : String → Option Int) (jobs : Table Job) (adminId : Nat)
    (ids : List String), bulkCancelJobs int jobs ids =
      ((cancelEach adminId jobs (parsable int ids)).1,
        some (cancelEach adminId jobs (parsable int ids)).2) := by
  intro h
  have heq := h Numerals.parseInt
    ⟨[newJob ⟨1, 1, "a.txt", 0, none, none, none⟩ 0 1 "1/a.txt" 1], List.nodup_singleton _⟩ 2
    ["1", "9223372036854775808"]
  have hcount := congrArg Prod.snd heq
  exact absurd hcount (by decide)

end RetroBridge.Jobs
