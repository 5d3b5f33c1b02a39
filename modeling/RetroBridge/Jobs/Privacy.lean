/-
  File:      RetroBridge/Jobs/Privacy.lean
  Subject:   WHAT A USER CAN LEARN OF THE OTHERS' JOBS from the pages (retrobridge/jobs/utils.py:
             `get_job_or_403`, `cancel_job`, `create_job`; retrobridge/api/routes.py: `list_jobs`):
             that they are there, and nothing else, but for the statistics of the devices that
             `new` shows to everyone.

  * `view` -- the ids of all rows, and of the user's own rows the row and its log;
  * `Sound` -- an output path is the row's own, and only jobs that have a row have a log;
  * `residue` -- what an event leaves for the user: the requests of the others nothing, but for an
    administrator's cancel of a job of the user, and a submission the id it takes; the workers'
    commits and the output nothing where the job is another's;
  * `Response.told` -- an answer without those statistics;
  * `unwinding` -- one event; `answers_residues` -- **the pages answer the user, the statistics
    apart, as if the rest had not happened.**
-/
import RetroBridge.Library.Unwinding
import RetroBridge.Jobs.Pages

namespace RetroBridge.Jobs.Pages

open Relational Noninterference

/-! ## 1. The view of a user -/

section View

variable (site : Site) (b : Board) (u : Nat)

/-- A row with its log, if it is the user's. -/
def shown (j : Job) : Option (Job × Option (List UInt8)) :=
  if j.userId = u then some (j, b.files (logPath site j.id)) else none

/-- **What the pages may tell a user.** -/
def view : List (Nat × Option (Job × Option (List UInt8))) :=
  b.jobs.rows.map fun j => (j.id, shown site b u j)

/-- **Paths and logs are the rows' own.** -/
structure Sound : Prop where
  paths : ∀ j ∈ b.jobs, ∀ p, j.outputPath = some p → p = logPath site j.id
  logs : ∀ k, b.jobs.get? k = none → b.files (logPath site k) = none

/-- The job is the user's. -/
def owns (jobId : Nat) : Bool := (b.jobs.get? jobId).any fun j => j.userId == u

end View

section Same

variable {site : Site} {s t : Board} {u : Nat}

/-- The ids, read off the view. -/
theorem ids_view : s.jobs.rows.map key = (view site s u).map Prod.fst := by
  unfold view
  rw [List.map_map]
  rfl

theorem nextKey_congr (h : view site s u = view site t u) : s.jobs.nextKey = t.jobs.nextKey := by
  unfold Table.nextKey
  rw [ids_view (u := u), ids_view (u := u), h]

/-- The user's rows, read off the view. -/
theorem own_view : (s.jobs.rows.filter fun j => j.userId == u) =
    ((view site s u).filterMap Prod.snd).map Prod.fst := by
  unfold view
  induction s.jobs.rows with
  | nil => rfl
  | cons j rows ih =>
      by_cases hj : j.userId = u
      · rw [List.filter_cons_of_pos (by rwa [beq_iff_eq]), ih]
        simp [shown, hj]
      · rw [List.filter_cons_of_neg (by rwa [beq_iff_eq]), ih]
        simp [shown, hj]

theorem own_congr (h : view site s u = view site t u) :
    (s.jobs.rows.filter fun j => j.userId == u) = t.jobs.rows.filter fun j => j.userId == u := by
  rw [own_view, own_view, h]

/-- A count of rows of the user is one over them. -/
theorem count_congr (h : view site s u = view site t u) {p : Job → Bool}
    (hp : ∀ j, p j = true → j.userId = u) : s.jobs.count p = t.jobs.count p := by
  have hown : ∀ jobs : Table Job,
      jobs.count p = (jobs.rows.filter fun j => j.userId == u).countP p := by
    intro jobs
    rw [List.countP_filter]
    refine List.countP_congr fun j _ => ?_
    rw [Bool.and_eq_true, beq_iff_eq]
    exact ⟨fun hj => ⟨hj, hp j hj⟩, And.left⟩
  rw [hown, hown, own_congr h]

/-- A lookup, read off the view. -/
theorem get?_view (k : Nat) : (s.jobs.get? k).map (shown site s u) =
    ((view site s u).find? fun e => e.1 == k).map Prod.snd := by
  unfold view Table.get?
  rw [List.find?_map, Option.map_map]
  rfl

theorem get?_congr (h : view site s u = view site t u) (k : Nat) :
    (s.jobs.get? k).map (shown site s u) = (t.jobs.get? k).map (shown site t u) := by
  rw [get?_view, get?_view, h]

/-- **A lookup for the user**: no row in either, a row of another in both, or the same row of the
    user with the same log. -/
theorem get?_cases (h : view site s u = view site t u) (k : Nat) :
    (s.jobs.get? k = none ∧ t.jobs.get? k = none) ∨
    (∃ i j, s.jobs.get? k = some i ∧ t.jobs.get? k = some j ∧ i.userId ≠ u ∧ j.userId ≠ u) ∨
    ∃ j, s.jobs.get? k = some j ∧ t.jobs.get? k = some j ∧ j.userId = u ∧
      s.files (logPath site j.id) = t.files (logPath site j.id) := by
  have hk := get?_congr h k
  cases hs : s.jobs.get? k with
  | none =>
      cases ht : t.jobs.get? k with
      | none => exact .inl ⟨rfl, rfl⟩
      | some j =>
          rw [hs, ht] at hk
          cases hk
  | some i =>
      cases ht : t.jobs.get? k with
      | none =>
          rw [hs, ht] at hk
          cases hk
      | some j =>
          rw [hs, ht, Option.map_some, Option.map_some] at hk
          have hshown := Option.some.inj hk
          unfold shown at hshown
          split at hshown
          · rename_i hi
            split at hshown
            · obtain ⟨rfl, hfile⟩ := Prod.mk.inj (Option.some.inj hshown)
              exact .inr (.inr ⟨i, rfl, rfl, hi, hfile⟩)
            · cases hshown
          · rename_i hi
            split at hshown
            · cases hshown
            · rename_i hj
              exact .inr (.inl ⟨i, j, rfl, rfl, hi, hj⟩)

end Same

/-! ## 2. What the pages tell -/

section Reads

variable {site : Site} {secureFilename : String → String} {now : Time} {s t : Board} {u : Nat}

/-- **`get_job_or_403` for the user**: the same error, or the same row and the same log. -/
theorem getJobOr403_congr (h : view site s u = view site t u) (k : Nat) :
    (∃ code, getJobOr403 s ⟨u, false⟩ k = .error code ∧ getJobOr403 t ⟨u, false⟩ k = .error code) ∨
    ∃ j ∈ s.jobs, getJobOr403 s ⟨u, false⟩ k = .ok j ∧ getJobOr403 t ⟨u, false⟩ k = .ok j ∧
      s.files (logPath site j.id) = t.files (logPath site j.id) := by
  unfold getJobOr403
  rcases get?_cases h k with ⟨hs, ht⟩ | ⟨i, j, hs, ht, hi, hj⟩ | ⟨j, hs, ht, hj, hfile⟩
  · rw [hs, ht]
    exact .inl ⟨404, rfl, rfl⟩
  · rw [hs, ht]
    exact .inl ⟨403, if_pos ⟨hi, rfl⟩, if_pos ⟨hj, rfl⟩⟩
  · rw [hs, ht]
    have hpass : ¬(j.userId ≠ u ∧ false = false) := fun hno => hno.1 hj
    exact .inr ⟨j, (Table.get?_eq_some.mp hs).1, if_neg hpass, if_neg hpass, hfile⟩

/-- An output path leads to the log of its row. -/
theorem output?_logPath (hs : Sound site s) {j : Job} (hj : j ∈ s.jobs) {path : String}
    (h : output? j = some path) : path = logPath site j.id :=
  hs.paths j hj path (Option.filter_eq_some_iff.mp h).1

theorem listJobs_congr (h : view site s u = view site t u) (page perPage : Option Int) :
    listJobs s ⟨u, false⟩ page perPage = listJobs t ⟨u, false⟩ page perPage := by
  unfold listJobs selected
  rw [if_neg Bool.false_ne_true, if_neg Bool.false_ne_true, own_congr h]

theorem jobStatus_congr (h : view site s u = view site t u) (k : Nat) :
    jobStatus site s ⟨u, false⟩ k = jobStatus site t ⟨u, false⟩ k := by
  unfold jobStatus
  rcases getJobOr403_congr h k with ⟨code, es, et⟩ | ⟨j, -, es, et, -⟩ <;> rw [es, et]

theorem jobOutput_congr (hs : Sound site s) (h : view site s u = view site t u) (k : Nat)
    (tail : Option Int) : jobOutput s ⟨u, false⟩ k tail = jobOutput t ⟨u, false⟩ k tail := by
  unfold jobOutput
  rcases getJobOr403_congr h k with ⟨code, es, et⟩ | ⟨j, hj, es, et, hfile⟩
  · rw [es, et]
  · rw [es, et]
    cases hpath : output? j with
    | none => simp only [hpath]
    | some path =>
        obtain rfl := output?_logPath hs hj hpath
        simp only [hpath, hfile]

theorem detail_congr (hs : Sound site s) (h : view site s u = view site t u) (k : Nat) :
    detail s ⟨u, false⟩ k = detail t ⟨u, false⟩ k := by
  unfold detail
  rcases getJobOr403_congr h k with ⟨code, es, et⟩ | ⟨j, hj, es, et, hfile⟩
  · rw [es, et]
  · rw [es, et]
    show Response.detail j (loadOutputContent s j) = .detail j (loadOutputContent t j)
    unfold loadOutputContent
    cases hpath : output? j with
    | none => rfl
    | some path =>
        obtain rfl := output?_logPath hs hj hpath
        rw [Option.bind_some, Option.bind_some, hfile]

theorem download_congr (hs : Sound site s) (h : view site s u = view site t u) (k : Nat) :
    download s ⟨u, false⟩ k = download t ⟨u, false⟩ k := by
  unfold download
  rcases getJobOr403_congr h k with ⟨code, es, et⟩ | ⟨j, hj, es, et, hfile⟩
  · rw [es, et]
  · rw [es, et]
    cases hpath : output? j with
    | none => simp only [hpath]
    | some path =>
        obtain rfl := output?_logPath hs hj hpath
        simp only [hpath, hfile]

/-- **An answer without the statistics of the devices**, which count everybody's jobs. -/
def Response.told : Response → Response
  | .form flash page => .form flash { page with deviceStats := [] }
  | response => response

/-- What `cancel_job` answers the user. -/
theorem canceled_congr (h : view site s u = view site t u) (k : Nat) :
    (canceled s ⟨u, false⟩ k false).2 = (canceled t ⟨u, false⟩ k false).2 := by
  unfold canceled
  rcases get?_cases h k with ⟨hs, ht⟩ | ⟨i, j, hs, ht, hi, hj⟩ | ⟨j, hs, ht, -⟩
  · rw [hs, ht]
  · simp only [hs, ht, Jobs.cancelJob, hi, hj, ne_eq, not_false_eq_true, and_self, if_true]
  · rw [hs, ht]

end Reads

/-! ## 3. What the pages and the workers write -/

section Writes

variable {site : Site} {secureFilename : String → String} {now : Time} {s t : Board} {u : Nat}

/-- Change what the view says of one job. -/
def patch (k : Nat) (g : Job × Option (List UInt8) → Job × Option (List UInt8))
    (e : Nat × Option (Job × Option (List UInt8))) : Nat × Option (Job × Option (List UInt8)) :=
  if e.1 = k then (e.1, e.2.map g) else e

/-- **The view stays**, where a change leaves the user's own job as it is. -/
theorem patch_kept {k : Nat} {g : Job × Option (List UInt8) → Job × Option (List UInt8)}
    (h : owns s u k = true → ∀ j file, j.userId = u → g (j, file) = (j, file)) :
    (view site s u).map (patch k g) = view site s u := by
  refine (List.map_congr_left fun e he => ?_).trans (List.map_id _)
  obtain ⟨j, hj, rfl⟩ := List.mem_map.mp he
  unfold patch
  split
  · rename_i hid
    have hget : s.jobs.get? k = some j := Table.get?_eq_some.mpr ⟨hj, hid⟩
    by_cases hu : j.userId = u
    · have hown : owns s u k = true := by
        unfold owns
        rw [hget]
        exact beq_iff_eq.mpr hu
      simp only [shown, if_pos hu, Option.map_some, h hown j _ hu, id_eq]
    · simp only [shown, if_neg hu, Option.map_none, id_eq]
  · rfl

/-- **A change of a job of another leaves the view.** -/
theorem patch_foreign {k : Nat} {g : Job × Option (List UInt8) → Job × Option (List UInt8)}
    (h : owns s u k = false) : (view site s u).map (patch k g) = view site s u :=
  patch_kept fun hown => absurd hown (Bool.eq_false_iff.mp h)

/-- What a request or a worker makes of one row. -/
structure Rewrites (k : Nat) (g : Job → Job) (s s' : Board) : Prop where
  files : s'.files = s.files
  rows : s'.jobs.rows = s.jobs.rows.map (Table.atKey k g)
  id : ∀ j, (g j).id = j.id
  userId : ∀ j, (g j).userId = j.userId

/-- **A change of one row**, in the view. -/
theorem Rewrites.view {k : Nat} {g : Job → Job} {s' : Board} (h : Rewrites k g s s') :
    view site s' u = (Pages.view site s u).map (patch k fun x => (g x.1, x.2)) := by
  unfold Pages.view
  rw [h.rows, List.map_map, List.map_map]
  refine List.map_congr_left fun j _ => ?_
  simp only [Function.comp_apply, patch, shown, h.files]
  by_cases hk : j.id = k
  · rw [Table.atKey_self (k := k) (f := g) (r := j) hk, if_pos hk, h.id, h.userId]
    split <;> rfl
  · rw [Table.atKey_other (k := k) (f := g) (r := j) hk, if_neg hk]

theorem Rewrites.sound {k : Nat} {g : Job → Job} {s' : Board} (h : Rewrites k g s s')
    (hs : Sound site s)
    (hg : ∀ j p, (g j).outputPath = some p → j.outputPath = some p ∨ p = logPath site j.id) :
    Sound site s' := by
  have hrow : ∀ j' ∈ s'.jobs, ∃ j ∈ s.jobs, j' = Table.atKey k g j := by
    intro j' hj'
    rw [Table.mem_def, h.rows] at hj'
    obtain ⟨j, hj, e⟩ := List.mem_map.mp hj'
    exact ⟨j, hj, e.symm⟩
  have hid : ∀ j : Job, (Table.atKey k g j).id = j.id := Table.atKey_key g h.id
  refine ⟨fun j' hj' p hp => ?_, fun n hn => ?_⟩
  · obtain ⟨j, hj, rfl⟩ := hrow j' hj'
    rw [hid j]
    unfold Table.atKey at hp
    split at hp
    · rcases hg j p hp with hold | hnew
      · exact hs.paths j hj p hold
      · exact hnew
    · exact hs.paths j hj p hp
  · rw [h.files]
    refine hs.logs n (Table.get?_eq_none.mpr fun j hj hjn => ?_)
    have hmem : Table.atKey k g j ∈ s'.jobs := by
      rw [Table.mem_def, h.rows]
      exact List.mem_map_of_mem hj
    exact Table.get?_eq_none.mp hn _ hmem ((hid j).trans hjn)

/-- What a call of `cancel_job` leaves of the row it names. -/
def canceledRow (who : Account) (isAdmin : Bool) (j : Job) : Job :=
  match (Jobs.cancelJob (some j) who.id isAdmin).1 with
  | some obj => ormFlush j obj j
  | none => j

theorem canceled_rewrites (who : Account) (k : Nat) (isAdmin : Bool) :
    Rewrites k (canceledRow who isAdmin) s (canceled s who k isAdmin).1 := by
  have hkeep : ∀ j, (canceledRow who isAdmin j).id = j.id ∧
      (canceledRow who isAdmin j).userId = j.userId := by
    intro j
    unfold canceledRow
    split <;> exact ⟨rfl, rfl⟩
  refine ⟨rfl, ?_, fun j => (hkeep j).1, fun j => (hkeep j).2⟩
  show s.jobs.rows.map (cancelRow _) = _
  refine List.map_congr_left fun j hj => ?_
  by_cases hk : j.id = k
  · have hget : s.jobs.get? k = some j := Table.get?_eq_some.mpr ⟨hj, hk⟩
    rw [Table.atKey_self hk, canceledRow, hget]
    cases (Jobs.cancelJob (some j) who.id isAdmin).1 with
    | none => rfl
    | some obj => simp [addDirty, cancelRow]
  · rw [Table.atKey_other hk]
    cases hget : s.jobs.get? k with
    | none => rfl
    | some i =>
        have hi : i.id ≠ j.id := fun e => hk (e ▸ (Table.get?_eq_some.mp hget).2)
        cases (Jobs.cancelJob (some i) who.id isAdmin).1 with
        | none => rfl
        | some obj =>
            simp [addDirty, cancelRow, beq_eq_false_iff_ne.mpr hi]

/-- A cancel of another user's job by one who is no administrator writes nothing. -/
theorem canceledRow_foreign {who : Account} {j : Job} (h : j.userId ≠ who.id) :
    canceledRow who false j = j := by
  simp only [canceledRow, Jobs.cancelJob, h, ne_eq, not_false_eq_true, and_self, if_true]

/-- The output path stays. -/
theorem canceledRow_outputPath (who : Account) (isAdmin : Bool) (j : Job) :
    (canceledRow who isAdmin j).outputPath = j.outputPath := by
  unfold canceledRow
  split
  · rename_i obj hobj
    obtain ⟨i, hi, rfl, -, -⟩ := cancelJob_some hobj
    cases hi
    refine flushCol_same ?_
    unfold withCancel
    split <;> rfl
  · rfl

theorem worked_rewrites (k : Nat) (w : Work) :
    Rewrites k (w.write site) s (s.worked site k w) :=
  ⟨rfl, rfl, fun _ => rfl, fun _ => rfl⟩

/-- **A piece of output**, in the view. -/
theorem view_wrote (k : Nat) (piece : List UInt8) :
    view site (s.wrote site k piece) u =
      (view site s u).map (patch k fun x => (x.1, some (x.2.getD [] ++ piece))) := by
  unfold Board.wrote
  cases hget : s.jobs.get? k with
  | none =>
      have hno : owns s u k = false := by
        unfold owns
        rw [hget]
        rfl
      exact (patch_foreign hno).symm
  | some i =>
      unfold view
      rw [List.map_map]
      refine List.map_congr_left fun j _ => ?_
      simp only [Function.comp_apply, patch, shown]
      by_cases hk : j.id = k
      · subst hk
        rw [Function.update_self]
        split <;> simp
      · have hpath : logPath site j.id ≠ logPath site k := fun e => hk (logPath_inj e)
        rw [Function.update_of_ne hpath, if_neg hk]

theorem sound_wrote (hs : Sound site s) (k : Nat) (piece : List UInt8) :
    Sound site (s.wrote site k piece) := by
  unfold Board.wrote
  cases hget : s.jobs.get? k with
  | none => exact hs
  | some i =>
      refine ⟨hs.paths, fun n hn => ?_⟩
      have hpath : logPath site n ≠ logPath site k := by
        intro e
        rw [logPath_inj e, hget] at hn
        cases hn
      show Function.update s.files _ _ _ = none
      rw [Function.update_of_ne hpath]
      exact hs.logs n hn

/-- A new row, in the view: the store gives it an id that has no log. -/
theorem view_insert (hs : Sound site s) {j : Job} (hj : j.id = s.jobs.nextKey) :
    view site { s with jobs := s.jobs.insert j } u =
      view site s u ++ [(j.id, if j.userId = u then some (j, none) else none)] := by
  have hnew : ∀ q ∈ s.jobs, key q ≠ key j := fun q hq => by
    rw [key_job j, hj]
    exact (Table.key_lt_nextKey hq).ne
  have hlog : s.files (logPath site j.id) = none := by
    rw [hj]
    exact hs.logs _ Table.get?_nextKey
  unfold view
  rw [Table.insert_rows hnew, List.map_append]
  simp only [List.map_cons, List.map_nil, shown, hlog]

theorem sound_insert (hs : Sound site s) {j : Job} (hj : j.id = s.jobs.nextKey)
    (hout : j.outputPath = none) : Sound site { s with jobs := s.jobs.insert j } := by
  have hnone : s.jobs.get? (key j) = none := by
    rw [key_job j, hj]
    exact Table.get?_nextKey
  refine ⟨fun i hi p hp => ?_, fun n hn => ?_⟩
  · rcases Table.mem_insert hi with hi | rfl
    · exact hs.paths i hi p hp
    · rw [hout] at hp
      cases hp
  · refine hs.logs n ?_
    have hget : (s.jobs.insert j).get? n = none := hn
    rw [Table.get?_insert hnone] at hget
    split at hget
    · cases hget
    · exact hget

end Writes

/-! ## 4. Submissions -/

section Submissions

variable (site : Site) (secureFilename : String → String) (now : Time) (who : Account)
  (form : Creation.CreateArgs)

/-- The row a submission gets, with the id the store gives it. -/
def submitted (id : Nat) : Job :=
  let c := createArgs who form
  let e := calm secureFilename now
  { Creation.flushedRow e c id with
    storedFilename := some (storedName id (Creation.safeName e c))
    fileSizeBytes := some c.content.length }

/-- What `create_job` refuses a submission for. -/
def refused (jobs : Table Job) : Option Creation.CreateError :=
  let c := createArgs who form
  let e := calm secureFilename now
  match Creation.deviceRefusal site e c with
  | some error => some error
  | none =>
    match Creation.submissionRefusal site e c jobs with
    | some error => some error
    | none => if Creation.newlineModeAllowed c = false then some .databaseError else none

variable {site secureFilename now who form}

/-- **A submission is refused, or its row is added.** -/
theorem created_eq {b : Board} :
    created site secureFilename now b who form =
      match refused site secureFilename now who form b.jobs with
      | some error => (.error error, b.jobs)
      | none =>
        let job := submitted secureFilename now who form b.jobs.nextKey
        (.ok job, b.jobs.insert job) := by
  have hquiet : Creation.flushRaises (calm secureFilename now)
      ⟨b.jobs, none, fun _ => false, fun _ => none⟩ = false := rfl
  unfold created refused
  cases hdevice : Creation.deviceRefusal site (calm secureFilename now) (createArgs who form) with
  | some error =>
      simp only [Creation.createJob_device hquiet hdevice, hdevice]
      rfl
  | none =>
      have hclear : Creation.Clear site (calm secureFilename now) (createArgs who form)
          ⟨b.jobs, none, fun _ => false, fun _ => none⟩ := ⟨hquiet, hdevice, rfl⟩
      cases hsub : Creation.submissionRefusal site (calm secureFilename now)
          (createArgs who form) b.jobs with
      | some error =>
          simp only [Creation.createJob_refused hclear rfl hsub, hdevice, hsub]
          rfl
      | none =>
          simp only [Creation.createJob_admitted hclear rfl hsub, hdevice, hsub]
          cases hmode : Creation.newlineModeAllowed (createArgs who form) with
          | false => simp [Creation.storeJob, Creation.flushes, calm, hmode]; rfl
          | true =>
              have hstores : Creation.Stores (calm secureFilename now) (createArgs who form) :=
                ⟨hmode, rfl, rfl, rfl, rfl⟩
              rw [Creation.storeJob_stores hstores]
              rfl

/-- The limits look at the user's own jobs. -/
theorem getUserQuota_congr {s t : Board} (h : view site s who.id = view site t who.id) {user : User}
    (hu : user.id = who.id) :
    getUserQuota site s.jobs user = getUserQuota site t.jobs user := by
  unfold getUserQuota
  rw [count_congr h fun j hj => (Job.pending_iff.mp hj).1.trans hu]

theorem checkRateLimit_congr {s t : Board} (h : view site s who.id = view site t who.id) :
    checkRateLimit site now s.jobs who.id = checkRateLimit site now t.jobs who.id := by
  unfold checkRateLimit
  rw [count_congr h fun j hj => ?_]
  unfold Job.createdSince at hj
  rw [Bool.and_eq_true, beq_iff_eq] at hj
  exact hj.1

/-- **The form, the statistics apart**, is made of the user's own jobs. -/
theorem newPage_congr {s t : Board} (h : view site s who.id = view site t who.id) {user : User}
    (hu : user.id = who.id) (flash : Option String) :
    (Response.form flash (newPage site s now user)).told =
      (Response.form flash (newPage site t now user)).told := by
  unfold Response.told newPage
  rw [getUserQuota_congr h hu, hu, checkRateLimit_congr h, own_congr h]

theorem refused_congr {s t : Board} (h : view site s who.id = view site t who.id) :
    refused site secureFilename now who form s.jobs =
      refused site secureFilename now who form t.jobs := by
  have hsub : Creation.submissionRefusal site (calm secureFilename now) (createArgs who form)
      s.jobs = Creation.submissionRefusal site (calm secureFilename now) (createArgs who form)
      t.jobs := by
    have hid : (createArgs who form).userId = who.id := rfl
    have hnow : (calm secureFilename now).now = now := rfl
    unfold Creation.submissionRefusal
    rw [hid, hnow, checkRateLimit_congr h]
    cases huser : site.users.get? who.id with
    | none => rfl
    | some user =>
        have hu : user.id = who.id := (Table.get?_eq_some.mp huser).2
        simp only [getUserQuota_congr h hu]
  simp only [refused, hsub]

end Submissions

/-! ## 5. One event -/

/-- The row a request may write by `cancel_job`, and whether as an administrator. -/
def cancels (who : Account) (r : PageRequest) : Option (Nat × Bool) :=
  if r.jobId?.any (fun k => !bindable k) then none
  else
    match r with
    | .cancelJob k => some (k, who.isAdmin)
    | .adminCancelJob k => if who.isAdmin = true then some (k, true) else none
    | .cancel k => some (k, false)
    | _ => none

section Observer

variable (site : Site) (secureFilename : String → String) (u : Nat)

/-- What an event answers the user, the statistics apart. -/
def answer (b : Board) : Event → Option Response
  | .request now who r =>
    if who = ⟨u, false⟩ then some (respond site secureFilename now b who r).1.told else none
  | .work _ _ | .output _ _ | .taken _ => none

/-- **The pages, as one user sees them.** -/
def pages : Machine Board Event Response :=
  ⟨Event.next site secureFilename, answer site secureFilename u⟩

/-- **What an event leaves for a user.** -/
def residue (b : Board) : Event → Option Event
  | .request now who r =>
    if who.id = u then some (.request now who r)
    else
      match r with
      | .new form =>
        match (new site secureFilename now b who form).1 with
        | .flashDetail _ _ => some (.taken who.id)
        | _ => none
      | r =>
        match cancels who r with
        | some (k, true) => if owns b u k = true then some (.request now who r) else none
        | _ => none
  | .work k w => if owns b u k = true then some (.work k w) else none
  | .output k piece => if owns b u k = true then some (.output k piece) else none
  | .taken userId => some (.taken userId)

end Observer

section Step

variable {site : Site} {secureFilename : String → String} {now : Time} {who : Account} {u : Nat}
  {b s t : Board}

/-- The answer of the API to what `cancel_job` answers. -/
def cancelOutcome (answer : Bool × String) : Response :=
  if answer.1 then .outcome true answer.2 200
  else .outcome false answer.2 (if answer.2 = "Job not found" then 404 else 400)

/-- The answer of the page. -/
def cancelPage (k : Nat) (answer : Bool × String) : Response :=
  if answer.1 = false ∧ answer.2 = "Not authorized" then .abort 403 else .flashDetail answer.2 k

theorem cancelJob_eq (k : Nat) : cancelJob b who k =
    (cancelOutcome (canceled b who k who.isAdmin).2, (canceled b who k who.isAdmin).1) := by
  rcases h : canceled b who k who.isAdmin with ⟨b', success, message⟩
  unfold cancelJob cancelOutcome
  rw [h]
  cases success <;> rfl

theorem cancel_eq (k : Nat) : cancel b who k =
    (cancelPage k (canceled b who k false).2, (canceled b who k false).1) := by
  rcases h : canceled b who k false with ⟨b', success, message⟩
  unfold cancel cancelPage
  rw [h]
  by_cases hc : success = false ∧ message = "Not authorized"
  · simp only [if_pos hc]
  · simp only [if_neg hc]

/-- **What a request commits**, but for a submission. -/
theorem respond_board {r : PageRequest} (hnew : ∀ form, r ≠ .new form) :
    (respond site secureFilename now b who r).2 =
      match cancels who r with
      | some (k, isAdmin) => (canceled b who k isAdmin).1
      | none => b := by
  unfold respond cancels
  split
  · rfl
  · cases r with
    | cancelJob k => exact congrArg Prod.snd (cancelJob_eq k)
    | cancel k => exact congrArg Prod.snd (cancel_eq k)
    | adminCancelJob k =>
        unfold adminCancelJob
        cases who.isAdmin <;> rfl
    | new form => exact absurd rfl (hnew form)
    | listJobs | jobStatus | jobOutput | detail | download | newForm => rfl

theorem view_respond {r : PageRequest} (hnew : ∀ form, r ≠ .new form) :
    view site (respond site secureFilename now b who r).2 u =
      match cancels who r with
      | some (k, isAdmin) =>
        (view site b u).map (patch k fun x => (canceledRow who isAdmin x.1, x.2))
      | none => view site b u := by
  rw [respond_board hnew]
  cases cancels who r with
  | none => rfl
  | some c => exact (canceled_rewrites who c.1 c.2).view

/-- **A submission**: it is refused and nothing is written, or its row is added. -/
theorem new_cases (now : Time) (who : Account) (form : Creation.CreateArgs) :
    (∃ response, new site secureFilename now b who form = (response, b) ∧
      ∀ message k, response ≠ .flashDetail message k) ∨
    new site secureFilename now b who form =
      (.flashDetail s!"Job #{b.jobs.nextKey} submitted successfully." b.jobs.nextKey,
        { b with
          jobs := b.jobs.insert (submitted secureFilename now who form b.jobs.nextKey) }) := by
  unfold new
  cases site.users.get? who.id with
  | none => exact .inl ⟨_, rfl, fun _ _ => nofun⟩
  | some user =>
      simp only
      split
      · exact .inl ⟨_, rfl, fun _ _ => nofun⟩
      · split
        · exact .inl ⟨_, rfl, fun _ _ => nofun⟩
        · rw [created_eq]
          cases refused site secureFilename now who form b.jobs with
          | none => exact .inr rfl
          | some error =>
              refine .inl ?_
              cases error <;> exact ⟨_, rfl, fun _ _ => nofun⟩

/-- The same submission of the user in two states that look the same: refused with one answer, the
    statistics apart, or its row is added to both. -/
theorem new_congr (now : Time) (who : Account) (h : view site s who.id = view site t who.id)
    (form : Creation.CreateArgs) :
    (∃ response response', response.told = response'.told ∧
      new site secureFilename now s who form = (response, s) ∧
      new site secureFilename now t who form = (response', t)) ∨
    ∃ response job, job.id = s.jobs.nextKey ∧
      new site secureFilename now s who form =
        (response, { s with jobs := s.jobs.insert job }) ∧
      new site secureFilename now t who form =
        (response, { t with jobs := t.jobs.insert job }) := by
  unfold new
  cases huser : site.users.get? who.id with
  | none => exact .inl ⟨_, _, rfl, rfl, rfl⟩
  | some user =>
      have hu : user.id = who.id := (Table.get?_eq_some.mp huser).2
      have hpage : ∀ flash, (Response.form flash (newPage site s now user)).told =
          (Response.form flash (newPage site t now user)).told := newPage_congr h hu
      simp only [checkRateLimit_congr h, getUserQuota_congr h hu]
      split
      · exact .inl ⟨_, _, hpage _, rfl, rfl⟩
      · split
        · exact .inl ⟨_, _, hpage _, rfl, rfl⟩
        · rw [created_eq, created_eq, refused_congr h, nextKey_congr h]
          cases refused site secureFilename now who form t.jobs with
          | none =>
              exact .inr ⟨_, submitted secureFilename now who form t.jobs.nextKey, rfl, rfl, rfl⟩
          | some error =>
              cases error with
              | valueError message => exact .inl ⟨_, _, hpage _, rfl, rfl⟩
              | _ => exact .inl ⟨_, _, rfl, rfl, rfl⟩

/-- **What a request answers the user.** -/
theorem respond_congr (hs : Sound site s) (h : view site s u = view site t u) (r : PageRequest) :
    (respond site secureFilename now s ⟨u, false⟩ r).1.told =
      (respond site secureFilename now t ⟨u, false⟩ r).1.told := by
  unfold respond
  split
  · rfl
  · cases r with
    | listJobs page perPage => exact congrArg Response.told (listJobs_congr h page perPage)
    | jobStatus k => exact congrArg Response.told (jobStatus_congr h k)
    | jobOutput k tail => exact congrArg Response.told (jobOutput_congr hs h k tail)
    | detail k => exact congrArg Response.told (detail_congr hs h k)
    | download k => exact congrArg Response.told (download_congr hs h k)
    | cancelJob k =>
        show (cancelJob s ⟨u, false⟩ k).1.told = (cancelJob t ⟨u, false⟩ k).1.told
        rw [cancelJob_eq, cancelJob_eq, canceled_congr h]
    | adminCancelJob k => rfl
    | cancel k =>
        show (cancel s ⟨u, false⟩ k).1.told = (cancel t ⟨u, false⟩ k).1.told
        rw [cancel_eq, cancel_eq, canceled_congr h]
    | newForm =>
        show (newForm site s ⟨u, false⟩ now).told = (newForm site t ⟨u, false⟩ now).told
        unfold newForm
        cases huser : site.users.get? u with
        | none => rfl
        | some user =>
            have h' : view site s (⟨u, false⟩ : Account).id =
                view site t (⟨u, false⟩ : Account).id := h
            exact newPage_congr h' (Table.get?_eq_some.mp huser).2 none
    | new form =>
        show (new site secureFilename now s ⟨u, false⟩ form).1.told =
          (new site secureFilename now t ⟨u, false⟩ form).1.told
        rcases new_congr now ⟨u, false⟩ h form with
          ⟨response, response', hsame, es, et⟩ | ⟨response, job, -, es, et⟩
        · rw [es, et]
          exact hsame
        · rw [es, et]

/-- What a request leaves that is no submission. -/
theorem residue_request {r : PageRequest} (hu : who.id ≠ u) (hnew : ∀ form, r ≠ .new form) :
    residue site secureFilename u s (.request now who r) =
      match cancels who r with
      | some (k, true) => if owns s u k = true then some (.request now who r) else none
      | _ => none := by
  cases r with
  | new form => exact absurd rfl (hnew form)
  | listJobs | jobStatus | jobOutput | detail | download | cancelJob | adminCancelJob | cancel
  | newForm => simp only [residue, if_neg hu]

/-- A request of another, where it leaves nothing, leaves the view. -/
theorem view_silent {r : PageRequest} (hu : who.id ≠ u)
    (h : residue site secureFilename u s (.request now who r) = none) :
    view site (respond site secureFilename now s who r).2 u = view site s u := by
  by_cases hnew : ∃ form, r = .new form
  · obtain ⟨form, rfl⟩ := hnew
    simp only [residue, if_neg hu] at h
    show view site (new site secureFilename now s who form).2 u = _
    rcases new_cases now who form with ⟨response, e, -⟩ | e
    · rw [e]
    · simp only [e] at h
      cases h
  · have hno : ∀ form, r ≠ .new form := fun form e => hnew ⟨form, e⟩
    rw [residue_request hu hno] at h
    rw [view_respond hno]
    cases hc : cancels who r with
    | none => rfl
    | some c =>
        obtain ⟨k, isAdmin⟩ := c
        cases isAdmin with
        | true =>
            refine patch_foreign (Bool.eq_false_iff.mpr fun hown => ?_)
            simp only [hc, hown, if_true] at h
            cases h
        | false =>
            refine patch_kept fun _ j file hj => ?_
            have hforeign : j.userId ≠ who.id := fun e => hu (e.symm.trans hj)
            simp only [canceledRow_foreign hforeign]

/-- A submission of another leaves the id it takes. -/
theorem view_taken (hs : Sound site s) (ht : Sound site t) (h : view site s u = view site t u)
    {form : Creation.CreateArgs} (hu : who.id ≠ u) {e' : Event}
    (he : residue site secureFilename u s (.request now who (.new form)) = some e') :
    e' = .taken who.id ∧ view site (new site secureFilename now s who form).2 u =
      view site (Event.next site secureFilename t (.taken who.id)) u := by
  simp only [residue, if_neg hu] at he
  rcases new_cases now who form with ⟨response, e, hno⟩ | e
  · rw [e] at he
    cases response with
    | flashDetail message k => exact absurd rfl (hno message k)
    | jobs | status | lines | detail | attachment | outcome | error | abort | flashDashboard
    | form | raised => cases he
  · rw [e] at he
    refine ⟨(Option.some.inj he).symm, ?_⟩
    rw [e]
    show view site { s with jobs := s.jobs.insert _ } u =
      view site { t with jobs := t.jobs.insert (blankJob t.jobs.nextKey who.id) } u
    rw [view_insert hs rfl, view_insert ht rfl, h, nextKey_congr h]
    have hsub : ∀ id, (submitted secureFilename now who form id).userId ≠ u := fun _ => hu
    have hblank : ∀ id, (blankJob id who.id).userId ≠ u := fun _ => hu
    rw [if_neg (hsub _), if_neg (hblank _)]
    rfl

theorem sound_respond (hs : Sound site s) (r : PageRequest) :
    Sound site (respond site secureFilename now s who r).2 := by
  by_cases hnew : ∃ form, r = .new form
  · obtain ⟨form, rfl⟩ := hnew
    show Sound site (new site secureFilename now s who form).2
    rcases new_cases now who form with ⟨response, e, -⟩ | e
    · rw [e]
      exact hs
    · rw [e]
      exact sound_insert hs rfl rfl
  · rw [respond_board fun form e => hnew ⟨form, e⟩]
    cases cancels who r with
    | none => exact hs
    | some c =>
        refine (canceled_rewrites who c.1 c.2).sound hs fun j p hp => .inl ?_
        rwa [canceledRow_outputPath] at hp

theorem sound_next (hs : Sound site s) (e : Event) :
    Sound site (Event.next site secureFilename s e) := by
  cases e with
  | request now who r => exact sound_respond hs r
  | work k w =>
      refine (worked_rewrites k w).sound hs fun j p hp => ?_
      unfold Work.write at hp
      simp only at hp
      split at hp
      · exact .inr (Option.some.inj hp).symm
      · exact .inl hp
  | output k piece => exact sound_wrote hs k piece
  | taken userId => exact sound_insert hs rfl rfl

/-- **What an event leaves is the event**, but for a submission of another. -/
theorem residue_cases {e e' : Event} (h : residue site secureFilename u s e = some e') :
    e' = e ∨ ∃ now who form, e = .request now who (.new form) ∧ who.id ≠ u := by
  cases e with
  | request now who r =>
      by_cases hu : who.id = u
      · simp only [residue, if_pos hu] at h
        exact .inl (Option.some.inj h).symm
      · by_cases hnew : ∃ form, r = .new form
        · obtain ⟨form, rfl⟩ := hnew
          exact .inr ⟨now, who, form, rfl, hu⟩
        · rw [residue_request hu fun form e => hnew ⟨form, e⟩] at h
          split at h
          · exact .inl (Option.some.inj (Option.ite_none_right_eq_some.mp h).2).symm
          · cases h
  | work k w => exact .inl (Option.some.inj (Option.ite_none_right_eq_some.mp h).2).symm
  | output k piece => exact .inl (Option.some.inj (Option.ite_none_right_eq_some.mp h).2).symm
  | taken userId => exact .inl (Option.some.inj h).symm

/-- **One event in two states that look the same**, no submission of another: the user is answered
    the same, and they look the same after it. -/
theorem next_congr (hs : Sound site s) (ht : Sound site t) (h : view site s u = view site t u)
    {e : Event} (hown : ∀ now who form, e = .request now who (.new form) → who.id = u) :
    answer site secureFilename u s e = answer site secureFilename u t e ∧
      view site (e.next site secureFilename s) u = view site (e.next site secureFilename t) u := by
  cases e with
  | request now who r =>
      constructor
      · unfold answer
        simp only
        split
        · rename_i hwho
          rw [hwho, respond_congr hs h]
        · rfl
      · show view site (respond site secureFilename now s who r).2 u =
          view site (respond site secureFilename now t who r).2 u
        by_cases hnew : ∃ form, r = .new form
        · obtain ⟨form, rfl⟩ := hnew
          obtain rfl := hown now who form rfl
          show view site (new site secureFilename now s who form).2 who.id =
            view site (new site secureFilename now t who form).2 who.id
          rcases new_congr now who h form with
            ⟨response, response', -, es, et⟩ | ⟨response, job, hid, es, et⟩
          · rw [es, et]
            exact h
          · rw [es, et]
            show view site { s with jobs := s.jobs.insert job } who.id =
              view site { t with jobs := t.jobs.insert job } who.id
            rw [view_insert hs hid, view_insert ht (hid.trans (nextKey_congr h)), h]
        · have hno : ∀ form, r ≠ .new form := fun form e => hnew ⟨form, e⟩
          rw [view_respond hno, view_respond hno, h]
  | work k w =>
      refine ⟨rfl, ?_⟩
      show view site (s.worked site k w) u = view site (t.worked site k w) u
      rw [(worked_rewrites k w).view, (worked_rewrites k w).view, h]
  | output k piece =>
      refine ⟨rfl, ?_⟩
      show view site (s.wrote site k piece) u = view site (t.wrote site k piece) u
      rw [view_wrote, view_wrote, h]
  | taken userId =>
      refine ⟨rfl, ?_⟩
      show view site { s with jobs := s.jobs.insert (blankJob s.jobs.nextKey userId) } u =
        view site { t with jobs := t.jobs.insert (blankJob t.jobs.nextKey userId) } u
      rw [view_insert hs rfl, view_insert ht rfl, h, nextKey_congr h]

/-- **ONE EVENT**: what leaves nothing answers and changes nothing of the user's, and what leaves an
    event answers and does what that event does. -/
theorem unwinding : Unwinding (pages site secureFilename u) (residue site secureFilename u)
    (Sound site) fun s t => view site s u = view site t u where
  keeps _ e hs := sound_next hs e
  silent s t e hs h hr := by
    have hforeign : ∀ k (e' : Event), (if owns s u k = true then some e' else none) = none →
        owns s u k = false := by
      intro k e' hnone
      rw [ite_eq_right_iff] at hnone
      exact Bool.eq_false_iff.mpr fun hown => nomatch hnone hown
    cases e with
    | request now who r =>
        have hu : who.id ≠ u := by
          intro hu
          simp only [residue, if_pos hu] at hr
          cases hr
        have hwho : who ≠ ⟨u, false⟩ := fun e => hu (congrArg Account.id e)
        exact ⟨if_neg hwho, (view_silent hu hr).trans h⟩
    | work k w =>
        exact ⟨rfl, ((worked_rewrites k w).view.trans (patch_foreign (hforeign k _ hr))).trans h⟩
    | output k piece =>
        exact ⟨rfl, ((view_wrote k piece).trans (patch_foreign (hforeign k _ hr))).trans h⟩
    | taken userId => cases hr
  heard s t e e' hs ht h hr := by
    by_cases hsub : ∃ now who form, e = .request now who (.new form) ∧ who.id ≠ u
    · obtain ⟨now, who, form, rfl, hu⟩ := hsub
      obtain ⟨rfl, hview⟩ := view_taken hs ht h hu hr
      have hwho : who ≠ ⟨u, false⟩ := fun e => hu (congrArg Account.id e)
      exact ⟨if_neg hwho, hview⟩
    · obtain rfl := (residue_cases hr).resolve_right hsub
      refine next_congr hs ht h fun now who form e => ?_
      exact Classical.byContradiction fun hu => hsub ⟨now, who, form, e, hu⟩

end Step

/-! ## 6. Every history -/

/-- **THE PAGES TELL A USER OF NOBODY ELSE'S JOBS**, the statistics of the devices apart: along
    every history of requests, commits of workers and output, a user who is no administrator is
    answered as if of the rest only the ids had been taken. -/
theorem answers_residues {site : Site} {secureFilename : String → String} {u : Nat} {b : Board}
    (h : Sound site b) (es : List Event) :
    (pages site secureFilename u).answers b es =
      (pages site secureFilename u).answers b
        ((pages site secureFilename u).residues (residue site secureFilename u) b es) :=
  (unwinding.reads h h rfl es).1

/-- A job of user 2, and one of user 1. -/
def smallBoard : Board where
  jobs := (Table.empty.insert
    (newJob { smallSubmission with userId := 2 } 0 1 "job-1/a.hex" 8)).insert
      (newJob smallSubmission 0 2 "job-2/hello.hex" 64)
  files _ := none

-- The statistics tell user 1 of the job of user 2.
example : (view smallSite.toSite smallBoard 1 =
      view smallSite.toSite (smallBoard.worked smallSite.toSite 1
        (Work.of { newJob smallSubmission 0 1 "" 0 with status := .running } true)) 1) ∧
    getDeviceStats smallSite.toSite smallBoard ≠
      getDeviceStats smallSite.toSite (smallBoard.worked smallSite.toSite 1
        (Work.of { newJob smallSubmission 0 1 "" 0 with status := .running } true)) :=
  ⟨by decide +kernel, by decide +kernel⟩

/-- The first job runs and is cancelled, while user 1 looks at the pages. -/
def smallHistory : List Event :=
  [.work 1 (Work.of { newJob smallSubmission 0 1 "" 0 with status := .running } true),
    .output 1 [0x48, 0x49], .request 0 ⟨2, false⟩ (.cancelJob 1),
    .request 0 ⟨7, true⟩ (.cancelJob 1),
    .request 0 ⟨1, false⟩ (.listJobs none none), .request 0 ⟨1, false⟩ (.detail 1),
    .request 0 ⟨1, false⟩ (.jobStatus 2), .request 0 ⟨1, false⟩ .newForm]

/-- Of the eight events the four of user 1 are left, and are answered as before. -/
theorem answers_residues_small :
    ((pages smallSite.toSite id 1).residues (residue smallSite.toSite id 1) smallBoard
      smallHistory).length = 4 ∧
    (pages smallSite.toSite id 1).answers smallBoard smallHistory =
      (pages smallSite.toSite id 1).answers smallBoard
        ((pages smallSite.toSite id 1).residues (residue smallSite.toSite id 1) smallBoard
          smallHistory) := by
  refine ⟨by decide +kernel, answers_residues ⟨fun j hj p hp => ?_, fun _ _ => rfl⟩ _⟩
  have hno : ∀ i ∈ smallBoard.jobs.rows, i.outputPath = none := by decide
  rw [hno j hj] at hp
  cases hp

end RetroBridge.Jobs.Pages
