/-
  File:      RetroBridge/Jobs/Uploads.lean
  Subject:   THE UPLOAD OF EVERY PENDING JOB, while rows are deleted and their ids are given again.

  * `UploadsThere` -- every queued or running row names its upload, which holds what was uploaded;
  * `sparesUploads` -- the steps that remove no directory of a pending row, or of one that is about
    to be committed;
  * `UploadsKept` -- the invariant: beside the property, the upload of the row a request has saved
    is there;
  * `uploads_run` -- **in a run of such steps every pending job keeps its upload**;
  * `upload_removed` -- a user is deleted, the job's id is given to another user's job, and then the
    directory is removed.
-/
import RetroBridge.Jobs.Storage

namespace RetroBridge.Jobs

open Relational Ordered Transition Paths

/-! ## 1. The property -/

/-- **Every pending row has its upload**, under its own id. -/
def UploadsThere (s : Storage) : Prop :=
  ∀ j ∈ s.sys.jobs, j.status = .queued ∨ j.status = .running →
    ∃ name, j.storedFilename = some (storedName j.id name) ∧
      s.uploads (storedName j.id name) = some (s.uploaded j.id)

/-- The row of the request that holds the write lock, flushed and not committed yet. -/
def Storage.saved? (s : Storage) : Option Job :=
  s.sys.writer.bind fun r =>
    match s.sys.request r with
    | .flushed job => some job
    | _ => none

/-- The row's upload is in a directory. -/
def Job.uploadIn (dir : String) (j : Job) : Bool := j.storedFilename.any (parent · == dir)

/-- The removals that spare the uploads of the rows that are pending or about to be. -/
def sparesUploads (s : Storage) : StoreAct → Bool
  | .goOn d =>
    match s.deletion d with
    | .removing (.uploads dir :: _) =>
      (s.sys.jobs.rows.all fun j => j.status.finished || !j.uploadIn dir) &&
        s.saved?.all fun job => !job.uploadIn dir
    | _ => true
  | _ => true

/-! ## 2. The invariant -/

/-- **What keeps the uploads there.** -/
structure UploadsKept (s : Storage) : Prop where
  ok : StoreOk s
  there : UploadsThere s
  saved : ∀ r job, s.sys.request r = .flushed job →
    ∃ name, job.storedFilename = some (storedName job.id name) ∧
      s.uploads (storedName job.id name) = some (s.carried r)

section Steps

variable {s s' : Storage}

theorem pending_iff_unfinished {st : JobStatus} :
    st = .queued ∨ st = .running ↔ st.finished = false := by
  cases st <;> simp [JobStatus.finished]

/-- The removal of a directory leaves the files elsewhere. -/
theorem uploads_removeDir {dir : Removal} {f : String}
    (h : ∀ d, dir = .uploads d → parent f ≠ d) : (s.removeDir dir).uploads f = s.uploads f := by
  cases dir with
  | uploads d =>
      simp only [Storage.removeDir, if_neg (h d rfl)]
  | outputs d => rfl

/-- **A row that an act of the queue leaves** has the upload it had. -/
theorem UploadsKept.queue (h : UploadsKept s) {now : Time} {a : Act} {sys : Sys}
    (hs : Step s.site s.sys (now, a) sys) : UploadsThere (s.after sys a) := by
  obtain ⟨-, he⟩ := hs.effect
  intro row' hrow' hpending
  rw [Storage.after_sys] at hrow'
  rw [Storage.after_uploads]
  rcases effect_mem he hrow' with ⟨row, hrow, rfl⟩ | ⟨r, rfl, hr⟩
  · have hch := effect_change (h.ok.recalls.at now) he hrow
    have hwas : row.status = .queued ∨ row.status = .running :=
      pending_iff_unfinished.mpr (hch.unfinished (pending_iff_unfinished.mp hpending))
    obtain ⟨name, hname, hfile⟩ := h.there row hrow hwas
    refine ⟨name, ?_, ?_⟩
    · rw [hch.file.1, rowWrite_id]
      exact hname
    · rw [rowWrite_id, hfile]
      by_cases hc : ∃ r job, a = .request r .createCommit ∧ s.sys.request r = .flushed job
      · obtain ⟨r, job, rfl, hr⟩ := hc
        have hne : row.id ≠ job.id := by
          rw [h.ok.next r job hr]
          exact (Table.key_lt_nextKey hrow).ne
        rw [s.after_create sys hr]
        exact congrArg some (Function.update_of_ne hne _ _).symm
      · have hother := (s.after_other sys fun r job ha hr => hc ⟨r, job, ha, hr⟩).2
        rw [hother]
  · have hr' : s.sys.request r = .flushed row' := hr
    obtain ⟨name, hname, hfile⟩ := h.saved r row' hr'
    refine ⟨name, hname, ?_⟩
    rw [s.after_create sys hr', hfile]
    exact congrArg some (Function.update_self row'.id (s.carried r) s.uploaded).symm

/-- **What a save adds** is under an id that no row has. -/
theorem UploadsKept.save (h : UploadsKept s) {now : Time} {r : Nat} {bytes : List UInt8}
    {sub : Submission} {sys : Sys} (hr : s.sys.request r = .checked sub)
    (hs : Step s.site s.sys (now, .request r (.createFlush
      (storedName s.sys.jobs.nextKey sub.safeName) bytes.length)) sys) :
    UploadsKept { s with
      sys := sys
      uploads := Function.update s.uploads (storedName s.sys.jobs.nextKey sub.safeName) (some bytes)
      carried := Function.update s.carried r bytes } := by
  have hjobs := jobs_flush h.ok.recalls hr hs
  refine ⟨storeOk_stored h.ok (.save hr hs), fun row hrow hpending => ?_, fun q job hq => ?_⟩
  · have hrow' : row ∈ s.sys.jobs := hjobs ▸ hrow
    obtain ⟨name, hname, hfile⟩ := h.there row hrow' hpending
    have hne : storedName row.id name ≠ storedName s.sys.jobs.nextKey sub.safeName := fun heq =>
      (Table.key_lt_nextKey hrow').ne (storedName_inj heq)
    refine ⟨name, hname, ?_⟩
    show Function.update s.uploads (storedName s.sys.jobs.nextKey sub.safeName) (some bytes)
      (storedName row.id name) = some (s.uploaded row.id)
    rw [Function.update_of_ne hne]
    exact hfile
  · obtain ⟨rfl, rfl⟩ := flushed_only h.ok.recalls hr hs hq
    refine ⟨sub.safeName, rfl, ?_⟩
    show Function.update s.uploads (storedName s.sys.jobs.nextKey sub.safeName) (some bytes)
      (storedName s.sys.jobs.nextKey sub.safeName) = some (Function.update s.carried q bytes q)
    rw [Function.update_self, Function.update_self]

/-- **A removal that spares uploads** spares those of the pending rows and of the saved one. -/
theorem UploadsKept.remove (h : UploadsKept s) {d : Nat} {dir : Removal} {dirs : List Removal}
    (hd : s.deletion d = .removing (dir :: dirs)) (hok : sparesUploads s (.goOn d) = true) :
    UploadsKept ((s.removeDir dir).setDeletion d (.removing dirs)) := by
  have hspares : ∀ dir', dir = .uploads dir' →
      (∀ j ∈ s.sys.jobs, j.status.finished = true ∨ j.uploadIn dir' = false) ∧
        ∀ job, s.saved? = some job → job.uploadIn dir' = false := by
    intro dir' hdir
    simp only [sparesUploads, hd, hdir, Bool.and_eq_true, List.all_eq_true, Bool.or_eq_true,
      Bool.not_eq_true'] at hok
    refine ⟨hok.1, fun job hjob => ?_⟩
    have hall := hok.2
    rw [hjob] at hall
    simpa using hall
  have hparent : ∀ {j : Job} {dir' f : String}, j.storedFilename = some f →
      j.uploadIn dir' = false → parent f ≠ dir' := by
    intro j dir' f hf hin
    simpa [Job.uploadIn, hf] using hin
  refine ⟨storeOk_stored h.ok (.remove hd), fun j hj hpending => ?_, fun r job hr => ?_⟩
  · rw [Storage.setDeletion_sys, Storage.removeDir_sys] at hj
    obtain ⟨name, hname, hfile⟩ := h.there j hj hpending
    refine ⟨name, hname, ?_⟩
    have hkept : (s.removeDir dir).uploads (storedName j.id name) =
        s.uploads (storedName j.id name) := uploads_removeDir fun dir' hdir => by
      rcases (hspares dir' hdir).1 j hj with hfin | hin
      · rw [pending_iff_unfinished.mp hpending] at hfin
        cases hfin
      · exact hparent hname hin
    show (s.removeDir dir).uploads _ = some ((s.removeDir dir).uploaded j.id)
    rw [hkept, hfile, Storage.removeDir_uploaded]
  · rw [Storage.setDeletion_sys, Storage.removeDir_sys] at hr
    obtain ⟨name, hname, hfile⟩ := h.saved r job hr
    have hsaved : s.saved? = some job := by
      simp only [Storage.saved?, h.ok.recalls.lock_flushed hr, Option.bind_some, hr]
    have hkept : (s.removeDir dir).uploads (storedName job.id name) =
        s.uploads (storedName job.id name) := uploads_removeDir fun dir' hdir =>
      hparent hname ((hspares dir' hdir).2 job hsaved)
    refine ⟨name, hname, ?_⟩
    show (s.removeDir dir).uploads _ = some ((s.removeDir dir).carried r)
    rw [hkept, hfile, Storage.removeDir_carried]

/-- **One step** that spares uploads. -/
theorem uploads_step {a : StoreAct} (h : UploadsKept s) (hok : sparesUploads s a = true)
    (hs : StoreStep s a s') : UploadsKept s' := by
  have hok' := storeOk_stored h.ok hs.stored
  cases hs.stored with
  | @queue now a sys hfit hstep =>
      refine ⟨hok', h.queue hstep, fun r job hr => ?_⟩
      rw [Storage.after_sys] at hr
      have hflush : ∀ r f n, a ≠ .request r (.createFlush f n) := by
        rintro r f n rfl
        cases hfit
      obtain ⟨hbefore, -⟩ := flushed_before h.ok.recalls hstep hflush hr
      rw [Storage.after_uploads, Storage.after_carried]
      exact h.saved r job hbefore
  | save hr hstep => exact h.save hr hstep
  | line => exact ⟨hok', h.there, h.saved⟩
  | lineUnseen => exact h
  | phase => exact ⟨hok', h.there, h.saved⟩
  | commit hl =>
      refine ⟨hok', fun j hj => h.there j (Table.mem_filterRows.mp hj).1, fun r job hr => ?_⟩
      have hlock := h.ok.recalls.lock_flushed hr
      rw [hl] at hlock
      cases hlock
  | remove hd => exact h.remove hd hok

end Steps

/-! ## 3. Runs -/

/-- **UPLOADS STAY AVAILABLE** in every run whose removals spare the uploads of the pending rows. -/
theorem uploads_run {s₀ s : Storage} {ls : List StoreAct} (h0 : s₀.Started)
    (hthere : UploadsThere s₀)
    (h : Run (guarded StoreStep fun s a => sparesUploads s a = true) s₀ ls s) : UploadsThere s := by
  have hstart : UploadsKept s₀ := by
    refine ⟨storeOk_started h0, hthere, fun r job hr => ?_⟩
    rw [h0.sys.request r] at hr
    cases hr
  have hkept := h.invariant hstart fun _ _ _ hI hs => uploads_step hI hs.1 hs.2
  exact hkept.there

theorem pairStart_uploadsThere : UploadsThere pairStart :=
  fun _ hj => absurd hj List.not_mem_nil

/-- User 1 and user 2 submit a job each, user 1 is deleted with the directories, and a worker claims
    the job of user 2. -/
theorem uploads_run_small : ∃ ls s,
    Run (guarded StoreStep fun s a => sparesUploads s a = true) pairStart ls s ∧
      s.sys.jobs.rows.map (fun j => (j.id, j.status)) = [(2, .running)] ∧ UploadsThere s := by
  have h : (execAll (execWhen sparesUploads storeExec) pairStart
      (submits 1 [65] ++ submits 2 [66] ++ deletes (.user 1) ++ [.goOn 1] ++ claims 2 workerA)).any
      (fun s => s.sys.jobs.rows.map (fun j => (j.id, j.status)) == [(2, .running)]) = true := by
    decide
  obtain ⟨s, hr, hp⟩ := exists_guarded_run
    (fun s a (hok : sparesUploads s a = true) => hok) h
  exact ⟨_, s, hr, by simpa using hp, uploads_run pairStart_started pairStart_uploadsThere hr⟩

/-- **An upload removed under a queued job**: between the commit of a deletion and its removal of
    the directory of job 1, another user's job gets the id 1. -/
theorem upload_removed : ∃ ls s, Run StoreStep pairStart ls s ∧ ¬ UploadsThere s := by
  have h : (execAll storeExec pairStart
      (submits 1 [65] ++ deletes (.user 1) ++ submits 2 [66] ++ [.goOn 1])).any
      (fun s => s.sys.jobs.rows.any fun j => j.status == .queued &&
        j.storedFilename.all fun f => (s.uploads f).isNone) = true := by decide
  obtain ⟨s, hr, hp⟩ := exists_run_of_execAll h
  refine ⟨_, s, hr, fun hthere => ?_⟩
  obtain ⟨j, hj, hlost⟩ := List.any_eq_true.mp hp
  simp only [Bool.and_eq_true, beq_iff_eq] at hlost
  obtain ⟨name, hname, hfile⟩ := hthere j hj (.inl hlost.1)
  have hnone := hlost.2
  rw [hname, Option.all_some, hfile] at hnone
  cases hnone

end RetroBridge.Jobs
