/-
  File:      RetroBridge/Jobs/Outputs.lean
  Subject:   WHOSE OUTPUT A JOB PAGE SERVES (retrobridge/jobs/routes.py: `download`;
             retrobridge/jobs/utils.py: `job_status_dict`, `read_output_tail`;
             retrobridge/api/routes.py: `job_output`, `job_events`): the file at the row's
             `output_path`.

  * `served`, `OutputIsolated` -- what is served for a row was written by runs of that row;
  * `freshOutputs` -- the steps that give an id to a new row only where its `session.log` holds
    nothing and no run of an earlier row of the id is under way;
  * `OutputsOwn` -- the invariant: the log of a row's directory is of its birth, and so are the runs
    of its id; an output path is the row's own;
  * `outputs_run` -- **in a run of such steps every row is served its own output**;
  * `output_of_deleted_job` -- the port of a job is deleted, and the next job gets its id.
-/
import RetroBridge.Jobs.Storage

namespace RetroBridge.Jobs

open Relational Ordered Transition Paths

/-! ## 1. The property -/

namespace Storage

variable (s : Storage)

/-- The lines of the file at a path. -/
def fileAt (p : String) : List Piece :=
  if p = parent p ++ "/session.log" then s.outputs.log (parent p) else []

/-- What the output views serve for a row. -/
def served (j : Job) : List Piece :=
  match j.outputPath with
  | none => []
  | some p => s.fileAt p

end Storage

/-- **Every row is served its own output**: each line was written by a run of this very row. -/
def OutputIsolated (s : Storage) : Prop :=
  ∀ j ∈ s.sys.jobs, ∀ x ∈ s.served j, x.birth = s.births j.id

/-- The rows' output paths are their own, and so are the logs of their directories. -/
def OwnFiles (s : Storage) : Prop :=
  ∀ j ∈ s.sys.jobs, (∀ p, j.outputPath = some p → p = sessionLog s.site.toSite j) ∧
    ∀ x ∈ s.logOf j.id, x.birth = s.births j.id

/-- A commit of `create_job` gives the id to a new row only where nothing of an earlier row of this
    id is left: no line in its `session.log`, and no run. -/
def freshOutputs (s : Storage) : StoreAct → Bool
  | .queue _ (.request r .createCommit) =>
    match s.sys.request r with
    | .flushed job =>
      (s.logOf job.id).isEmpty && s.runs.entries.all fun e => e.2.jobId != job.id
    | _ => true
  | _ => true

theorem OwnFiles.isolated {s : Storage} (h : OwnFiles s) : OutputIsolated s := by
  intro j hj x hx
  obtain ⟨hpath, hlog⟩ := h j hj
  unfold Storage.served at hx
  split at hx
  · cases hx
  · rename_i p hp
    rw [hpath p hp] at hx
    unfold Storage.fileAt at hx
    rw [parent_sessionLog] at hx
    split at hx
    · exact hlog x hx
    · cases hx

/-! ## 2. Output paths -/

/-- The path an object carries is the loaded row's, or the run's own. -/
def PathOwn (site : Site) (loaded obj : Job) : Prop :=
  obj.outputPath = loaded.outputPath ∨ obj.outputPath = some (sessionLog site loaded)

/-- The objects of a worker carry such paths. -/
def WorkerPhase.PathsOwn (site : Site) : WorkerPhase → Prop
  | .noPort _ loaded obj => PathOwn site loaded obj
  | .execute _ loaded _ rs => rs.obj.id = loaded.id ∧ PathOwn site loaded rs.obj
  | .top | .sweep _ | .claim _ _ | .claimed _ => True

section Paths

variable {site : JobSite}

theorem sessionLog_congr {site : Site} {j k : Job} (h : j.id = k.id) :
    sessionLog site j = sessionLog site k := by
  unfold sessionLog
  rw [h]

/-- A path that stays the row's, or becomes it. -/
theorem outputPath_own {site : Site} {row row' : Job} (hid : row'.id = row.id)
    (hown : ∀ p, row.outputPath = some p → p = sessionLog site row)
    (hpath : row'.outputPath = row.outputPath ∨
      row'.outputPath = some (sessionLog site row)) (p : String) (hp : row'.outputPath = some p) :
    p = sessionLog site row' := by
  rw [sessionLog_congr hid]
  rcases hpath with hsame | hnew
  · exact hown p (hsame.symm.trans hp)
  · exact (Option.some.inj (hnew.symm.trans hp)).symm

@[simp] theorem sessionLog_erase (t : Target) (j : Job) :
    sessionLog (t.erase site).toSite j = sessionLog site.toSite j := by
  unfold sessionLog
  rw [Target.erase_outputsDir]

@[simp] theorem outputDir_erase (t : Target) (i : Nat) :
    outputDir (t.erase site).toSite i = outputDir site.toSite i := by
  unfold outputDir
  rw [Target.erase_outputsDir]

theorem pathsOwn_erase {ph : WorkerPhase} (t : Target) :
    ph.PathsOwn (t.erase site).toSite ↔ ph.PathsOwn site.toSite := by
  cases ph <;> simp only [WorkerPhase.PathsOwn, PathOwn, sessionLog_erase]

@[simp] theorem Outcome.record_outputPath (o : Outcome) (now : Time) (j : Job) :
    (o.record now j).outputPath = j.outputPath := by
  rcases o with _ | _ | _ | (_ | _) <;> rfl

theorem onFault_outputPath (e : Raised) (now : Time) (obj : Job) :
    (onFault e now obj).obj.outputPath = obj.outputPath ∧ (onFault e now obj).obj.id = obj.id := by
  cases e <;> exact ⟨rfl, rfl⟩

theorem onCancelled_outputPath (now : Time) (obj : Job) :
    (onCancelled now obj).obj.outputPath = obj.outputPath ∧
      (onCancelled now obj).obj.id = obj.id := by
  unfold onCancelled
  split
  · exact ⟨Outcome.record_outputPath _ _ _, Outcome.record_id _ _ _⟩
  · exact ⟨rfl, rfl⟩

/-- **The path of an execution's object over a step**: it stays, or becomes the run's own. -/
theorem runStep_outputPath {port : DevicePort} {now : Time} {row : Option Job} {rs rs' : RunState}
    {ev : RunEvent} (h : runStep site port now row rs ev = some rs') :
    rs'.obj.id = rs.obj.id ∧ (rs'.obj.outputPath = rs.obj.outputPath ∨
      rs'.obj.outputPath = some (sessionLog site.toSite rs.obj)) := by
  cases runStep_moved h with
  | goOn => exact ⟨rfl, .inl rfl⟩
  | prepared => exact ⟨rfl, .inr rfl⟩
  | missing => exact ⟨Outcome.record_id _ _ _, .inr (Outcome.record_outputPath _ _ _)⟩
  | cancelled => exact ⟨(onCancelled_outputPath now _).2, .inl (onCancelled_outputPath now _).1⟩
  | canceled => exact ⟨Outcome.record_id _ _ _, .inl (Outcome.record_outputPath _ _ _)⟩
  | completed => exact ⟨Outcome.record_id _ _ _, .inl (Outcome.record_outputPath _ _ _)⟩
  | closed => exact ⟨rfl, .inl rfl⟩
  | sendFailed => exact ⟨Outcome.record_id _ _ _, .inl (Outcome.record_outputPath _ _ _)⟩
  | fault => exact ⟨(onFault_outputPath _ now _).2, .inl (onFault_outputPath _ now _).1⟩

theorem workerMove_pathsOwn {q : Sys} {w : Worker} {a : WorkerAct} {ph : WorkerPhase}
    (hw : (q.worker w).PathsOwn site.toSite) (h : workerMove site q w a = some ph) :
    ph.PathsOwn site.toSite := by
  cases workerMove_moved h with
  | load => exact ⟨rfl, .inl rfl⟩
  | loadNoPort => exact .inl (Outcome.record_outputPath _ _ _)
  | run e hrun =>
      rw [e] at hw
      obtain ⟨hid, hpath⟩ := runStep_outputPath hrun
      refine ⟨hid.trans hw.1, ?_⟩
      rcases hpath with hsame | hown
      · exact hw.2.imp hsame.trans hsame.trans
      · exact .inr (hown.trans (congrArg some (sessionLog_congr hw.1)))
  | @heartbeat _ _ _ _ rs _ e _ hbeat =>
      rw [e] at hw
      obtain ⟨obj, phase⟩ := rs
      cases phase <;> simp only [afterBeat, reduceCtorEq] at hbeat
      cases hbeat
      exact hw
  | sweepRead | sweepCommit | recover | claimPort | claimSkip | claimNone | loadGone | finish
  | abandon => trivial

/-- The object a worker commits carries such a path. -/
theorem pathOwn_commits {ph : WorkerPhase} (h : ph.PathsOwn site.toSite) {loaded obj : Job}
    (hc : ph.commits? = some (loaded, obj)) : PathOwn site.toSite loaded obj := by
  cases ph with
  | noPort c l o =>
      cases hc
      exact h
  | execute c l port rs =>
      obtain ⟨o, phase⟩ := rs
      cases phase <;> simp only [WorkerPhase.commits?, reduceCtorEq] at hc
      cases hc
      exact h.2
  | top | sweep | claim | claimed => cases hc

/-- **The output path of a row over an act of the queue**: it stays, or a final commit makes it the
    row's own. -/
theorem rowChange_outputPath {q : Sys} {a : Act} {row row' : Job} (hR : Recalls q)
    (hpaths : ∀ w, (q.worker w).PathsOwn site.toSite) (h : RowChange site q row a row') :
    row'.outputPath = row.outputPath ∨ row'.outputPath = some (sessionLog site.toSite row) := by
  cases h with
  | @final w c loaded obj hc hcommits hid _ =>
      obtain ⟨c', hc', hloaded, _⟩ := commits_ok (hR.worker w) hcommits
      have hids : loaded.id = row.id := by
        rw [hc'] at hc
        rw [hloaded, Option.some.inj hc]
        exact hid
      show flushCol loaded.outputPath obj.outputPath row.outputPath = _ ∨ _
      rcases pathOwn_commits (hpaths w) hcommits with hsame | hown
      · exact .inl (flushCol_same hsame)
      · by_cases hsame : obj.outputPath = loaded.outputPath
        · exact .inl (flushCol_same hsame)
        · exact .inr ((flushCol_written hsame).trans
            (hown.trans (congrArg some (sessionLog_congr hids))))
  | @cancel r dirty loaded =>
      refine .inl (flushCol_same ?_)
      unfold withCancel
      split <;> rfl
  | same | swept | recoveredCanceled | recoveredQueued | claim | beat => exact .inl rfl

end Paths

/-! ## 3. The invariant -/

/-- **Files and runs are the rows' own.** -/
structure OutputsOwn (s : Storage) : Prop where
  ok : StoreOk s
  files : OwnFiles s
  phases : ∀ w, (s.sys.worker w).PathsOwn s.site.toSite
  runs : ∀ w f, s.runs.get? w = some f → (∃ j ∈ s.sys.jobs, j.id = f.jobId) →
    f.birth = s.births f.jobId

section Steps

variable {s s' : Storage}

/-- An act of a worker writes no line. -/
theorem log_outputsAfter (w : Worker) (a : WorkerAct) (ph : WorkerPhase) (dir : String) :
    (s.outputsAfter w a ph).log dir = s.outputs.log dir := by
  unfold Storage.outputsAfter
  split
  · split
    · exact Outputs.log_mkdir dir
    · split
      · exact Outputs.log_openLog dir
      · rfl
  · rfl

/-- **The runs after an act of a worker**: those there were, and at most one new one, of the row
    there is. -/
theorem runsAfter_get? {w v : Worker} {ph : WorkerPhase} {f : RunFile}
    (h : (s.runsAfter w ph).get? v = some f) :
    (∃ g, s.runs.get? v = some g ∧ f.jobId = g.jobId ∧ f.birth = g.birth) ∨
      f.birth = s.births f.jobId := by
  have herase : (s.runs.erase w).get? v = some f → ∃ g, s.runs.get? v = some g ∧
      f.jobId = g.jobId ∧ f.birth = g.birth := by
    intro hget
    rw [Dict.get?_erase] at hget
    split at hget
    · cases hget
    · exact ⟨f, hget, rfl, rfl⟩
  unfold Storage.runsAfter at h
  split at h
  · split at h
    · exact .inl (herase h)
    · split at h
      · rw [Dict.get?_set] at h
        split at h
        · cases h
          exact .inr rfl
        · exact .inl ⟨f, h, rfl, rfl⟩
      · split at h
        · rw [Dict.get?_modify] at h
          split at h
          · obtain ⟨g, hg, rfl⟩ := Option.map_eq_some_iff.mp h
            exact .inl ⟨g, hg, rfl, rfl⟩
          · exact .inl ⟨f, h, rfl, rfl⟩
        · exact .inl ⟨f, h, rfl, rfl⟩
  · exact .inl (herase h)

theorem logOf_after (sys : Sys) (a : Act) (i : Nat) : (s.after sys a).logOf i = s.logOf i := by
  cases a with
  | worker w a => exact log_outputsAfter w a _ _
  | request r a =>
      simp only [Storage.after]
      split <;> rfl

section Queue

variable {now : Time} {a : Act} {sys : Sys}

/-- A row after an act of the queue: one there was, with its path or its own one, or the row of a
    commit of `create_job`. -/
theorem OutputsOwn.rows (h : OutputsOwn s) (hs : Step s.site s.sys (now, a) sys) {row' : Job}
    (hrow' : row' ∈ sys.jobs) :
    (∃ row ∈ s.sys.jobs, row'.id = row.id ∧ (row'.outputPath = row.outputPath ∨
      row'.outputPath = some (sessionLog s.site.toSite row))) ∨
      ∃ r, a = .request r .createCommit ∧ s.sys.request r = .flushed row' := by
  obtain ⟨-, he⟩ := hs.effect
  rcases effect_mem he hrow' with ⟨row, hrow, rfl⟩ | ⟨r, ha, hr⟩
  · have hR := h.ok.recalls.at now
    have hch := effect_change hR he hrow
    exact .inl ⟨row, hrow, rowWrite_id _ _ _ row, rowChange_outputPath hR h.phases hch⟩
  · exact .inr ⟨r, ha, hr⟩

theorem OutputsOwn.phases_queue (h : OutputsOwn s) (hs : Step s.site s.sys (now, a) sys)
    (w : Worker) : (sys.worker w).PathsOwn s.site.toSite := by
  rcases hs.worker_cases w with ⟨e, -⟩ | ⟨b, -, hmove⟩
  · rw [e]
    exact h.phases w
  · exact workerMove_pathsOwn (q := s.sys.at now) (h.phases w) hmove

/-- **An act that adds no row** keeps files and runs the rows' own. -/
theorem OutputsOwn.other (h : OutputsOwn s) (hfit : s.fits a = true)
    (hs : Step s.site s.sys (now, a) sys)
    (hc : ∀ r job, a = .request r .createCommit → s.sys.request r ≠ .flushed job) :
    OutputsOwn (s.after sys a) := by
  obtain ⟨hbirths, -⟩ := s.after_other sys hc
  have hold : ∀ row' ∈ sys.jobs, ∃ row ∈ s.sys.jobs, row'.id = row.id ∧
      (row'.outputPath = row.outputPath ∨
        row'.outputPath = some (sessionLog s.site.toSite row)) := by
    intro row' hrow'
    rcases h.rows hs hrow' with hold | ⟨r, ha, hr⟩
    · exact hold
    · exact absurd hr (hc r row' ha)
  refine ⟨storeOk_stored h.ok (.queue hfit hs), fun row' hrow' => ?_, fun w => ?_,
    fun v f hf hrow => ?_⟩
  · rw [Storage.after_sys] at hrow'
    obtain ⟨row, hrow, hid, hpath⟩ := hold row' hrow'
    obtain ⟨hown, hlog⟩ := h.files row hrow
    refine ⟨fun p hp => ?_, fun x hx => ?_⟩
    · rw [Storage.after_site]
      exact outputPath_own hid hown hpath p hp
    · rw [logOf_after, hid] at hx
      rw [hbirths, hid]
      exact hlog x hx
  · rw [Storage.after_sys, Storage.after_site]
    exact h.phases_queue hs w
  · rw [Storage.after_sys] at hrow
    obtain ⟨row', hrow', hid'⟩ := hrow
    obtain ⟨row, hrow, hid, -⟩ := hold row' hrow'
    rw [hbirths]
    cases a with
    | worker w b =>
        rcases runsAfter_get? hf with ⟨g, hg, hjob, hbirth⟩ | hnew
        · rw [hbirth, hjob]
          exact h.runs v g hg ⟨row, hrow, hid.symm.trans (hid'.trans hjob)⟩
        · exact hnew
    | request r b =>
        rw [Storage.after_runs] at hf
        exact h.runs v f hf ⟨row, hrow, hid.symm.trans hid'⟩

/-- **A new row of a fresh id** has no file and no run. -/
theorem OutputsOwn.create (h : OutputsOwn s) {r : Nat} {job : Job}
    (hs : Step s.site s.sys (now, .request r .createCommit) sys)
    (hr : s.sys.request r = .flushed job)
    (hfresh : freshOutputs s (.queue now (.request r .createCommit)) = true) :
    OutputsOwn (s.after sys (.request r .createCommit)) := by
  simp only [freshOutputs, hr, Bool.and_eq_true, List.isEmpty_iff, List.all_eq_true,
    bne_iff_ne] at hfresh
  obtain ⟨hempty, hno⟩ := hfresh
  have hrows : ∀ row' ∈ sys.jobs, row' = job ∨ ∃ row ∈ s.sys.jobs, row'.id = row.id ∧
      row.id ≠ job.id ∧ (row'.outputPath = row.outputPath ∨
        row'.outputPath = some (sessionLog s.site.toSite row)) := by
    intro row' hrow'
    rcases h.rows hs hrow' with ⟨row, hrow, hid, hpath⟩ | ⟨r', ha, hr'⟩
    · refine .inr ⟨row, hrow, hid, ?_, hpath⟩
      rw [h.ok.next r job hr]
      exact (Table.key_lt_nextKey hrow).ne
    · cases ha
      exact .inl (RequestPhase.flushed.inj (hr'.symm.trans hr))
  have hbirths : ∀ i, i ≠ job.id →
      (s.after sys (.request r .createCommit)).births i = s.births i := fun i hi => by
    rw [s.after_create sys hr]
    exact Function.update_of_ne hi _ _
  refine ⟨storeOk_stored h.ok (.queue rfl hs), fun row' hrow' => ?_, fun w => ?_,
    fun v f hf hrow => ?_⟩
  · rw [Storage.after_sys] at hrow'
    rw [logOf_after]
    rcases hrows row' hrow' with rfl | ⟨row, hrow, hid, hne, hpath⟩
    · obtain ⟨sub, t, i, f, n, hnew⟩ : RequestOk (.flushed row') := hr ▸ h.ok.recalls.request r
      refine ⟨fun p hp => ?_, fun x hx => ?_⟩
      · rw [hnew] at hp
        cases hp
      · rw [hempty] at hx
        cases hx
    · obtain ⟨hown, hlog⟩ := h.files row hrow
      refine ⟨fun p hp => ?_, fun x hx => ?_⟩
      · rw [Storage.after_site]
        exact outputPath_own hid hown hpath p hp
      · rw [hid] at hx ⊢
        rw [hbirths _ hne]
        exact hlog x hx
  · rw [Storage.after_sys, Storage.after_site]
    exact h.phases_queue hs w
  · rw [Storage.after_sys] at hrow
    rw [Storage.after_runs] at hf
    have hjob : f.jobId ≠ job.id := hno (v, f) (Dict.get?_eq_some.mp hf)
    obtain ⟨row', hrow', hid'⟩ := hrow
    rw [hbirths _ hjob]
    rcases hrows row' hrow' with rfl | ⟨row, hrow, hid, -, -⟩
    · exact absurd hid'.symm hjob
    · exact h.runs v f hf ⟨row, hrow, hid.symm.trans hid'⟩

end Queue

/-- **A line of a run** goes to the log of the run's own id, under the birth it loaded. -/
theorem OutputsOwn.line (h : OutputsOwn s) {w : Worker} {f : RunFile} (text : String)
    (hf : s.runs.get? w = some f) :
    OutputsOwn { s with
      outputs := s.outputs.append (outputDir s.site.toSite f.jobId) ⟨f.birth, text⟩ } := by
  refine ⟨⟨h.ok.recalls, h.ok.next⟩, fun j hj => ⟨(h.files j hj).1, fun x hx => ?_⟩, h.phases,
    h.runs⟩
  rcases Outputs.mem_log_append hx with hold | ⟨hdir, rfl⟩
  · exact (h.files j hj).2 x hold
  · have hid : j.id = f.jobId := outputDir_inj hdir
    rw [hid]
    exact h.runs w f hf ⟨j, hj, hid⟩

theorem mem_logOf_removeDir {dir : Removal} {d : Nat} {ph : DeletePhase} {i : Nat} {x : Piece}
    (h : x ∈ ((s.removeDir dir).setDeletion d ph).logOf i) : x ∈ s.logOf i := by
  cases dir with
  | uploads dir => simpa only [Storage.logOf, Storage.setDeletion, Storage.removeDir] using h
  | outputs dir =>
      simp only [Storage.logOf, Storage.setDeletion, Storage.removeDir] at h
      exact Outputs.mem_log_rmtree h

/-- A run whose file has lost its path is still the run of its row. -/
theorem runs_removeDir {dir : Removal} {d : Nat} {ph : DeletePhase} {w : Worker} {f : RunFile}
    (h : ((s.removeDir dir).setDeletion d ph).runs.get? w = some f) :
    ∃ g, s.runs.get? w = some g ∧ f.jobId = g.jobId ∧ f.birth = g.birth := by
  cases dir with
  | uploads dir =>
      simp only [Storage.setDeletion, Storage.removeDir] at h
      exact ⟨f, h, rfl, rfl⟩
  | outputs dir =>
      simp only [Storage.setDeletion, Storage.removeDir, Storage.unlink, Dict.get?_mapValues] at h
      obtain ⟨g, hg, rfl⟩ := Option.map_eq_some_iff.mp h
      refine ⟨g, hg, ?_⟩
      split <;> exact ⟨rfl, rfl⟩

theorem OutputsOwn.remove (h : OutputsOwn s) {d : Nat} {dir : Removal} {dirs : List Removal}
    (hd : s.deletion d = .removing (dir :: dirs)) :
    OutputsOwn ((s.removeDir dir).setDeletion d (.removing dirs)) := by
  refine ⟨storeOk_stored h.ok (.remove hd), fun j hj => ?_, fun w => ?_, fun w f hf hrow => ?_⟩
  · rw [Storage.setDeletion_sys, Storage.removeDir_sys] at hj
    rw [Storage.setDeletion_site, Storage.removeDir_site, Storage.setDeletion_births,
      Storage.removeDir_births]
    exact ⟨(h.files j hj).1, fun x hx => (h.files j hj).2 x (mem_logOf_removeDir hx)⟩
  · rw [Storage.setDeletion_sys, Storage.removeDir_sys, Storage.setDeletion_site,
      Storage.removeDir_site]
    exact h.phases w
  · rw [Storage.setDeletion_sys, Storage.removeDir_sys] at hrow
    rw [Storage.setDeletion_births, Storage.removeDir_births]
    obtain ⟨g, hg, hjob, hbirth⟩ := runs_removeDir hf
    rw [hbirth, hjob]
    exact h.runs w g hg (hjob ▸ hrow)

/-- A row of the target is gone, and so is the target; the paths of the others stay. -/
theorem OutputsOwn.commit (h : OutputsOwn s) {d : Nat} {ids : List Nat} {t : Target}
    {ph : DeletePhase} (hl : s.sys.writer = none) :
    OutputsOwn { s.setDeletion d ph with
      site := t.erase s.site
      sys := { s.sys with jobs := s.sys.jobs.filterRows fun j => !ids.contains j.id } } := by
  refine ⟨storeOk_stored h.ok (.commit hl), fun j hj => ⟨fun p hp => ?_, fun x hx => ?_⟩,
    fun w => ?_, fun w f hf hrow => ?_⟩
  · rw [sessionLog_erase]
    exact (h.files j (Table.mem_filterRows.mp hj).1).1 p hp
  · refine (h.files j (Table.mem_filterRows.mp hj).1).2 x ?_
    have hdir := @outputDir_erase s.site t j.id
    unfold Storage.logOf at hx ⊢
    rw [← hdir]
    exact hx
  · exact (pathsOwn_erase t).mpr (h.phases w)
  · obtain ⟨j, hj, hid⟩ := hrow
    exact h.runs w f hf ⟨j, (Table.mem_filterRows.mp hj).1, hid⟩

/-- **One step** that gives no id to a new row while something of an earlier one is left. -/
theorem outputs_step {a : StoreAct} (h : OutputsOwn s) (hok : freshOutputs s a = true)
    (hs : StoreStep s a s') : OutputsOwn s' := by
  cases hs.stored with
  | @queue now a sys hfit hstep =>
      by_cases hc : ∃ r job, a = .request r .createCommit ∧ s.sys.request r = .flushed job
      · obtain ⟨r, job, rfl, hr⟩ := hc
        exact h.create hstep hr hok
      · exact h.other hfit hstep fun r job ha hr => hc ⟨r, job, ha, hr⟩
  | @save now r bytes sub sys hr hstep =>
      have hjobs := jobs_flush h.ok.recalls hr hstep
      refine ⟨storeOk_stored h.ok (.save hr hstep), fun j hj => h.files j (hjobs ▸ hj), fun w => ?_,
        fun w f hf hrow => h.runs w f hf (hjobs ▸ hrow)⟩
      exact h.phases_queue hstep w
  | line hf => exact h.line _ hf
  | lineUnseen => exact h
  | phase => exact ⟨⟨h.ok.recalls, h.ok.next⟩, h.files, h.phases, h.runs⟩
  | commit hl => exact h.commit hl
  | remove hd => exact h.remove hd

end Steps

/-! ## 4. Runs -/

/-- **JOB OUTPUT ISOLATION** in every run that gives no id to a new row while something of an
    earlier row of this id is left. -/
theorem outputs_run {s₀ s : Storage} {ls : List StoreAct} (h0 : s₀.Started) (hown : OwnFiles s₀)
    (h : Run (guarded StoreStep fun s a => freshOutputs s a = true) s₀ ls s) :
    OutputIsolated s := by
  have hstart : OutputsOwn s₀ := by
    refine ⟨storeOk_started h0, hown, fun w => ?_, fun w f hf => ?_⟩
    · rw [h0.sys.worker w]
      trivial
    · rw [h0.runs, Dict.get?_empty] at hf
      cases hf
  have hI := h.invariant hstart fun _ _ _ hI hs => outputs_step hI hs.1 hs.2
  exact hI.files.isolated

theorem pairStart_ownFiles : OwnFiles pairStart := fun _ hj => absurd hj List.not_mem_nil

/-- Worker A claims job `i`, writes a line of output, loses the device and commits. -/
def executes (i : Nat) (line : String) : List StoreAct :=
  claims i workerA ++
    [.load, .run (.prepared true), .run .ok, .run .ok, .run .ok].map (acts ·) ++
    [.logLine workerA line] ++
    [.run (.fault (.serialException "device gone")), .finish].map (acts ·)
where
  /-- An act of worker A. -/
  acts (a : WorkerAct) : StoreAct := .queue 0 (.worker workerA a)

/-- The births of what is served for each row. -/
def servedBirths (s : Storage) : List (Nat × List Nat) :=
  s.sys.jobs.rows.map fun j => (j.id, (s.served j).map Piece.birth)

/-- User 1 runs a job and is deleted with its directories; the job of user 2 gets the id 1, runs,
    and serves its own line. -/
theorem outputs_run_small : ∃ ls s,
    Run (guarded StoreStep fun s a => freshOutputs s a = true) pairStart ls s ∧
      servedBirths s = [(1, [2])] ∧ OutputIsolated s := by
  have h : (execAll (execWhen freshOutputs storeExec) pairStart
      (submits 1 [65] ++ executes 1 "secret of user 1" ++ deletes (.user 1) ++
        [.goOn 1, .goOn 1] ++ submits 2 [66] ++ executes 1 "hello")).any
      (fun s => servedBirths s == [(1, [2])]) = true := by decide
  obtain ⟨s, hr, hp⟩ := exists_guarded_run
    (fun s a (hok : freshOutputs s a = true) => hok) h
  exact ⟨_, s, hr, by simpa using hp, outputs_run pairStart_started pairStart_ownFiles hr⟩

/-- **The output of a deleted job**: the port of job 1 is deleted, which leaves its directory, and
    the job of user 2 gets the id 1. -/
theorem output_of_deleted_job : ∃ ls s, Run StoreStep pairStart ls s ∧ ¬ OutputIsolated s := by
  have h : (execAll storeExec pairStart
      (submits 1 [65] ++ executes 1 "secret of user 1" ++ deletes (.port 1) ++ submits 2 [66] ++
        executes 1 "hello")).any
      (fun s => s.sys.jobs.rows.any fun j => (s.served j).any fun x => x.birth != s.births j.id) =
        true := by decide
  obtain ⟨s, hr, hp⟩ := exists_run_of_execAll h
  refine ⟨_, s, hr, fun hisolated => ?_⟩
  obtain ⟨j, hj, hserved⟩ := List.any_eq_true.mp hp
  obtain ⟨x, hx, hbirth⟩ := List.any_eq_true.mp hserved
  exact (bne_iff_ne.mp hbirth) (hisolated j hj x hx)

end RetroBridge.Jobs
