/-
  File:      RetroBridge/Jobs/Storage.lean
  Subject:   THE FILES OF THE JOBS, and the deletions that take their rows away
             (retrobridge/jobs/utils.py: `create_job`; worker.py: `run_job_on_device`;
             retrobridge/admin/routes.py: `delete_user`, `delete_port`, `delete_device`;
             retrobridge/api/routes.py: `delete_user`, `_delete_user_directories`;
             retrobridge/auth/routes.py: `delete_account`).

  The queue of System.lean over the two directories it writes to. Both name a job's files by its
  id, and the id of a deleted row is given again where it was the largest.

  * `storedName`, `outputDir` -- the paths; `outputDir_inj`, `storedName_inj` -- no two ids share
    one;
  * `Outputs` -- the output directories. A line of a `session.log` is kept with the birth of its
    run's row: which of the rows of this id it was;
  * `Target`, `DeletePhase` -- a deletion: the rows as listed, the rows the cascade marks, the
    commit, and one removal of a directory after another. The three routes that delete a user take
    the same steps;
  * `Storage`, `StoreAct`, `storeExec` -- the system: an act of the queue with what it does to the
    files, a line of a running job, a step of a deletion;
  * `Stored` -- what a step can be; `StoreOk` -- what the queue knows, over all of them.

  A file that is open when its directory is removed is written on, but no path leads to it.
-/
import RetroBridge.Library.Dict
import RetroBridge.Library.Path
import RetroBridge.Jobs.Quota

namespace RetroBridge.Jobs

open Relational Ordered Transition Paths

/-! ## 1. Paths -/

/-- `job.stored_filename`: the upload's path in the upload directory. -/
def storedName (id : Nat) (safeName : String) : String := numbered "job-" id safeName

/-- `outputs_dir / f"job-{job.id}"`. -/
def outputDir (site : Site) (id : Nat) : String := site.outputsDir ++ "/job-" ++ toString id

theorem storedName_inj {i j : Nat} {name name' : String}
    (h : storedName i name = storedName j name') : i = j := numbered_inj h

theorem outputDir_inj {site : Site} {i j : Nat} (h : outputDir site i = outputDir site j) :
    i = j := by
  have hslash : numbered (site.outputsDir ++ "/job-") i "" =
      numbered (site.outputsDir ++ "/job-") j "" :=
    congrArg (fun d : String => d ++ "/" ++ "") h
  exact numbered_inj hslash

theorem sessionLog_eq (site : Site) (j : Job) :
    sessionLog site j = outputDir site j.id ++ "/" ++ "session.log" := by
  show outputDir site j.id ++ "/session.log" = _
  rw [String.append_assoc]
  rfl

/-- **The directory of a job's output path** is the job's output directory. -/
theorem parent_sessionLog (site : Site) (j : Job) :
    parent (sessionLog site j) = outputDir site j.id := by
  rw [sessionLog_eq]
  exact parent_join _ (by decide)

/-! ## 2. Output directories -/

/-- A line of a `session.log`, with the birth of the row whose run wrote it. -/
structure Piece where
  birth : Nat
  text : String
  deriving DecidableEq

/-- The output directories: of each whether it is there, and its `session.log` if it has one. -/
abbrev Outputs := String → Option (Option (List Piece))

namespace Outputs

variable (o : Outputs) (d : String)

/-- `job_output_dir.mkdir(parents=True, exist_ok=True)`. -/
def mkdir : Outputs := Function.update o d (some ((o d).getD none))

/-- `open(output_path, "a")`. -/
def openLog : Outputs := Function.update o d ((o d).map fun log => some (log.getD []))

/-- `out_f.write` to the `session.log` of `d`. -/
def append (x : Piece) : Outputs := Function.update o d ((o d).map fun log => log.map (· ++ [x]))

/-- `shutil.rmtree(d)`. -/
def rmtree : Outputs := Function.update o d none

/-- What the `session.log` of `d` holds. -/
def log : List Piece := ((o d).getD none).getD []

variable {o d}

theorem log_mkdir (e : String) : (o.mkdir d).log e = o.log e := by
  unfold mkdir log
  by_cases h : e = d
  · subst h
    rw [Function.update_self]
    rfl
  · rw [Function.update_of_ne h]

theorem log_openLog (e : String) : (o.openLog d).log e = o.log e := by
  unfold openLog log
  by_cases h : e = d
  · subst h
    rw [Function.update_self]
    cases o e <;> rfl
  · rw [Function.update_of_ne h]

theorem mem_log_append {x y : Piece} {e : String} (h : y ∈ (o.append d x).log e) :
    y ∈ o.log e ∨ e = d ∧ y = x := by
  unfold append log at h
  by_cases he : e = d
  · subst he
    rw [Function.update_self] at h
    unfold log
    cases hd : o e with
    | none => simp [hd] at h
    | some log =>
        cases log with
        | none => simp [hd] at h
        | some pieces =>
            simp only [hd, Option.map_some, Option.getD_some, List.mem_append,
              List.mem_singleton] at h
            exact h.imp id fun hy => ⟨rfl, hy⟩
  · rw [Function.update_of_ne he] at h
    exact .inl h

theorem mem_log_rmtree {y : Piece} {e : String} (h : y ∈ (o.rmtree d).log e) : y ∈ o.log e := by
  unfold rmtree log at h
  by_cases he : e = d
  · subst he
    rw [Function.update_self] at h
    cases h
  · rwa [Function.update_of_ne he] at h

end Outputs

/-! ## 3. Deletions -/

/-- What an admin, or a user of the own account, deletes. -/
inductive Target where
  | user (id : Nat)
  | port (id : Nat)
  | device (id : Nat)
  deriving DecidableEq

namespace Target

/-- The row is there. -/
def isThere (site : Site) : Target → Bool
  | .user i => (site.users.get? i).isSome
  | .port i => (site.ports.get? i).isSome
  | .device i => (site.devices.get? i).isSome

/-- The jobs that the row's `jobs` cascade to; a device also has those of its ports. -/
def owns (site : Site) (j : Job) : Target → Bool
  | .user i => j.userId == i
  | .port i => j.portId == some i
  | .device i => j.deviceId == i || (j.portId.bind site.ports.get?).any (·.deviceId == i)

/-- The site without the row, and without the ports of a device. -/
def erase (site : JobSite) : Target → JobSite
  | .user i => { site with users := site.users.filterRows (·.id != i) }
  | .port i => { site with ports := site.ports.filterRows (·.id != i) }
  | .device i =>
    { site with
      devices := site.devices.filterRows (·.id != i)
      ports := site.ports.filterRows (·.deviceId != i) }

/-- The jobs whose directories are removed after the commit: those of a user. -/
def listed (jobs : Table Job) : Target → List Job
  | .user i => jobs.rows.filter (·.userId == i)
  | .port _ | .device _ => []

@[simp] theorem erase_outputsDir (site : JobSite) (t : Target) :
    (t.erase site).outputsDir = site.outputsDir := by
  cases t <;> rfl

end Target

/-- A directory that `_delete_user_directories` removes. -/
inductive Removal where
  | uploads (dir : String)
  | outputs (dir : String)
  deriving DecidableEq

/-- The directories of one job, where its columns are set and not empty. -/
def Job.removals (j : Job) : List Removal :=
  ((j.storedFilename.filter (· ≠ "")).toList.map fun f => .uploads (parent f)) ++
    (j.outputPath.filter (· ≠ "")).toList.map fun p => .outputs (parent p)

/-- Where a deletion is: `jobs` as its first query read them, `ids` the rows the cascade marks. -/
inductive DeletePhase where
  | idle
  | listed (t : Target) (jobs : List Job)
  | marked (t : Target) (jobs : List Job) (ids : List Nat)
  | removing (dirs : List Removal)

/-! ## 4. The system -/

/-- The `session.log` of a run: not open yet, open, or open on a file that no path leads to. -/
inductive Handle where
  | closed
  | linked
  | unlinked
  deriving DecidableEq

/-- An execution that has not returned: its job, which row of that id it has loaded, its log. -/
structure RunFile where
  jobId : Nat
  birth : Nat
  handle : Handle

/-- **The system**: the queue at its site, the directories, the deletions. Beside these, what a
    reader needs to say whose a file is: how many rows each id has had, the bytes each request
    uploads and those uploaded for each row. -/
structure Storage where
  site : JobSite
  sys : Sys
  uploads : String → Option (List UInt8)
  outputs : Outputs
  runs : Dict Worker RunFile
  deletion : Nat → DeletePhase
  births : Nat → Nat
  carried : Nat → List UInt8
  uploaded : Nat → List UInt8

/-- The phases of `run_job_on_device` in which its `session.log` is open. -/
def RunPhase.logs : RunPhase → Bool
  | .entry | .firstCheck | .opening | .logging | .decided => false
  | _ => true

/-- `run_job_on_device` has returned. -/
def RunPhase.returned : RunPhase → Bool
  | .decided => true
  | _ => false

namespace Storage

variable (s : Storage)

/-- What the `session.log` of job `i` holds. -/
def logOf (i : Nat) : List Piece := s.outputs.log (outputDir s.site.toSite i)

/-- `upload_file.exists()`; without a stored name it is the upload directory itself. -/
def uploadExists (j : Job) : Bool :=
  match j.storedFilename with
  | none => true
  | some f => f == "" || (s.uploads f).isSome

/-- The answers of the files that an act of the queue has to agree with. Saving is an act of its
    own. -/
def fits : Act → Bool
  | .request _ (.createFlush _ _) => false
  | .request _ _ => true
  | .worker w (.run ev) =>
    match s.sys.worker w with
    | .execute _ loaded _ rs =>
      match ev, rs.phase with
      | .prepared there, _ => there == s.uploadExists loaded
      | .ok, .logging => (s.outputs (outputDir s.site.toSite loaded.id)).isSome
      | _, _ => true
    | _ => true
  | .worker _ _ => true

/-- The run of `w` opens its log on the way to `rs`. -/
def opens (w : Worker) (rs : RunState) : Bool :=
  rs.phase.logs && (s.runs.get? w).any (·.handle == .closed)

/-- The runs after an act of `w` that ends in `ph`. -/
def runsAfter (w : Worker) : WorkerPhase → Dict Worker RunFile
  | .execute _ loaded _ rs =>
    if rs.phase.returned then s.runs.erase w
    else if (s.runs.get? w).isNone then s.runs.set w ⟨loaded.id, s.births loaded.id, .closed⟩
    else if s.opens w rs then s.runs.modify w fun f => { f with handle := .linked }
    else s.runs
  | _ => s.runs.erase w

/-- The output directories after an act of `w` that ends in `ph`. -/
def outputsAfter (w : Worker) (a : WorkerAct) : WorkerPhase → Outputs
  | .execute _ loaded _ rs =>
    match a with
    | .run (.prepared _) => s.outputs.mkdir (outputDir s.site.toSite loaded.id)
    | _ =>
      if s.opens w rs then s.outputs.openLog (outputDir s.site.toSite loaded.id) else s.outputs
  | _ => s.outputs

/-- The storage after an act of the queue that ends in `sys`. -/
def after (sys : Sys) : Act → Storage
  | .worker w a =>
    { s with
      sys := sys
      runs := s.runsAfter w (sys.worker w)
      outputs := s.outputsAfter w a (sys.worker w) }
  | .request r a =>
    match created? s.sys r a with
    | some job =>
      { s with
        sys := sys
        births := Function.update s.births job.id (s.births job.id + 1)
        uploaded := Function.update s.uploaded job.id (s.carried r) }
    | none => { s with sys := sys }

@[simp] theorem after_sys (sys : Sys) (a : Act) : (s.after sys a).sys = sys := by
  cases a with
  | worker w a => rfl
  | request r a =>
      simp only [after]
      split <;> rfl

@[simp] theorem after_uploads (sys : Sys) (a : Act) : (s.after sys a).uploads = s.uploads := by
  cases a with
  | worker w a => rfl
  | request r a =>
      simp only [after]
      split <;> rfl

@[simp] theorem after_carried (sys : Sys) (a : Act) : (s.after sys a).carried = s.carried := by
  cases a with
  | worker w a => rfl
  | request r a =>
      simp only [after]
      split <;> rfl

@[simp] theorem after_site (sys : Sys) (a : Act) : (s.after sys a).site = s.site := by
  cases a with
  | worker w a => rfl
  | request r a =>
      simp only [after]
      split <;> rfl

@[simp] theorem after_runs (sys : Sys) (r : Nat) (a : RequestAct) :
    (s.after sys (.request r a)).runs = s.runs := by
  simp only [after]
  split <;> rfl

/-- A commit of `create_job` makes the row's birth and its upload those of the request. -/
theorem after_create {r : Nat} {job : Job} (sys : Sys) (h : s.sys.request r = .flushed job) :
    s.after sys (.request r .createCommit) =
      { s with
        sys := sys
        births := Function.update s.births job.id (s.births job.id + 1)
        uploaded := Function.update s.uploaded job.id (s.carried r) } := by
  have hcreated : created? s.sys r .createCommit = some job := by
    simp only [created?, h]
  simp only [after, hcreated]

/-- Every other act leaves the births and the uploads of the rows. -/
theorem after_other (sys : Sys) {a : Act}
    (h : ∀ r job, a = .request r .createCommit → s.sys.request r ≠ .flushed job) :
    (s.after sys a).births = s.births ∧ (s.after sys a).uploaded = s.uploaded := by
  cases a with
  | worker w a => exact ⟨rfl, rfl⟩
  | request r a =>
      simp only [after]
      split
      · rename_i job hjob
        cases a <;> simp only [created?, reduceCtorEq] at hjob
        split at hjob
        · rename_i hr
          exact absurd hr (h r _ rfl)
        · cases hjob
      · exact ⟨rfl, rfl⟩

/-- An act of the queue with what it does to the files. -/
def queueStep (now : Time) (a : Act) : Option Storage :=
  if s.fits a then (exec s.site s.sys (now, a)).map fun sys => s.after sys a else none

/-- `create_job` flushes the row and saves the upload under the row's id. -/
def save (now : Time) (r : Nat) (bytes : List UInt8) : Option Storage :=
  match s.sys.request r with
  | .checked sub =>
    let f := storedName s.sys.jobs.nextKey sub.safeName
    (exec s.site s.sys (now, .request r (.createFlush f bytes.length))).map fun sys =>
      { s with
        sys := sys
        uploads := Function.update s.uploads f (some bytes)
        carried := Function.update s.carried r bytes }
  | _ => none

/-- A running job writes a line. -/
def logLine (w : Worker) (text : String) : Option Storage :=
  match s.runs.get? w with
  | none => none
  | some f =>
    match f.handle with
    | .closed => none
    | .linked =>
      some { s with
        outputs := s.outputs.append (outputDir s.site.toSite f.jobId) ⟨f.birth, text⟩ }
    | .unlinked => some s

def setDeletion (d : Nat) (ph : DeletePhase) : Storage :=
  { s with deletion := Function.update s.deletion d ph }

@[simp] theorem setDeletion_sys (d : Nat) (ph : DeletePhase) :
    (s.setDeletion d ph).sys = s.sys := rfl

@[simp] theorem setDeletion_site (d : Nat) (ph : DeletePhase) :
    (s.setDeletion d ph).site = s.site := rfl

@[simp] theorem setDeletion_births (d : Nat) (ph : DeletePhase) :
    (s.setDeletion d ph).births = s.births := rfl

/-- The logs that are open in the directory are open on files that no path leads to. -/
def unlink (dir : String) : Dict Worker RunFile :=
  s.runs.mapValues fun f =>
    if outputDir s.site.toSite f.jobId = dir ∧ f.handle = .linked then
      { f with handle := .unlinked }
    else f

/-- `shutil.rmtree` of one directory. -/
def removeDir : Removal → Storage
  | .uploads dir => { s with uploads := fun f => if parent f = dir then none else s.uploads f }
  | .outputs dir => { s with outputs := s.outputs.rmtree dir, runs := s.unlink dir }

@[simp] theorem removeDir_sys (dir : Removal) : (s.removeDir dir).sys = s.sys := by
  cases dir <;> simp only [removeDir]

@[simp] theorem removeDir_uploaded (dir : Removal) : (s.removeDir dir).uploaded = s.uploaded := by
  cases dir <;> simp only [removeDir]

@[simp] theorem removeDir_carried (dir : Removal) : (s.removeDir dir).carried = s.carried := by
  cases dir <;> simp only [removeDir]

@[simp] theorem removeDir_births (dir : Removal) : (s.removeDir dir).births = s.births := by
  cases dir <;> simp only [removeDir]

@[simp] theorem removeDir_site (dir : Removal) : (s.removeDir dir).site = s.site := by
  cases dir <;> simp only [removeDir]

/-- One step of deletion `d`. The DELETE names the marked rows, and the foreign keys refuse it where
    a row of the target is not among them. -/
def deleteStep (d : Nat) : Option Storage :=
  match s.deletion d with
  | .idle => none
  | .listed t jobs =>
    some (s.setDeletion d
      (.marked t jobs ((s.sys.jobs.rows.filter fun j => t.owns s.site.toSite j).map Job.id)))
  | .marked t jobs ids =>
    if s.sys.writer = none ∧
        (s.sys.jobs.rows.all fun j => !t.owns s.site.toSite j || ids.contains j.id) = true then
      some { s.setDeletion d (.removing (jobs.flatMap Job.removals)) with
        site := t.erase s.site
        sys := { s.sys with jobs := s.sys.jobs.filterRows fun j => !ids.contains j.id } }
    else none
  | .removing [] => some (s.setDeletion d .idle)
  | .removing (dir :: dirs) => some ((s.removeDir dir).setDeletion d (.removing dirs))

end Storage

/-- What can happen. `quit` is an exception that ends a deletion. -/
inductive StoreAct where
  | queue (now : Time) (a : Act)
  | save (now : Time) (r : Nat) (bytes : List UInt8)
  | logLine (w : Worker) (text : String)
  | delete (d : Nat) (t : Target)
  | goOn (d : Nat)
  | quit (d : Nat)

/-- **One step.** A deletion begins with the list of the jobs it reads. -/
def storeExec (s : Storage) : StoreAct → Option Storage
  | .queue now a => s.queueStep now a
  | .save now r bytes => s.save now r bytes
  | .logLine w text => s.logLine w text
  | .delete d t =>
    match s.deletion d with
    | .idle =>
      if t.isThere s.site.toSite then some (s.setDeletion d (.listed t (t.listed s.sys.jobs)))
      else none
    | _ => none
  | .goOn d => s.deleteStep d
  | .quit d => some (s.setDeletion d .idle)

/-- **The step relation.** -/
def StoreStep (s : Storage) (a : StoreAct) (s' : Storage) : Prop := storeExec s a = some s'

/-! ## 5. What a step can do -/

/-- **Every step is one of these.** -/
inductive Stored (s : Storage) : StoreAct → Storage → Prop where
  | queue {now : Time} {a : Act} {sys : Sys} (hfit : s.fits a = true)
      (hs : Step s.site s.sys (now, a) sys) : Stored s (.queue now a) (s.after sys a)
  | save {now : Time} {r : Nat} {bytes : List UInt8} {sub : Submission} {sys : Sys}
      (hr : s.sys.request r = .checked sub)
      (hs : Step s.site s.sys (now, .request r (.createFlush
        (storedName s.sys.jobs.nextKey sub.safeName) bytes.length)) sys) :
      Stored s (.save now r bytes)
        { s with
          sys := sys
          uploads := Function.update s.uploads (storedName s.sys.jobs.nextKey sub.safeName)
            (some bytes)
          carried := Function.update s.carried r bytes }
  | line {w : Worker} {text : String} {f : RunFile} (hf : s.runs.get? w = some f) :
      Stored s (.logLine w text)
        { s with outputs := s.outputs.append (outputDir s.site.toSite f.jobId) ⟨f.birth, text⟩ }
  | lineUnseen {w : Worker} {text : String} : Stored s (.logLine w text) s
  /-- A deletion moves on, and nothing else changes. -/
  | phase {a : StoreAct} {d : Nat} {ph : DeletePhase} : Stored s a (s.setDeletion d ph)
  | commit {d : Nat} {ids : List Nat} {t : Target} {ph : DeletePhase} (hl : s.sys.writer = none) :
      Stored s (.goOn d)
        { s.setDeletion d ph with
          site := t.erase s.site
          sys := { s.sys with jobs := s.sys.jobs.filterRows fun j => !ids.contains j.id } }
  | remove {d : Nat} {dir : Removal} {dirs : List Removal}
      (hd : s.deletion d = .removing (dir :: dirs)) :
      Stored s (.goOn d) ((s.removeDir dir).setDeletion d (.removing dirs))

theorem StoreStep.stored {s s' : Storage} {a : StoreAct} (h : StoreStep s a s') :
    Stored s a s' := by
  unfold StoreStep at h
  cases a with
  | queue now a =>
      simp only [storeExec, Storage.queueStep] at h
      split at h
      · rename_i hfit
        obtain ⟨sys, hs, rfl⟩ := Option.map_eq_some_iff.mp h
        exact .queue hfit hs
      · cases h
  | save now r bytes =>
      simp only [storeExec, Storage.save] at h
      split at h
      · rename_i sub hr
        obtain ⟨sys, hs, rfl⟩ := Option.map_eq_some_iff.mp h
        exact .save hr hs
      · cases h
  | logLine w text =>
      simp only [storeExec, Storage.logLine] at h
      split at h
      · cases h
      · rename_i f hf
        split at h <;> cases h
        · exact .line hf
        · exact .lineUnseen
  | delete d t =>
      simp only [storeExec] at h
      split at h
      · split at h <;> cases h
        exact .phase
      · cases h
  | goOn d =>
      simp only [storeExec, Storage.deleteStep] at h
      split at h
      · cases h
      · cases h
        exact .phase
      · split at h <;> cases h
        rename_i hc
        exact .commit hc.1
      · cases h
        exact .phase
      · rename_i hd
        cases h
        exact .remove hd
  | quit d =>
      cases h
      exact .phase

/-- **What the queue remembers, it remembers beside the files and the deletions.** -/
theorem recalls_stored {s s' : Storage} {a : StoreAct} (hR : Recalls s.sys) (h : Stored s a s') :
    Recalls s'.sys := by
  cases h with
  | queue _ hs =>
      rw [Storage.after_sys]
      exact step_recalls hR hs
  | save _ hs => exact step_recalls hR hs
  | line | lineUnseen | phase => exact hR
  | commit => exact ⟨hR.worker, hR.request, hR.lock⟩
  | remove =>
      rw [Storage.setDeletion_sys, Storage.removeDir_sys]
      exact hR

/-- A request whose row is flushed has the write lock. -/
theorem Recalls.lock_flushed {q : Sys} (h : Recalls q) {r : Nat} {job : Job}
    (hr : q.request r = .flushed job) : q.writer = some r :=
  h.lock r (by rw [hr]; rfl)

/-- **A flushed row over an act of the queue**: it was flushed before, and the table stays. -/
theorem flushed_before {site : JobSite} {q q' : Sys} {l : Label} (hR : Recalls q)
    (h : Step site q l q') (hfit : ∀ r f n, l.2 ≠ .request r (.createFlush f n)) {r : Nat}
    {job : Job} (hr : q'.request r = .flushed job) :
    q.request r = .flushed job ∧ q'.jobs = q.jobs := by
  have hbefore : q.request r = .flushed job := by
    rcases h.request_cases r with e | ⟨a, ph, hact, hmove, e⟩
    · rw [← e]
      exact hr
    · rw [hr] at e
      cases requestMove_moved hmove with
      | createFlush => exact absurd hact (hfit r _ _)
      | cancelRead | bulkRead | bulkReadMore | bulkReadAgain | cancelCommit | createBegin
      | createCheck | createCommit | createAbort => cases e
  have hlock := hR.lock_flushed hbefore
  obtain ⟨_, he⟩ := h.effect
  refine ⟨hbefore, ?_⟩
  rcases effect_frozen he (by rw [show (q.at l.1).writer = some r from hlock]; simp) with
    hsame | ⟨r', job', hact, hr'⟩
  · exact hsame
  · -- the commit is of the request that has the lock, which is idle after it
    have hr'' : q.request r' = .flushed job' := hr'
    have heq : r' = r := by
      have hlock' := hR.lock_flushed hr''
      rw [hlock] at hlock'
      exact (Option.some.inj hlock').symm
    rw [heq] at hact
    rw [hact] at he
    obtain ⟨ph, hmove, rfl⟩ := effect_request he
    have hidle : ((q.at l.1).setRequest r ph.1).request r = .flushed job := hr
    rw [Sys.setRequest_self] at hidle
    cases requestMove_moved hmove with
    | createCommit => cases hidle

/-- The row a request flushes. -/
theorem flushed_after {site : JobSite} {q q' : Sys} {now : Time} {r : Nat} {f : String} {n : Nat}
    {sub : Submission} (hr : q.request r = .checked sub)
    (h : Step site q (now, .request r (.createFlush f n)) q') :
    q'.request r = .flushed (newJob sub now q.jobs.nextKey f n) := by
  obtain ⟨-, he⟩ := h.effect
  obtain ⟨ph, hmove, rfl⟩ := effect_request he
  show ((q.at now).setRequest r ph.1).request r = _
  rw [Sys.setRequest_self]
  cases requestMove_moved hmove with
  | createFlush hr' =>
      have hboth : RequestPhase.checked _ = .checked sub := hr'.symm.trans hr
      rw [RequestPhase.checked.inj hboth]
      rfl

/-- A flush is under the write lock and adds no row. -/
theorem jobs_flush {site : JobSite} {q q' : Sys} {now : Time} {r : Nat} {f : String} {n : Nat}
    {sub : Submission} (hR : Recalls q) (hr : q.request r = .checked sub)
    (h : Step site q (now, .request r (.createFlush f n)) q') : q'.jobs = q.jobs := by
  have hlock : (q.at now).writer = some r := hR.lock r (by rw [hr]; rfl)
  obtain ⟨-, he⟩ := h.effect
  rcases effect_frozen he (by rw [hlock]; simp) with hsame | ⟨r', job, hact, -⟩
  · exact hsame
  · cases hact

/-- **The only flushed row** after a flush is that of its request: another one would have the
    lock as well. -/
theorem flushed_only {site : JobSite} {q q' : Sys} {now : Time} {r : Nat} {f : String} {n : Nat}
    {sub : Submission} (hR : Recalls q) (hr : q.request r = .checked sub)
    (h : Step site q (now, .request r (.createFlush f n)) q') {p : Nat} {job : Job}
    (hp : q'.request p = .flushed job) : p = r ∧ job = newJob sub now q.jobs.nextKey f n := by
  by_cases hpr : p = r
  · subst hpr
    exact ⟨rfl, RequestPhase.flushed.inj (hp.symm.trans (flushed_after hr h))⟩
  · have hbefore : q.request p = .flushed job := by
      rcases h.request_cases p with e | ⟨a, ph, hact, -⟩
      · rw [← e]
        exact hp
      · cases hact
        exact absurd rfl hpr
    have hlock := hR.lock_flushed hbefore
    rw [hR.lock r (by rw [hr]; rfl)] at hlock
    exact absurd (Option.some.inj hlock).symm hpr

/-- **What holds of the queue in every state**: beside what it remembers, the id of a flushed row is
    the next one. -/
structure StoreOk (s : Storage) : Prop where
  recalls : Recalls s.sys
  next : ∀ r job, s.sys.request r = .flushed job → job.id = s.sys.jobs.nextKey

theorem storeOk_stored {s s' : Storage} {a : StoreAct} (hO : StoreOk s) (h : Stored s a s') :
    StoreOk s' := by
  refine ⟨recalls_stored hO.recalls h, fun r job hr => ?_⟩
  cases h with
  | @queue now a sys hfit hs =>
      rw [Storage.after_sys] at hr ⊢
      have hflush : ∀ r f n, a ≠ .request r (.createFlush f n) := by
        rintro r f n rfl
        cases hfit
      obtain ⟨hbefore, hjobs⟩ := flushed_before hO.recalls hs hflush hr
      rw [hjobs]
      exact hO.next r job hbefore
  | save hr' hs =>
      obtain ⟨rfl, rfl⟩ := flushed_only hO.recalls hr' hs hr
      exact congrArg Table.nextKey (jobs_flush hO.recalls hr' hs).symm
  | line | lineUnseen | phase => exact hO.next r job hr
  | commit hl =>
      have hlock := hO.recalls.lock_flushed hr
      rw [hl] at hlock
      cases hlock
  | remove =>
      rw [Storage.setDeletion_sys, Storage.removeDir_sys] at hr ⊢
      exact hO.next r job hr

/-- No process has begun anything. -/
structure Storage.Started (s : Storage) : Prop where
  sys : s.sys.Started
  runs : s.runs = Dict.empty
  deletion : ∀ d, s.deletion d = .idle

theorem storeOk_started {s : Storage} (h : s.Started) : StoreOk s := by
  refine ⟨recalls_started h.sys, fun r job hr => ?_⟩
  rw [h.sys.request r] at hr
  cases hr

/-! ## 6. A small installation -/

/-- Two users, one device with two job ports. -/
def pairSite : JobSite :=
  { smallSite with
    users := (Table.empty.insert ⟨1, false, 2, 1, none⟩).insert ⟨2, false, 2, 1, none⟩
    ports := (Table.empty.insert (jobPort 1)).insert (jobPort 2) }
where
  /-- A job port of device 1, for one job at a time. -/
  jobPort (id : Nat) : DevicePort :=
    { id := id, deviceId := 1, portLabel := "CRT0", transport := none, devPath := "/dev/ttyUSB0",
      purpose := .jobQueue, baud := none, maxConcurrentJobs := some 1, maxRuntimeSeconds := none,
      idleTimeoutSeconds := none, isEnabled := true }

/-- No job yet, and no file. -/
def pairStart : Storage where
  site := pairSite
  sys := { jobs := Table.empty, clock := 0, writer := none, worker := fun _ => .top,
           request := fun _ => .idle }
  uploads _ := none
  outputs _ := none
  runs := Dict.empty
  deletion _ := .idle
  births _ := 0
  carried _ := []
  uploaded _ := []

theorem pairStart_started : pairStart.Started :=
  ⟨⟨rfl, fun _ => rfl, fun _ => rfl⟩, rfl, fun _ => rfl⟩

/-- Request `userId` submits a file for user `userId`. -/
def submits (userId : Nat) (bytes : List UInt8) : List StoreAct :=
  [.queue 0 (.request userId (.createBegin { smallSubmission with userId := userId })),
    .queue 0 (.request userId .createCheck), .save 0 userId bytes,
    .queue 0 (.request userId .createCommit)]

/-- A deletion up to its commit. -/
def deletes (t : Target) : List StoreAct := [.delete 1 t, .goOn 1, .goOn 1]

/-- One turn of `worker_loop` up to the claim of job `i`. -/
def claims (i : Nat) (w : Worker) : List StoreAct :=
  [.sweepRead, .recover, .claimPort i].map fun a => .queue 0 (.worker w a)

end RetroBridge.Jobs
