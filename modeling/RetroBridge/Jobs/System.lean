/-
  File:      RetroBridge/Jobs/System.lean
  Subject:   THE JOB QUEUE AS A SYSTEM: any number of workers and web requests over one job table,
             interleaved transaction by transaction.

  One step is one thing a process does between two points where others may act: a read, a write
  transaction, or one call of a running execution. A write transaction needs the write lock free;
  only `create_job` holds the lock over several steps (BEGIN IMMEDIATE).

  * `WorkerAct`, `WorkerPhase` -- `worker_loop`: the orphan sweep (read, then a commit for every
    row), `claim_job` (recovery, then port after port, then the read of the claimed row), the
    execution, the final commit. `abandon` is a crash or an exception that leaves the loop body
    or ends the claim;
  * `RequestAct`, `RequestPhase` -- a web request: `cancel_job` and `bulk_cancel_jobs` (reads, then
    one commit) and `create_job` (begin, check, flush, commit);
  * `workerMove`, `requestMove` -- the control state; `workerWrite`, `requestWrite` -- what the
    transaction writes of a row; `effect`, `Step` -- both together, under a clock that never goes
    back;
  * `effect_worker`, `effect_request`, `effect_mem` -- a step taken apart again.

  Where a transaction of the source spans several of these steps -- a recovery that finds nothing
  and the claim after it, a bulk cancel that flushes one row before it reads the next -- others may
  act in between here and may not there: the runs of the source are among the runs of `Step`.
-/
import RetroBridge.Library.Run
import RetroBridge.Jobs.RunJob

namespace RetroBridge.Jobs

open Relational Transition

/-! ## 1. States -/

/-- A claim, as `claim_job` holds it when its UPDATE is committed: the id it returned, the port,
    and the time it wrote (`claimed_by` is the worker's own id). -/
structure Claim where
  jobId : Nat
  portId : Nat
  claimedAt : Time

/-- Where a worker is in `worker_loop`. -/
inductive WorkerPhase where
  | top
  | sweep (orphans : List Job)
  | claim (deviceId : Nat) (ports : List DevicePort)
  | claimed (c : Claim)
  | noPort (c : Claim) (loaded obj : Job)
  | execute (c : Claim) (loaded : Job) (port : DevicePort) (run : RunState)

/-- The claim of a worker between its claim commit and its final commit. -/
def WorkerPhase.claim? : WorkerPhase → Option Claim
  | .claimed c | .noPort c _ _ | .execute c _ _ _ => some c
  | .top | .sweep _ | .claim _ _ => none

/-- The row as loaded and the object that `session.commit()` is called for next. -/
def WorkerPhase.commits? : WorkerPhase → Option (Job × Job)
  | .noPort _ loaded obj => some (loaded, obj)
  | .execute _ loaded _ ⟨obj, .decided⟩ => some (loaded, obj)
  | _ => none

/-- Where a web request is. -/
inductive RequestPhase where
  | idle
  | cancel (dirty : Dirty)
  | begun (sub : Submission)
  | checked (sub : Submission)
  | flushed (job : Job)

/-- The request is inside the critical section of `create_job`. -/
def RequestPhase.creating : RequestPhase → Bool
  | .begun _ | .checked _ | .flushed _ => true
  | .idle | .cancel _ => false

/-- **The system**: the committed rows, the clock, the request that holds the write lock, and
    where every process is. -/
structure Sys where
  jobs : Table Job
  clock : Time
  writer : Option Nat
  worker : Worker → WorkerPhase
  request : Nat → RequestPhase

def Sys.setWorker (s : Sys) (w : Worker) (ph : WorkerPhase) : Sys :=
  { s with worker := Function.update s.worker w ph }

def Sys.setRequest (s : Sys) (r : Nat) (ph : RequestPhase) : Sys :=
  { s with request := Function.update s.request r ph }

@[simp] theorem Sys.setWorker_jobs (s : Sys) (w : Worker) (ph : WorkerPhase) :
    (s.setWorker w ph).jobs = s.jobs := rfl
@[simp] theorem Sys.setWorker_writer (s : Sys) (w : Worker) (ph : WorkerPhase) :
    (s.setWorker w ph).writer = s.writer := rfl
@[simp] theorem Sys.setWorker_request (s : Sys) (w : Worker) (ph : WorkerPhase) :
    (s.setWorker w ph).request = s.request := rfl
@[simp] theorem Sys.setWorker_self (s : Sys) (w : Worker) (ph : WorkerPhase) :
    (s.setWorker w ph).worker w = ph := Function.update_self ..
theorem Sys.setWorker_other (s : Sys) {w v : Worker} (ph : WorkerPhase) (h : v ≠ w) :
    (s.setWorker w ph).worker v = s.worker v := Function.update_of_ne h ..
@[simp] theorem Sys.setRequest_jobs (s : Sys) (r : Nat) (ph : RequestPhase) :
    (s.setRequest r ph).jobs = s.jobs := rfl
@[simp] theorem Sys.setRequest_worker (s : Sys) (r : Nat) (ph : RequestPhase) :
    (s.setRequest r ph).worker = s.worker := rfl
@[simp] theorem Sys.setRequest_self (s : Sys) (r : Nat) (ph : RequestPhase) :
    (s.setRequest r ph).request r = ph := Function.update_self ..
theorem Sys.setRequest_other (s : Sys) {r q : Nat} (ph : RequestPhase) (h : q ≠ r) :
    (s.setRequest r ph).request q = s.request q := Function.update_of_ne h ..

/-- No process has begun anything. -/
structure Sys.Started (s : Sys) : Prop where
  writer : s.writer = none
  worker : ∀ w, s.worker w = .top
  request : ∀ r, s.request r = .idle

/-! ## 2. Workers -/

inductive WorkerAct where
  | sweepRead
  | sweepCommit
  | recover
  | claimPort (jobId : Nat)
  | claimSkip
  | claimNone
  | load
  | run (ev : RunEvent)
  | heartbeat (stored : Bool)
  | finish
  | abandon

/-- The place worker `w` moves to, `none` where the act is not its next one. -/
def workerMove (site : JobSite) (s : Sys) (w : Worker) : WorkerAct → Option WorkerPhase
  | .sweepRead =>
    match s.worker w, enabledDevice? site.toSite w.deviceName with
    | .top, some d => some (.sweep (orphans s.jobs d.id))
    | _, _ => none
  | .sweepCommit =>
    match s.worker w with
    | .sweep (_ :: rest) => if s.writer = none then some (.sweep rest) else none
    | _ => none
  | .recover =>
    match s.worker w, enabledDevice? site.toSite w.deviceName with
    | .sweep [], some d =>
      if s.writer = none then some (.claim d.id (enabledPorts site.toSite d.id .jobQueue)) else none
    | _, _ => none
  | .claimPort k =>
    match s.worker w, s.jobs.get? k with
    | .claim deviceId (p :: _), some j =>
      if s.writer = none ∧ hasSlot s.jobs p = true ∧ isNext s.jobs deviceId j = true then
        some (.claimed ⟨k, p.id, s.clock⟩)
      else none
    | _, _ => none
  | .claimSkip =>
    match s.worker w with
    | .claim deviceId (p :: ps) =>
      if hasSlot s.jobs p && s.jobs.rows.any (candidate deviceId) then none
      else some (.claim deviceId ps)
    | _ => none
  | .claimNone =>
    match s.worker w with
    | .claim _ [] => some .top
    | _ => none
  | .load =>
    match s.worker w with
    | .claimed c =>
      match s.jobs.get? c.jobId with
      | none => some .top
      | some job =>
        match job.portId.bind site.ports.get? with
        | some port => some (.execute c job port ⟨job, .entry⟩)
        | none => some (.noPort c job ((Outcome.failed "No port assigned").record s.clock job))
    | _ => none
  | .run ev =>
    match s.worker w with
    | .execute c loaded port rs =>
      (runStep site port s.clock (s.jobs.get? loaded.id) rs ev).map (.execute c loaded port ·)
    | _ => none
  | .heartbeat stored =>
    match s.worker w with
    | .execute c loaded port rs =>
      if stored = true ∧ s.writer ≠ none then none
      else (afterBeat rs).map (.execute c loaded port ·)
    | _ => none
  | .finish =>
    match (s.worker w).commits? with
    | some _ => if s.writer = none then some .top else none
    | none => none
  | .abandon => some .top

/-- What the act writes of one row. -/
def workerWrite (site : JobSite) (s : Sys) (w : Worker) (a : WorkerAct) (row : Job) : Job :=
  match a with
  | .sweepCommit =>
    match s.worker w with
    | .sweep (oj :: _) => sweepRow oj row
    | _ => row
  | .recover =>
    match enabledDevice? site.toSite w.deviceName with
    | some d => recoverRow s.clock d.id (cancelsStale s.clock d.id s.jobs) row
    | none => row
  | .claimPort k =>
    match s.worker w with
    | .claim _ (p :: _) => claimRow s.clock w p k row
    | _ => row
  | .heartbeat true =>
    match s.worker w with
    | .execute _ loaded _ _ => beatRow s.clock loaded.id row
    | _ => row
  | .finish =>
    match (s.worker w).commits? with
    | some (loaded, obj) => Table.atKey loaded.id (ormFlush loaded obj) row
    | none => row
  | _ => row

theorem workerWrite_id (site : JobSite) (s : Sys) (w : Worker) (a : WorkerAct) (row : Job) :
    (workerWrite site s w a row).id = row.id := by
  unfold workerWrite
  split
  · split
    · exact sweepRow_id _ row
    · rfl
  · split
    · exact recoverRow_id _ _ _ row
    · rfl
  · split
    · exact claimRow_id _ _ _ _ row
    · rfl
  · split
    · exact beatRow_key _ _ row
    · rfl
  · split
    · exact Table.atKey_key (ormFlush _ _) (fun _ => rfl) row
    · rfl
  · rfl

/-! ## 3. Requests -/

inductive RequestAct where
  | cancelRead (jobId userId : Nat) (isAdmin : Bool)
  | bulkRead (jobId : Nat)
  | cancelCommit
  | createBegin (sub : Submission)
  | createCheck
  | createFlush (storedFilename : String) (size : Nat)
  | createCommit
  | createAbort

/-- Add an object to those a request has changed. -/
def addDirty (row obj : Option Job) (dirty : Dirty) : Dirty :=
  match row, obj with
  | some j, some o => dirty ++ [(j, o)]
  | _, _ => dirty

/-- The place request `r` moves to and the holder of the write lock then. -/
def requestMove (site : Site) (s : Sys) (r : Nat) :
    RequestAct → Option (RequestPhase × Option Nat)
  | .cancelRead k userId isAdmin =>
    match s.request r with
    | .idle =>
      some (.cancel (addDirty (s.jobs.get? k) (cancelJob (s.jobs.get? k) userId isAdmin).1 []),
        s.writer)
    | _ => none
  | .bulkRead k =>
    match s.request r with
    | .idle =>
      some (.cancel (addDirty (s.jobs.get? k) (bulkCancelOne (s.jobs.get? k)) []), s.writer)
    | .cancel dirty =>
      -- a row read twice is one object, whose request is set by then
      if dirty.any fun it => it.1.id == k then some (.cancel dirty, s.writer)
      else
        some (.cancel (addDirty (s.jobs.get? k) (bulkCancelOne (s.jobs.get? k)) dirty), s.writer)
    | _ => none
  | .cancelCommit =>
    match s.request r with
    | .cancel _ => if s.writer = none then some (.idle, none) else none
    | _ => none
  | .createBegin sub =>
    match s.request r, site.devices.get? sub.deviceId with
    | .idle, some d =>
      if d.isEnabled = true ∧ s.writer = none then some (.begun sub, some r) else none
    | _, _ => none
  | .createCheck =>
    match s.request r with
    | .begun sub =>
      match site.users.get? sub.userId with
      | some user =>
        if (getUserQuota site s.jobs user).2.2 = false ∧
            (checkRateLimit site s.clock s.jobs sub.userId).1 = false then
          some (.checked sub, s.writer)
        else none
      | none => none
    | _ => none
  | .createFlush storedFilename size =>
    match s.request r with
    | .checked sub =>
      some (.flushed (newJob sub s.clock s.jobs.nextKey storedFilename size), s.writer)
    | _ => none
  | .createCommit =>
    match s.request r with
    | .flushed _ => some (.idle, none)
    | _ => none
  | .createAbort => if (s.request r).creating then some (.idle, none) else none

/-- What the act writes of one row that is there. -/
def requestWrite (s : Sys) (r : Nat) (a : RequestAct) (row : Job) : Job :=
  match a with
  | .cancelCommit =>
    match s.request r with
    | .cancel dirty => cancelRow dirty row
    | _ => row
  | _ => row

theorem requestWrite_id (s : Sys) (r : Nat) (a : RequestAct) (row : Job) :
    (requestWrite s r a row).id = row.id := by
  unfold requestWrite
  split
  · split
    · exact cancelRow_id _ row
    · rfl
  · rfl

/-- The row a commit of `create_job` adds. -/
def created? (s : Sys) (r : Nat) : RequestAct → Option Job
  | .createCommit =>
    match s.request r with
    | .flushed job => some job
    | _ => none
  | _ => none

/-! ## 4. Steps -/

inductive Act where
  | worker (w : Worker) (a : WorkerAct)
  | request (r : Nat) (a : RequestAct)

/-- What an act writes of one row that is there. -/
def rowWrite (site : JobSite) (s : Sys) (a : Act) (row : Job) : Job :=
  match a with
  | .worker w a => workerWrite site s w a row
  | .request r a => requestWrite s r a row

theorem rowWrite_id (site : JobSite) (s : Sys) (a : Act) (j : Job) :
    (rowWrite site s a j).id = j.id := by
  cases a with
  | worker w a => exact workerWrite_id site s w a j
  | request r a => exact requestWrite_id s r a j

/-- The rows there are, as the act leaves them. -/
def writeRows (site : JobSite) (s : Sys) (a : Act) : Table Job :=
  s.jobs.mapRows (rowWrite site s a) (rowWrite_id site s a)

theorem writeRows_same {site : JobSite} {s : Sys} {a : Act}
    (h : ∀ row ∈ s.jobs, rowWrite site s a row = row) : writeRows site s a = s.jobs :=
  Table.mapRows_id h

/-- The table after an act. -/
def writeJobs (site : JobSite) (s : Sys) : Act → Table Job
  | .worker w a => writeRows site s (.worker w a)
  | .request r a =>
    match created? s r a with
    | some job => (writeRows site s (.request r a)).insert job
    | none => writeRows site s (.request r a)

/-- **One act**: the process moves and its transaction is written. -/
def effect (site : JobSite) (s : Sys) (a : Act) : Option Sys :=
  match a with
  | .worker w wa =>
    (workerMove site s w wa).map fun ph => { s.setWorker w ph with jobs := writeJobs site s a }
  | .request r ra =>
    (requestMove site.toSite s r ra).map fun ph =>
      { s.setRequest r ph.1 with writer := ph.2, jobs := writeJobs site s a }

/-- An act with its time. -/
abbrev Label := Time × Act

def Sys.at (s : Sys) (now : Time) : Sys := { s with clock := now }

@[simp] theorem Sys.at_jobs (s : Sys) (now : Time) : (s.at now).jobs = s.jobs := rfl

/-- Take an act at a time that is not before the clock. -/
def exec (site : JobSite) (s : Sys) (l : Label) : Option Sys :=
  if s.clock ≤ l.1 then effect site (s.at l.1) l.2 else none

/-- **The step relation of the job queue.** -/
def Step (site : JobSite) (s : Sys) (l : Label) (s' : Sys) : Prop := exec site s l = some s'

section Inversion

variable {site : JobSite} {s s' : Sys} {l : Label}

/-- The act of a step, on the state with the clock advanced. -/
theorem Step.effect (h : Step site s l s') :
    s.clock ≤ l.1 ∧ effect site (s.at l.1) l.2 = some s' := by
  unfold Step exec at h
  split at h
  · rename_i hc
    exact ⟨hc, h⟩
  · cases h

/-- A worker's step: it moves, the others stay, the rows are rewritten. -/
theorem effect_worker {w : Worker} {a : WorkerAct}
    (h : Jobs.effect site s (.worker w a) = some s') :
    ∃ ph, workerMove site s w a = some ph ∧
      s' = { s.setWorker w ph with jobs := writeRows site s (.worker w a) } := by
  obtain ⟨ph, hph, rfl⟩ := Option.map_eq_some_iff.mp h
  exact ⟨ph, hph, rfl⟩

/-- A request's step. -/
theorem effect_request {r : Nat} {a : RequestAct}
    (h : Jobs.effect site s (.request r a) = some s') :
    ∃ ph, requestMove site.toSite s r a = some ph ∧
      s' = { s.setRequest r ph.1 with
        writer := ph.2, jobs := writeJobs site s (.request r a) } := by
  obtain ⟨ph, hph, rfl⟩ := Option.map_eq_some_iff.mp h
  exact ⟨ph, hph, rfl⟩

/-- **The rows after a step**: the rows there were, rewritten, and at most one new one. -/
theorem effect_mem {a : Act} (h : Jobs.effect site s a = some s') {row' : Job}
    (hr : row' ∈ s'.jobs) :
    (∃ row ∈ s.jobs, row' = rowWrite site s a row) ∨
      ∃ r, a = .request r .createCommit ∧ s.request r = .flushed row' := by
  have old : ∀ {q : Job}, q ∈ writeRows site s a → ∃ row ∈ s.jobs, q = rowWrite site s a row := by
    intro q hq
    obtain ⟨row, hrow, e⟩ := Table.mem_mapRows.mp hq
    exact ⟨row, hrow, e.symm⟩
  cases a with
  | worker w a =>
      obtain ⟨ph, _, rfl⟩ := effect_worker h
      exact Or.inl (old hr)
  | request r a =>
      obtain ⟨ph, _, rfl⟩ := effect_request h
      simp only [writeJobs] at hr
      split at hr
      · rename_i job hjob
        rcases Table.mem_insert hr with hr | rfl
        · exact Or.inl (old hr)
        · cases a <;> simp only [created?, reduceCtorEq] at hjob
          split at hjob
          · rename_i hfl
            cases hjob
            exact Or.inr ⟨r, rfl, hfl⟩
          · cases hjob
      · exact Or.inl (old hr)

/-- No step loses a row. -/
theorem effect_mem_of {a : Act} (h : Jobs.effect site s a = some s') {row : Job}
    (hr : row ∈ s.jobs) :
    rowWrite site s a row ∈ s'.jobs := by
  have hm : rowWrite site s a row ∈ writeRows site s a := Table.mem_mapRows_of hr
  cases a with
  | worker w a =>
      obtain ⟨ph, _, rfl⟩ := effect_worker h
      exact hm
  | request r a =>
      obtain ⟨ph, _, rfl⟩ := effect_request h
      simp only [writeJobs]
      split
      · exact Table.mem_insert_of_mem hm
      · exact hm

/-- A row after a step is the row of its id rewritten. -/
theorem effect_row {a : Act} (h : Jobs.effect site s a = some s') {row row' : Job}
    (hr : row ∈ s.jobs) (hr' : row' ∈ s'.jobs) (hid : row'.id = row.id) :
    row' = rowWrite site s a row :=
  Table.eq_of_key hr' (effect_mem_of h hr) (hid.trans (rowWrite_id site s a row).symm)

/-- **A worker over a step**: it stays where it is, or the act is its own. -/
theorem Step.worker_cases (h : Step site s l s') (w : Worker) :
    (s'.worker w = s.worker w ∧ ∀ a, l.2 ≠ .worker w a) ∨
      ∃ a, l.2 = .worker w a ∧ workerMove site (s.at l.1) w a = some (s'.worker w) := by
  obtain ⟨_, he⟩ := h.effect
  obtain ⟨now, a⟩ := l
  cases a with
  | request r a =>
      obtain ⟨ph, _, rfl⟩ := effect_request he
      exact Or.inl ⟨rfl, by simp⟩
  | worker v a =>
      obtain ⟨ph, hph, rfl⟩ := effect_worker he
      by_cases hv : w = v
      · subst hv
        have e : ((s.at now).setWorker w ph).worker w = ph := Sys.setWorker_self ..
        exact Or.inr ⟨a, rfl, hph.trans (congrArg some e.symm)⟩
      · refine Or.inl ⟨Sys.setWorker_other _ _ hv, fun b heq => ?_⟩
        injection heq with hw _
        exact hv hw.symm

/-- **A request over a step**: it stays where it is, or the act is its own. -/
theorem Step.request_cases (h : Step site s l s') (r : Nat) :
    s'.request r = s.request r ∨
      ∃ a ph, l.2 = .request r a ∧ requestMove site.toSite (s.at l.1) r a = some ph ∧
        s'.request r = ph.1 := by
  obtain ⟨_, he⟩ := h.effect
  obtain ⟨now, a⟩ := l
  cases a with
  | worker w a =>
      obtain ⟨ph, _, rfl⟩ := effect_worker he
      exact Or.inl rfl
  | request q a =>
      obtain ⟨ph, hph, rfl⟩ := effect_request he
      by_cases hq : r = q
      · subst hq
        exact Or.inr ⟨a, ph, rfl, hph, Sys.setRequest_self ..⟩
      · exact Or.inl (Sys.setRequest_other _ _ hq)

end Inversion

/-! ## 5. A small installation -/

/-- One user, one device with one job port for one job at a time, three jobs an hour. -/
def smallSite : JobSite where
  users := Table.empty.insert ⟨1, false, 2, 1, none⟩
  devices := Table.empty.insert ⟨1, "centurion", none, true⟩
  ports := Table.empty.insert
    { id := 1, deviceId := 1, portLabel := "CRT0", transport := none, devPath := "/dev/ttyUSB0",
      purpose := .jobQueue, baud := none, maxConcurrentJobs := some 1, maxRuntimeSeconds := none,
      idleTimeoutSeconds := none, isEnabled := true }
  intSetting key := if key = "MAX_JOBS_PER_HOUR" then some 3 else none
  uploadsDir := "uploads"
  outputsDir := "outputs"
  resolveCmds _ _ _ := []

def smallSubmission : Submission := ⟨1, 1, "hello.hex", 0, none, none, none⟩

/-- One queued job and nobody at work. -/
def smallStart : Sys where
  jobs := Table.empty.insert (newJob smallSubmission 0 1 "job-1/hello.hex" 64)
  clock := 0
  writer := none
  worker _ := .top
  request _ := .idle

theorem smallStart_started : smallStart.Started := ⟨rfl, fun _ => rfl, fun _ => rfl⟩

/-- Two workers of the device. -/
def workerA : Worker := ⟨"bridge", 100, "centurion"⟩
def workerB : Worker := ⟨"bridge", 101, "centurion"⟩

/-- One turn of `worker_loop` up to the claim of job 1. -/
def claimSteps (now : Time) (w : Worker) : List Label :=
  [.sweepRead, .recover, .claimPort 1].map fun a => (now, .worker w a)

/-- The claimed row is loaded and its execution gets to the modem. -/
def transferSteps (now : Time) (w : Worker) : List Label :=
  [.load, .run (.prepared true), .run .ok, .run .ok, .run .ok, .run (.received []), .run .ok,
    .run .ok].map fun a => (now, .worker w a)

end RetroBridge.Jobs
