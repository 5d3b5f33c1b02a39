/-
  File:      RetroBridge/Jobs/Pages.lean
  Subject:   THE JOB PAGES (retrobridge/jobs/routes.py: `new`, `detail`, `download`, `cancel`;
             retrobridge/api/routes.py: `list_jobs`, `job_status`, `job_output`, `cancel_job`,
             `admin_cancel_job`; retrobridge/jobs/utils.py: `get_job_or_403`, `job_status_dict`,
             `load_output_content`, `get_device_stats`), each request one step on the committed
             rows and the logs.

  * `PageRequest`, `Response`, `respond` -- the requests, and what each answers and commits;
  * `NewPage`, `newPage` -- what `new` renders: with the user's own jobs, the queue of each device;
  * `Work`, `Work.write` -- what a commit of a worker can leave of a row;
  * `Event`, `Event.next` -- a request, a commit of a worker, a piece of output.

  Left out of the statistics of a device are its ports and its terminal sessions.
-/
import RetroBridge.Jobs.BulkCancel
import RetroBridge.Jobs.Creation
import RetroBridge.Jobs.OutputTail
import RetroBridge.Jobs.Outputs
import Mathlib.Data.List.Sort

namespace RetroBridge.Jobs.Pages

open Relational TextFiles

/-! ## 1. State and requests -/

/-- The committed rows, and the files there are at the paths of the outputs. -/
structure Board where
  jobs : Table Job
  files : String → Option (List UInt8)

/-- `current_user`. -/
structure Account where
  id : Nat
  isAdmin : Bool
  deriving DecidableEq

/-- The requests; a query argument is what `type=int` reads of it, none where it is absent or does
    not parse. -/
inductive PageRequest where
  | listJobs (page perPage : Option Int)
  | jobStatus (jobId : Nat)
  | jobOutput (jobId : Nat) (tail : Option Int)
  | detail (jobId : Nat)
  | download (jobId : Nat)
  | cancelJob (jobId : Nat)
  | adminCancelJob (jobId : Nat)
  | cancel (jobId : Nat)
  | newForm
  | new (form : Creation.CreateArgs)

/-- The job that a request names. -/
def PageRequest.jobId? : PageRequest → Option Nat
  | .jobStatus k | .jobOutput k _ | .detail k | .download k | .cancelJob k | .adminCancelJob k
  | .cancel k => some k
  | .listJobs _ _ | .newForm | .new _ => none

/-- One entry of `list_jobs`. -/
structure Listed where
  id : Nat
  status : JobStatus
  deviceId : Nat
  originalFilename : String
  createdAt : Time
  priority : Int
  deriving DecidableEq

/-- `job_status_dict`. -/
structure StatusDict where
  id : Nat
  status : JobStatus
  device : Option String
  createdAt : Time
  startedAt : Option Time
  finishedAt : Option Time
  runtimeSeconds : Option Int
  errorMessage : Option String
  exitCode : Option Int
  outputPath : Bool
  deriving DecidableEq

/-- An entry of `get_device_stats`. -/
structure DeviceStats where
  id : Nat
  name : String
  displayName : String
  isEnabled : Bool
  queueCount : Nat
  runningCount : Nat
  deriving DecidableEq

/-- The context of `new.html`. -/
structure NewPage where
  deviceStats : List DeviceStats
  quotaUsed : Nat
  quotaMax : Int
  lastJob : Option Job
  maxPerHour : Int
  maxUploadBytes : Int
  deriving DecidableEq

inductive Response where
  | jobs (listed : List Listed) (total : Nat) (pages currentPage : Int)
  | status (dict : StatusDict)
  | lines (lines : List (List Char))
  | detail (job : Job) (outputContent : List Char)
  | attachment (content : List UInt8) (downloadName : String)
  | outcome (success : Bool) (message : String) (code : Nat)
  | error (message : String) (code : Nat)
  | abort (code : Nat)
  | flashDashboard (message : String)
  | flashDetail (message : String) (jobId : Nat)
  | form (flash : Option String) (page : NewPage)
  | raised
  deriving DecidableEq

/-! ## 2. What the pages read -/

section Reading

variable (site : Site) (b : Board) (who : Account)

/-- `get_job_or_403`. -/
def getJobOr403 (jobId : Nat) : Except Nat Job :=
  match b.jobs.get? jobId with
  | none => .error 404
  | some j => if j.userId ≠ who.id ∧ who.isAdmin = false then .error 403 else .ok j

/-- A path that is set and not empty. -/
def output? (j : Job) : Option String := j.outputPath.filter (· ≠ "")

def jobStatusDict (j : Job) : StatusDict where
  id := j.id
  status := j.status
  device := (site.devices.get? j.deviceId).map Device.name
  createdAt := j.createdAt
  startedAt := j.startedAt
  finishedAt := j.finishedAt
  runtimeSeconds := j.runtimeSeconds
  errorMessage := j.errorMessage
  exitCode := j.exitCode
  outputPath := (output? j).isSome

/-- `load_output_content`. -/
def loadOutputContent (j : Job) : List Char :=
  match (output? j).bind b.files with
  | some content => text content
  | none => []

/-- `MAX_PER_PAGE`. -/
def maxPerPage : Int := 100

/-- `MAX_OUTPUT_TAIL`. -/
def maxOutputTail : Int := 10000

/-- `display_name or name`. -/
def displayName (d : Device) : String := (d.displayName.filter (· ≠ "")).getD d.name

/-- `order_by(Device.name)`. -/
def byName (devices : List Device) : List Device :=
  devices.insertionSort fun d e => d.name ≤ e.name

/-- **`get_device_stats`**: the queued and the running jobs of each enabled device, whosever. -/
def getDeviceStats : List DeviceStats :=
  (byName (site.devices.rows.filter Device.isEnabled)).map fun d =>
    ⟨d.id, d.name, displayName d, d.isEnabled,
      b.jobs.count fun j => j.deviceId == d.id && j.status == .queued,
      b.jobs.count fun j => j.deviceId == d.id && j.status == .running⟩

def listed (j : Job) : Listed where
  id := j.id
  status := j.status
  deviceId := j.deviceId
  originalFilename := j.originalFilename
  createdAt := j.createdAt
  priority := j.priority

/-- `order_by(Job.created_at.desc())`. -/
def newestFirst (rows : List Job) : List Job :=
  rows.insertionSort fun i j => j.createdAt ≤ i.createdAt

/-- The rows `list_jobs` selects. -/
def selected : List Job :=
  if who.isAdmin then b.jobs.rows else b.jobs.rows.filter fun j => j.userId == who.id

/-- `list_jobs`; SQLite takes no offset of more than 64 bits. -/
def listJobs (page perPage : Option Int) : Response :=
  let perPage := max (min (perPage.getD 20) maxPerPage) 1
  let page := max (page.getD 1) 1
  let query := newestFirst (selected b who)
  let total := query.length
  let offset := (page - 1) * perPage
  if bindable offset = false then .raised
  else
    .jobs (((query.drop offset.toNat).take perPage.toNat).map listed) total
      ((total + perPage - 1) / perPage) page

/-- `get_int("MAX_UPLOAD_SIZE_BYTES") or 8 MB`. -/
def maxUploadBytes : Int :=
  if getInt site "MAX_UPLOAD_SIZE_BYTES" = 0 then 8 * 1024 * 1024
  else getInt site "MAX_UPLOAD_SIZE_BYTES"

/-- **What `new` renders** for a user. -/
def newPage (now : Time) (user : User) : NewPage where
  deviceStats := getDeviceStats site b
  quotaUsed := (getUserQuota site b.jobs user).1
  quotaMax := (getUserQuota site b.jobs user).2.1
  lastJob := (newestFirst (b.jobs.rows.filter fun j => j.userId == user.id)).head?
  maxPerHour := (checkRateLimit site now b.jobs user.id).2
  maxUploadBytes := maxUploadBytes site

/-- `new`, the form itself. -/
def newForm (now : Time) : Response :=
  match site.users.get? who.id with
  | none => .raised
  | some user => .form none (newPage site b now user)

/-- The error of the JSON routes. -/
def refusal (code : Nat) : Response := .error (if code = 403 then "Forbidden" else "Not found") code

def jobStatus (jobId : Nat) : Response :=
  match getJobOr403 b who jobId with
  | .error code => refusal code
  | .ok j => .status (jobStatusDict site j)

def jobOutput (jobId : Nat) (tail : Option Int) : Response :=
  match getJobOr403 b who jobId with
  | .error code => refusal code
  | .ok j =>
    match output? j with
    | none => .lines []
    | some path =>
      let tail := tail.getD maxOutputTail
      let tail := if tail < 1 ∨ maxOutputTail < tail then maxOutputTail else tail
      .lines (Tail.readOutputTail (b.files path) (some tail))

def detail (jobId : Nat) : Response :=
  match getJobOr403 b who jobId with
  | .error code => if code = 404 then .flashDashboard "Job not found." else .abort 403
  | .ok j => .detail j (loadOutputContent b j)

def download (jobId : Nat) : Response :=
  match getJobOr403 b who jobId with
  | .error code => .abort code
  | .ok j =>
    match output? j with
    | none => .flashDetail "No output available for this job." j.id
    | some path =>
      match b.files path with
      | some content => .attachment content s!"job-{j.id}-output.log"
      | none => .abort 404

end Reading

/-! ## 3. What the pages write -/

section Writing

variable (site : Site) (secureFilename : String → String) (now : Time) (b : Board) (who : Account)

/-- The call of `cancel_job` with its commit, and what it answers. -/
def canceled (jobId : Nat) (isAdmin : Bool) : Board × Bool × String :=
  let job := b.jobs.get? jobId
  let answer := Jobs.cancelJob job who.id isAdmin
  ({ b with jobs := commitDirty (addDirty job answer.1 []) b.jobs }, answer.2)

/-- `cancel_job` of the API. -/
def cancelJob (jobId : Nat) : Response × Board :=
  let (b', success, message) := canceled b who jobId who.isAdmin
  if success then (.outcome true message 200, b')
  else (.outcome false message (if message = "Job not found" then 404 else 400), b')

def adminCancelJob (jobId : Nat) : Response × Board :=
  if who.isAdmin = false then (.error "Forbidden" 403, b)
  else
    let (b', success, message) := canceled b who jobId true
    (.outcome success message (if success then 200 else 404), b')

/-- `cancel` of the pages, which never cancels for an administrator. -/
def cancel (jobId : Nat) : Response × Board :=
  let (b', success, message) := canceled b who jobId false
  if success = false ∧ message = "Not authorized" then (.abort 403, b')
  else (.flashDetail message jobId, b')

/-- Calls that all answer. -/
def calm : Creation.Surroundings where
  now := now
  loadedDevice := none
  flushSends := false
  secureFilename := secureFilename
  raises _ := false
  save := .saved
  commit := .committed

/-- The arguments `new` passes on: the commands are an administrator's only. -/
def createArgs (form : Creation.CreateArgs) : Creation.CreateArgs :=
  { form with
    userId := who.id
    preTransferCmds := if who.isAdmin then form.preTransferCmds else ""
    postTransferCmds := if who.isAdmin then form.postTransferCmds else "" }

/-- `create_job` in a session with no transaction. -/
def created (form : Creation.CreateArgs) : Except Creation.CreateError Job × Table Job :=
  let r := Creation.createJob site (calm secureFilename now) (createArgs who form)
    ⟨b.jobs, none, fun _ => false, fun _ => none⟩
  (r.1, r.2.jobs)

/-- `new`, on a form that validates. -/
def new (form : Creation.CreateArgs) : Response × Board :=
  match site.users.get? who.id with
  | none => (.raised, b)
  | some user =>
    let page := newPage site b now user
    let (rateLimited, maxPerHour) := checkRateLimit site now b.jobs who.id
    if rateLimited then
      (.form (some (s!"Rate limit reached: {maxPerHour} jobs per hour. " ++
        "Please wait before submitting another job.")) page, b)
    else if (getUserQuota site b.jobs user).2.2 then
      (.form (some "You have reached your maximum number of queued/running jobs.") page, b)
    else
      match created site secureFilename now b who form with
      | (.ok job, jobs) =>
        (.flashDetail s!"Job #{job.id} submitted successfully." job.id, { b with jobs := jobs })
      | (.error (.valueError message), _) => (.form (some message) page, b)
      | (.error _, _) => (.raised, b)

/-- **One request**: what it answers, and what is committed behind it. An id that SQLite cannot hold
    raises. -/
def respond (r : PageRequest) : Response × Board :=
  if r.jobId?.any (fun k => !bindable k) then (.raised, b)
  else
    match r with
    | .listJobs page perPage => (listJobs b who page perPage, b)
    | .jobStatus k => (jobStatus site b who k, b)
    | .jobOutput k tail => (jobOutput b who k tail, b)
    | .detail k => (detail b who k, b)
    | .download k => (download b who k, b)
    | .cancelJob k => cancelJob b who k
    | .adminCancelJob k => adminCancelJob b who k
    | .cancel k => cancel b who k
    | .newForm => (newForm site b who now, b)
    | .new form => new site secureFilename now b who form

end Writing

/-! ## 4. Workers -/

/-- **What a commit of a worker leaves of a row**: its own columns, and the output path if it sets
    it. -/
structure Work where
  status : JobStatus
  portId : Option Nat
  startedAt : Option Time
  finishedAt : Option Time
  runtimeSeconds : Option Int
  exitCode : Option Int
  errorMessage : Option String
  workerPid : Option Nat
  claimedBy : Option String
  claimedAt : Option Time
  leaseExpiresAt : Option Time
  heartbeatAt : Option Time
  cancelRequested : Bool
  setsOutputPath : Bool

def Work.write (site : Site) (w : Work) (j : Job) : Job :=
  { j with
    status := w.status
    portId := w.portId
    startedAt := w.startedAt
    finishedAt := w.finishedAt
    runtimeSeconds := w.runtimeSeconds
    exitCode := w.exitCode
    outputPath := if w.setsOutputPath then some (sessionLog site j) else j.outputPath
    errorMessage := w.errorMessage
    workerPid := w.workerPid
    claimedBy := w.claimedBy
    claimedAt := w.claimedAt
    leaseExpiresAt := w.leaseExpiresAt
    heartbeatAt := w.heartbeatAt
    cancelRequested := w.cancelRequested }

/-- The columns a row has. -/
def Work.of (j : Job) (setsOutputPath : Bool) : Work where
  status := j.status
  portId := j.portId
  startedAt := j.startedAt
  finishedAt := j.finishedAt
  runtimeSeconds := j.runtimeSeconds
  exitCode := j.exitCode
  errorMessage := j.errorMessage
  workerPid := j.workerPid
  claimedBy := j.claimedBy
  claimedAt := j.claimedAt
  leaseExpiresAt := j.leaseExpiresAt
  heartbeatAt := j.heartbeatAt
  cancelRequested := j.cancelRequested
  setsOutputPath := setsOutputPath

/-! ## 5. Events -/

/-- What happens to the rows and the logs: a request, a commit of a worker to a row, a piece that
    it writes to the job's `session.log`, and a new row of which nothing is told but whose it is. -/
inductive Event where
  | request (now : Time) (who : Account) (r : PageRequest)
  | work (jobId : Nat) (w : Work)
  | output (jobId : Nat) (piece : List UInt8)
  | taken (userId : Nat)

/-- A row of which nothing is told. -/
def blankJob (id userId : Nat) : Job :=
  newJob ⟨userId, 0, "", 0, none, none, none⟩ 0 id "" 0

/-- The `session.log` of a job. -/
def logPath (site : Site) (jobId : Nat) : String := outputDir site jobId ++ "/session.log"

theorem logPath_inj {site : Site} {i j : Nat} (h : logPath site i = logPath site j) : i = j := by
  have hdir : Paths.parent (sessionLog site (blankJob i 0)) =
      Paths.parent (sessionLog site (blankJob j 0)) := congrArg Paths.parent h
  rw [parent_sessionLog, parent_sessionLog] at hdir
  exact outputDir_inj hdir

/-- The commit of a worker to one row. -/
def Board.worked (site : Site) (b : Board) (jobId : Nat) (w : Work) : Board :=
  { b with
    jobs := b.jobs.mapRows (Table.atKey jobId (w.write site))
      (Table.atKey_key (w.write site) fun _ => rfl) }

/-- A piece of output of a job that has a row. -/
def Board.wrote (site : Site) (b : Board) (jobId : Nat) (piece : List UInt8) : Board :=
  match b.jobs.get? jobId with
  | none => b
  | some _ =>
    let path := logPath site jobId
    { b with files := Function.update b.files path (some ((b.files path).getD [] ++ piece)) }

/-- The rows and the logs after an event. -/
def Event.next (site : Site) (secureFilename : String → String) (b : Board) : Event → Board
  | .request now who r => (respond site secureFilename now b who r).2
  | .work k w => b.worked site k w
  | .output k piece => b.wrote site k piece
  | .taken userId => { b with jobs := b.jobs.insert (blankJob b.jobs.nextKey userId) }

end RetroBridge.Jobs.Pages
