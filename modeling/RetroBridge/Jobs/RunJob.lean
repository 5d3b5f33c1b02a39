/-
  File:      RetroBridge/Jobs/RunJob.lean
  Subject:   ONE EXECUTION (worker.py: `run_job_on_device`, `_check_job_cancelled`), as a machine
             that takes one step for every call whose answer comes from outside.

  The machine holds the ORM object of the claimed job and the place in the function. Its
  environment answers each call: the device, the modem, the files (`RunEvent`), the database (the
  row a cancellation check reads) and the clock.

  * `RunPhase`, `RunEvent`, `runStep` -- the places, the answers, the step. A `fault` is any
    exception that reaches the outer handlers; the two read loops that swallow read errors have
    their own answer for them;
  * `Outcome`, `Outcome.record` -- what an exit assigns to the object;
  * `RunMoved`, `runStep_moved` -- the steps by what they leave in the object;
  * `RunOk`, `runStep_ok` -- THE INVARIANT: until the outcome is decided the object is the
    claimed row with its output path, and from then on it is that with one outcome recorded.
-/
import RetroBridge.Jobs.Submit

namespace RetroBridge.Jobs

open Relational

/-! ## 1. Outcomes -/

/-- `CommandKind`: the `kind` argument of `_resolve_cmds`. -/
inductive CmdKind where
  | pre
  | post
  deriving DecidableEq, Repr

/-- The site as a worker sees it: `resolveCmds` answers `_resolve_cmds`. -/
structure JobSite extends Site where
  resolveCmds : CmdKind → Job → DevicePort → List String

/-- The exits of `run_job_on_device`. `failedClosing` is the one where the last log line raises
    after the completion has been recorded. -/
inductive Outcome where
  | completed (runtime : Int)
  | failed (message : String)
  | failedClosing (runtime : Int) (message : String)
  | canceled (runtime : Option Int)

def Outcome.status : Outcome → JobStatus
  | .completed _ => .completed
  | .failed _ | .failedClosing _ _ => .failed
  | .canceled _ => .canceled

/-- The exits that assign `exit_code`. -/
def Outcome.setsExitCode : Outcome → Bool
  | .completed _ | .failedClosing _ _ => true
  | .failed _ | .canceled _ => false

/-- **What an exit assigns to the job object.** -/
def Outcome.record (o : Outcome) (now : Time) (j : Job) : Job :=
  match o with
  | .completed r =>
    { j with status := .completed, finishedAt := some now, runtimeSeconds := some r,
             exitCode := some 0 }
  | .failed m => { j with status := .failed, errorMessage := some m, finishedAt := some now }
  | .failedClosing r m =>
    { j with status := .failed, errorMessage := some m, finishedAt := some now,
             runtimeSeconds := some r, exitCode := some 0 }
  | .canceled none =>
    { j with status := .canceled, errorMessage := some "Job canceled by administrator",
             finishedAt := some now }
  | .canceled (some r) =>
    { j with status := .canceled, errorMessage := some "Job canceled by administrator",
             finishedAt := some now, runtimeSeconds := some r }

section Record

variable (o : Outcome) (now : Time) (j : Job)

@[simp] theorem Outcome.record_id : (o.record now j).id = j.id := by
  rcases o with _ | _ | _ | (_ | _) <;> rfl

@[simp] theorem Outcome.record_status : (o.record now j).status = o.status := by
  rcases o with _ | _ | _ | (_ | _) <;> rfl

@[simp] theorem Outcome.record_finishedAt : (o.record now j).finishedAt = some now := by
  rcases o with _ | _ | _ | (_ | _) <;> rfl

@[simp] theorem Outcome.record_cancelRequested :
    (o.record now j).cancelRequested = j.cancelRequested := by
  rcases o with _ | _ | _ | (_ | _) <;> rfl

theorem Outcome.record_exitCode :
    (o.record now j).exitCode = if o.setsExitCode = true then some 0 else j.exitCode := by
  rcases o with _ | _ | _ | (_ | _) <;> rfl

end Record

theorem Outcome.status_finished (o : Outcome) : o.status.finished = true := by
  cases o <;> rfl

theorem Outcome.status_ne_running (o : Outcome) : o.status ≠ .running := by
  cases o <;> simp [status]

/-! ## 2. Places and answers -/

/-- The state of the capture loop: `last_heartbeat` starts as the start time and then holds
    elapsed times, as in the source. -/
structure Capture where
  startTime : Time
  lastActivity : Time
  lastHeartbeat : Time

/-- The place in `run_job_on_device`. -/
inductive RunPhase where
  | entry
  | firstCheck
  | opening
  | logging
  | draining
  | pre (cmds : List String)
  | loading
  | sending (calls : Nat)
  | sendingIo (calls : Nat)
  | cancelSending
  | post (cmds : List String)
  | capture (c : Capture)
  | beating (c : Capture) (elapsed : Time)
  | polling (c : Capture)
  | reading (c : Capture)
  | finalCheck (c : Capture)
  | cancelCapture (c : Capture)
  | closing
  | decided

/-- An exception that reaches the outer handlers. -/
inductive Raised where
  | serialException (text : String)
  | exception (text : String)

/-- The answer to the pending call. -/
inductive RunEvent where
  | prepared (uploadExists : Bool)
  | ok
  | received (data : List UInt8)
  | readError
  | callback
  | sendReturns (success : Bool)
  | fault (e : Raised)

/-- The job object and the place. -/
structure RunState where
  obj : Job
  phase : RunPhase

/-- `_check_job_cancelled` on the row it reads: true where it raises. -/
def checkJobCancelled (row : Option Job) : Bool :=
  match row with
  | some j => j.cancelRequested || j.status == .canceled
  | none => false

theorem checkJobCancelled_of {row : Option Job} {j : Job} (h : row = some j)
    (hc : j.cancelRequested = true) : checkJobCancelled row = true := by
  subst h
  simp [checkJobCancelled, hc]

/-! ## 3. The step -/

def uploadFile (site : Site) (j : Job) : String :=
  site.uploadsDir ++ "/" ++ j.storedFilename.getD ""

def sessionLog (site : Site) (j : Job) : String :=
  site.outputsDir ++ "/job-" ++ toString j.id ++ "/session.log"

/-- `port.idle_timeout_seconds or 5`. -/
def idleTimeout (port : DevicePort) : Time := seconds (orDefault port.idleTimeoutSeconds 5)

/-- `port.max_runtime_seconds or 300`. -/
def maxRuntime (port : DevicePort) : Time := seconds (orDefault port.maxRuntimeSeconds 300)

/-- `int(time.time() - start_time)`. -/
def runtimeSince (now start : Time) : Int := (now - start).tdiv 1000000

/-- Record an outcome and return. -/
def conclude (o : Outcome) (now : Time) (obj : Job) : RunState := ⟨o.record now obj, .decided⟩

/-- The outer `except SerialException` and `except Exception`. An exception after the completion
    was recorded leaves the runtime and the exit code in place. -/
def onFault (e : Raised) (now : Time) (obj : Job) : RunState :=
  match e with
  | .serialException m =>
    ⟨{ obj with status := .failed, errorMessage := some ("Serial error: " ++ m),
                finishedAt := some now }, .decided⟩
  | .exception m =>
    ⟨{ obj with status := .failed, errorMessage := some ("Internal error: " ++ m),
                finishedAt := some now }, .decided⟩

/-- The outer `except JobCancelledError`. -/
def onCancelled (now : Time) (obj : Job) : RunState :=
  if obj.status = .running then conclude (.canceled none) now obj else ⟨obj, .decided⟩

/-- **One step of `run_job_on_device`** on `port`, at time `now`; `row` is the job's row as a
    cancellation check made in this step reads it. -/
def runStep (site : JobSite) (port : DevicePort) (now : Time) (row : Option Job) (rs : RunState) :
    RunEvent → Option RunState
  | .prepared uploadExists =>
    match rs.phase with
    | .entry =>
      let job := { rs.obj with outputPath := some (sessionLog site.toSite rs.obj) }
      if uploadExists then some ⟨job, .firstCheck⟩
      else
        let error := "Uploaded file not found: " ++ uploadFile site.toSite job
        some (conclude (.failed error) now job)
    | _ => none
  | .ok =>
    match rs.phase with
    | .firstCheck =>
      if checkJobCancelled row then some (onCancelled now rs.obj) else some ⟨rs.obj, .opening⟩
    | .opening => some ⟨rs.obj, .logging⟩
    | .logging => some ⟨rs.obj, .draining⟩
    | .pre (_ :: cmds) => some ⟨rs.obj, .pre cmds⟩
    | .pre [] => some ⟨rs.obj, .loading⟩
    | .loading => some ⟨rs.obj, .sending 0⟩
    | .sendingIo calls => some ⟨rs.obj, .sending calls⟩
    | .cancelSending => some (conclude (.canceled none) now rs.obj)
    | .post (_ :: cmds) => some ⟨rs.obj, .post cmds⟩
    | .post [] => some ⟨rs.obj, .capture ⟨now, now, now⟩⟩
    | .capture c =>
      if now - c.startTime > maxRuntime port then some ⟨rs.obj, .finalCheck c⟩
      else if seconds jobHeartbeatInterval ≤ now - c.startTime - c.lastHeartbeat then
        some ⟨rs.obj, .beating c (now - c.startTime)⟩
      else some ⟨rs.obj, .polling c⟩
    | .polling c =>
      if checkJobCancelled row then some ⟨rs.obj, .finalCheck c⟩ else some ⟨rs.obj, .reading c⟩
    | .finalCheck c =>
      if checkJobCancelled row then some ⟨rs.obj, .cancelCapture c⟩
      else
        some ⟨(Outcome.completed (runtimeSince now c.startTime)).record now rs.obj, .closing⟩
    | .cancelCapture c =>
      some (conclude (.canceled (some (runtimeSince now c.startTime))) now rs.obj)
    | .closing => some ⟨rs.obj, .decided⟩
    | _ => none
  | .received data =>
    match rs.phase, data with
    | .draining, _ :: _ => some rs
    | .draining, [] => some ⟨rs.obj, .pre (site.resolveCmds .pre rs.obj port)⟩
    | .reading c, _ :: _ => some ⟨rs.obj, .capture { c with lastActivity := now }⟩
    | .reading c, [] =>
      if now - c.lastActivity > idleTimeout port then some ⟨rs.obj, .finalCheck c⟩
      else some ⟨rs.obj, .capture c⟩
    | _, _ => none
  | .readError =>
    match rs.phase with
    | .draining => some ⟨rs.obj, .pre (site.resolveCmds .pre rs.obj port)⟩
    | .reading c => some ⟨rs.obj, .finalCheck c⟩
    | _ => none
  | .callback =>
    match rs.phase with
    | .sending calls =>
      -- every 16th getc/putc reads the row before it touches the device
      if (calls + 1) % 16 = 0 ∧ checkJobCancelled row = true then some ⟨rs.obj, .cancelSending⟩
      else some ⟨rs.obj, .sendingIo (calls + 1)⟩
    | _ => none
  | .sendReturns success =>
    match rs.phase with
    | .sending _ =>
      if success then some ⟨rs.obj, .post (site.resolveCmds .post rs.obj port)⟩
      else some (conclude (.failed "XMODEM transfer failed") now rs.obj)
    | _ => none
  | .fault e =>
    match rs.phase with
    | .entry | .decided => none
    | _ => some (onFault e now rs.obj)

/-- The step after `_send_heartbeat` has returned. -/
def afterBeat (rs : RunState) : Option RunState :=
  match rs.phase with
  | .beating c elapsed => some ⟨rs.obj, .polling { c with lastHeartbeat := elapsed }⟩
  | _ => none

/-! ## 4. What a step does to the job object -/

/-- No outcome is recorded yet. -/
def RunPhase.undecided : RunPhase → Bool
  | .closing | .decided => false
  | _ => true

/-- **The steps of an execution**, by what they leave in the object. -/
inductive RunMoved (site : JobSite) (now : Time) (row : Option Job) (rs : RunState) :
    RunEvent → RunState → Prop where
  | goOn {ev : RunEvent} {phase : RunPhase} (hu : rs.phase.undecided = true)
      (hu' : phase.undecided = true) : RunMoved site now row rs ev ⟨rs.obj, phase⟩
  | prepared (hu : rs.phase.undecided = true) :
      RunMoved site now row rs (.prepared true)
        ⟨{ rs.obj with outputPath := some (sessionLog site.toSite rs.obj) }, .firstCheck⟩
  | missing {error : String} (hu : rs.phase.undecided = true) :
      RunMoved site now row rs (.prepared false)
        (conclude (.failed error) now
          { rs.obj with outputPath := some (sessionLog site.toSite rs.obj) })
  | cancelled (hu : rs.phase.undecided = true) :
      RunMoved site now row rs .ok (onCancelled now rs.obj)
  | canceled {runtime : Option Int} (hu : rs.phase.undecided = true) :
      RunMoved site now row rs .ok (conclude (.canceled runtime) now rs.obj)
  | completed {runtime : Int} (hu : rs.phase.undecided = true)
      (hc : checkJobCancelled row = false) :
      RunMoved site now row rs .ok ⟨(Outcome.completed runtime).record now rs.obj, .closing⟩
  | closed (hp : rs.phase = .closing) : RunMoved site now row rs .ok ⟨rs.obj, .decided⟩
  | sendFailed (hu : rs.phase.undecided = true) :
      RunMoved site now row rs (.sendReturns false)
        (conclude (.failed "XMODEM transfer failed") now rs.obj)
  | fault {e : Raised} (hp : rs.phase ≠ .decided) :
      RunMoved site now row rs (.fault e) (onFault e now rs.obj)

/-- **Every step of an execution is one of these.** -/
theorem runStep_moved {site : JobSite} {port : DevicePort} {now : Time} {row : Option Job}
    {rs rs' : RunState} {ev : RunEvent} (hs : runStep site port now row rs ev = some rs') :
    RunMoved site now row rs ev rs' := by
  obtain ⟨obj, phase⟩ := rs
  cases ev with
  | prepared e =>
      cases phase <;> simp only [runStep, reduceCtorEq] at hs
      cases e <;> cases hs
      · exact .missing rfl
      · exact .prepared rfl
  | ok =>
      cases phase <;> simp only [runStep, reduceCtorEq] at hs
      case firstCheck =>
        split at hs <;> cases hs
        · exact .cancelled rfl
        · exact .goOn rfl rfl
      case pre cmds => cases cmds <;> (cases hs; exact .goOn rfl rfl)
      case post cmds => cases cmds <;> (cases hs; exact .goOn rfl rfl)
      case cancelSending => cases hs; exact .canceled rfl
      case capture =>
        split at hs
        · cases hs; exact .goOn rfl rfl
        · split at hs <;> (cases hs; exact .goOn rfl rfl)
      case polling => split at hs <;> (cases hs; exact .goOn rfl rfl)
      case finalCheck =>
        split at hs <;> cases hs
        · exact .goOn rfl rfl
        · rename_i hc
          exact .completed rfl (Bool.eq_false_of_not_eq_true hc)
      case cancelCapture => cases hs; exact .canceled rfl
      case closing => cases hs; exact .closed rfl
      all_goals cases hs; exact .goOn rfl rfl
  | received data =>
      cases phase <;> cases data <;> simp only [runStep, reduceCtorEq] at hs
      case reading.nil => split at hs <;> (cases hs; exact .goOn rfl rfl)
      all_goals cases hs; exact .goOn rfl rfl
  | readError =>
      cases phase <;> simp only [runStep, reduceCtorEq] at hs
      all_goals cases hs; exact .goOn rfl rfl
  | callback =>
      cases phase <;> simp only [runStep, reduceCtorEq] at hs
      split at hs <;> (cases hs; exact .goOn rfl rfl)
  | sendReturns success =>
      cases phase <;> simp only [runStep, reduceCtorEq] at hs
      cases success <;> cases hs
      · exact .sendFailed rfl
      · exact .goOn rfl rfl
  | fault e =>
      cases phase <;> simp only [runStep, reduceCtorEq] at hs
      all_goals cases hs; exact .fault (by simp)

/-! ## 5. The invariant of the job object -/

/-- The object before an outcome is recorded: the claimed row with its output path. -/
def Undecided (loaded obj : Job) : Prop := ∃ path, obj = { loaded with outputPath := path }

/-- The object with one outcome recorded. -/
def Recorded (loaded obj : Job) : Prop :=
  ∃ path now, ∃ o : Outcome, obj = o.record now { loaded with outputPath := path }

/-- The object of a run that has returned: one outcome recorded, or, of a row that was not running
    when it was loaded, none. -/
def Returned (loaded obj : Job) : Prop :=
  Recorded loaded obj ∨ loaded.status ≠ .running ∧ Undecided loaded obj

/-- The object of a run that is closing: the completion recorded, its log line pending. -/
def Completing (loaded obj : Job) : Prop :=
  ∃ path now r, obj = (Outcome.completed r).record now { loaded with outputPath := path }

/-- **The invariant of one execution.** -/
def RunOk (loaded : Job) (rs : RunState) : Prop :=
  match rs.phase with
  | .decided => Returned loaded rs.obj
  | .closing => Completing loaded rs.obj
  | _ => Undecided loaded rs.obj

section RunOk

variable {loaded : Job} {site : JobSite} {port : DevicePort} {now : Time} {row : Option Job}
  {rs rs' : RunState} {ev : RunEvent}

theorem runOk_entry (loaded : Job) : RunOk loaded ⟨loaded, .entry⟩ := ⟨loaded.outputPath, rfl⟩

theorem Undecided.withOutput {obj : Job} (path : String) (h : Undecided loaded obj) :
    Undecided loaded { obj with outputPath := some path } := by
  obtain ⟨_, rfl⟩ := h
  exact ⟨some path, rfl⟩

theorem Undecided.concluded {o : Outcome} {obj : Job} (h : Undecided loaded obj) :
    Recorded loaded (conclude o now obj).obj := by
  obtain ⟨path, rfl⟩ := h
  exact ⟨path, now, o, rfl⟩

theorem Undecided.faulted {e : Raised} {obj : Job} (h : Undecided loaded obj) :
    Recorded loaded (onFault e now obj).obj := by
  obtain ⟨path, rfl⟩ := h
  cases e with
  | serialException m => exact ⟨path, now, .failed ("Serial error: " ++ m), rfl⟩
  | exception m => exact ⟨path, now, .failed ("Internal error: " ++ m), rfl⟩

theorem Completing.recorded {obj : Job} (h : Completing loaded obj) : Recorded loaded obj := by
  obtain ⟨path, t, r, e⟩ := h
  exact ⟨path, t, .completed r, e⟩

/-- A fault after the completion was recorded. -/
theorem Completing.faulted {e : Raised} {obj : Job} (h : Completing loaded obj) :
    Recorded loaded (onFault e now obj).obj := by
  obtain ⟨path, t, r, rfl⟩ := h
  cases e with
  | serialException m => exact ⟨path, now, .failedClosing r ("Serial error: " ++ m), rfl⟩
  | exception m => exact ⟨path, now, .failedClosing r ("Internal error: " ++ m), rfl⟩

theorem onFault_phase {e : Raised} {obj : Job} : (onFault e now obj).phase = .decided := by
  cases e <;> rfl

/-- A fault in any place leaves one outcome recorded. -/
theorem RunOk.faulted {e : Raised} (h : RunOk loaded rs) (hp : rs.phase ≠ .decided) :
    Recorded loaded (onFault e now rs.obj).obj := by
  obtain ⟨obj, phase⟩ := rs
  cases phase <;> first
    | exact Undecided.faulted h
    | exact Completing.faulted h
    | exact absurd rfl hp

theorem Recorded.runOk (h : Recorded loaded rs.obj) (hp : rs.phase = .decided) :
    RunOk loaded rs := by
  rw [RunOk, hp]
  exact Or.inl h

theorem recorded_onCancelled {obj : Job} (h : Undecided loaded obj) :
    RunOk loaded (onCancelled now obj) := by
  have hs : obj.status = loaded.status := by
    obtain ⟨path, rfl⟩ := h
    rfl
  unfold onCancelled
  split
  · exact h.concluded.runOk rfl
  · rename_i hne
    exact Or.inr ⟨by rwa [← hs], h⟩

theorem RunOk.of_undecided (h : RunOk loaded rs) (hu : rs.phase.undecided = true) :
    Undecided loaded rs.obj := by
  obtain ⟨obj, phase⟩ := rs
  cases phase <;> first | exact h | cases hu

theorem Undecided.runOk {obj : Job} {phase : RunPhase} (h : Undecided loaded obj)
    (hu : phase.undecided = true) : RunOk loaded ⟨obj, phase⟩ := by
  cases phase <;> first | exact h | cases hu

/-- **The invariant holds along an execution.** -/
theorem runStep_ok (h : RunOk loaded rs)
    (hs : runStep site port now row rs ev = some rs') : RunOk loaded rs' := by
  cases runStep_moved hs with
  | goOn hu hu' => exact (h.of_undecided hu).runOk hu'
  | prepared hu => exact (h.of_undecided hu).withOutput _
  | missing hu => exact ((h.of_undecided hu).withOutput _).concluded.runOk rfl
  | cancelled hu => exact recorded_onCancelled (h.of_undecided hu)
  | canceled hu => exact (h.of_undecided hu).concluded.runOk rfl
  | completed hu _ =>
      obtain ⟨path, e⟩ := h.of_undecided hu
      exact ⟨path, now, _, by rw [e]⟩
  | closed hp =>
      rw [RunOk, hp] at h
      exact Or.inl h.recorded
  | sendFailed hu => exact (h.of_undecided hu).concluded.runOk rfl
  | fault hp => exact (h.faulted hp).runOk onFault_phase

theorem afterBeat_ok (h : RunOk loaded rs) (hs : afterBeat rs = some rs') : RunOk loaded rs' := by
  obtain ⟨obj, phase⟩ := rs
  cases phase <;> simp only [afterBeat, reduceCtorEq] at hs
  cases hs
  exact h

end RunOk

end RetroBridge.Jobs
