/-
  File:      RetroBridge/Jobs/Capture.lean
  Subject:   THE CAPTURE LOOP AND THE FINAL DECISION (worker.py: `run_job_on_device`, from
             `start_time = time.time()` on), turn by turn.

  `runStep` takes one step for every call. Here one turn of `while True` is one function of what its
  calls answer: the clock, the row the poll reads, the device.

  * `FdRead`, `Iteration` -- what one turn meets;
  * `Exit`, `Turn`, `captureTurn` -- the four exits of the loop and one turn of it; `goesOn`: a turn
    after which the loop goes on;
  * `finalOutcome` -- what the code after the loop records;
  * `execAll_turnCalls`, `execAll_captureCalls` -- **the turns are the steps of `runStep`**: a turn
    is the run of its calls, and so are a whole capture and the decision after it.

  A log line, a refresh of the row or any other call of the loop that raises leaves through the
  outer handlers (`RunEvent.fault`) and has no place here.
-/
import RetroBridge.Library.Run
import RetroBridge.Jobs.RunJob

namespace RetroBridge.Jobs

open Transition

/-! ## 1. One turn -/

/-- What `_fd_read` answers: bytes -- none of them at a timeout, at the end of the file and where
    `os.read` fails with EIO -- or an `OSError` or `SerialException`. -/
inductive FdRead where
  | bytes (data : List UInt8)
  | raises

/-- What one turn of the loop meets: the clock at its top and inside `_send_heartbeat`, the row the
    poll reads, the answer of the device and the clock after it. -/
structure Iteration where
  top : Time
  renewal : Time
  row : Option Job
  read : FdRead
  after : Time

/-- The four `break`s, in the order of the source. -/
inductive Exit where
  | runtime
  | cancelled
  | hungUp
  | idle
  deriving DecidableEq

/-- How a turn ends. -/
inductive Turn where
  | goOn (c : Capture)
  | leave (e : Exit) (c : Capture)

/-- `start_time`, `last_activity` and `last_heartbeat` before the loop. -/
def Capture.start (now : Time) : Capture := ⟨now, now, now⟩

/-- `elapsed - last_heartbeat >= JOB_HEARTBEAT_INTERVAL`. -/
def Capture.beats (c : Capture) (top : Time) : Bool :=
  decide (seconds jobHeartbeatInterval ≤ top - c.startTime - c.lastHeartbeat)

/-- The heartbeat of a turn, with its `last_heartbeat = elapsed`. -/
def Capture.heartbeat (c : Capture) (top : Time) : Capture :=
  if c.beats top then { c with lastHeartbeat := top - c.startTime } else c

/-- The read of a turn and what follows it. -/
def captureRead (port : DevicePort) (c : Capture) (read : FdRead) (after : Time) : Turn :=
  match read with
  | .raises => .leave .hungUp c
  | .bytes (_ :: _) => .goOn { c with lastActivity := after }
  | .bytes [] => if after - c.lastActivity > idleTimeout port then .leave .idle c else .goOn c

/-- **One turn of the capture loop.** -/
def captureTurn (port : DevicePort) (c : Capture) (it : Iteration) : Turn :=
  if it.top - c.startTime > maxRuntime port then .leave .runtime c
  else if checkJobCancelled it.row then .leave .cancelled (c.heartbeat it.top)
  else captureRead port (c.heartbeat it.top) it.read it.after

/-- The loop variables after a turn that does not leave the loop. -/
def goesOn (port : DevicePort) (c : Capture) (it : Iteration) : Option Capture :=
  match captureTurn port c it with
  | .goOn c' => some c'
  | .leave _ _ => none

theorem goesOn_iff {port : DevicePort} {c c' : Capture} {it : Iteration} :
    goesOn port c it = some c' ↔ captureTurn port c it = .goOn c' := by
  unfold goesOn
  cases captureTurn port c it <;> simp

/-! ## 2. What a turn keeps -/

section Turn

variable {port : DevicePort} {c c' : Capture} {it : Iteration} {e : Exit}

@[simp] theorem Capture.heartbeat_startTime (c : Capture) (top : Time) :
    (c.heartbeat top).startTime = c.startTime := by
  unfold Capture.heartbeat
  split <;> rfl

/-- **A turn that goes on**: within `max_runtime`, nothing to cancel, and only `last_heartbeat` and
    `last_activity` may have changed. -/
theorem captureTurn_goOn (h : captureTurn port c it = .goOn c') :
    it.top - c.startTime ≤ maxRuntime port ∧ checkJobCancelled it.row = false ∧
      c'.startTime = c.startTime ∧ c'.lastHeartbeat = (c.heartbeat it.top).lastHeartbeat := by
  unfold captureTurn at h
  split at h
  · cases h
  · rename_i hrun
    split at h
    · cases h
    · rename_i hrow
      refine ⟨Int.not_lt.mp hrun, Bool.eq_false_of_not_eq_true hrow, ?_⟩
      unfold captureRead at h
      split at h
      · cases h
      · cases h
        exact ⟨Capture.heartbeat_startTime c it.top, rfl⟩
      · split at h <;> cases h
        exact ⟨Capture.heartbeat_startTime c it.top, rfl⟩

/-- **A turn that leaves**: which exit it takes is decided by the clock, the row and the read, in
    this order. -/
theorem captureTurn_leave (h : captureTurn port c it = .leave e c') :
    c'.startTime = c.startTime ∧
      (e = .runtime ↔ maxRuntime port < it.top - c.startTime) ∧
      (e = .cancelled ↔ it.top - c.startTime ≤ maxRuntime port ∧
        checkJobCancelled it.row = true) := by
  unfold captureTurn at h
  split at h
  · rename_i hrun
    cases h
    exact ⟨rfl, iff_of_true rfl hrun,
      iff_of_false (by decide) fun hc => Int.not_le.mpr hrun hc.1⟩
  · rename_i hrun
    have hle : it.top - c.startTime ≤ maxRuntime port := Int.not_lt.mp hrun
    split at h
    · rename_i hrow
      cases h
      exact ⟨Capture.heartbeat_startTime c it.top, iff_of_false (by decide) hrun,
        iff_of_true rfl ⟨hle, hrow⟩⟩
    · rename_i hrow
      have hread : c'.startTime = c.startTime ∧ e ≠ .runtime ∧ e ≠ .cancelled := by
        unfold captureRead at h
        split at h
        · cases h
          exact ⟨Capture.heartbeat_startTime c it.top, by decide, by decide⟩
        · cases h
        · split at h <;> cases h
          exact ⟨Capture.heartbeat_startTime c it.top, by decide, by decide⟩
      exact ⟨hread.1, iff_of_false hread.2.1 hrun, iff_of_false hread.2.2 fun hc => hrow hc.2⟩

/-- The start time never moves. -/
theorem execAll_goesOn_startTime {its : List Iteration}
    (h : execAll (goesOn port) c its = some c') : c'.startTime = c.startTime :=
  (run_of_execAll h).invariant (I := fun d => d.startTime = c.startTime) rfl
    fun _ _ _ hd hs => (captureTurn_goOn (goesOn_iff.mp hs)).2.2.1.trans hd

end Turn

/-! ## 3. The decision after the loop -/

/-- **What the code after the loop records**: the row is read once more. -/
def finalOutcome (now : Time) (row : Option Job) (c : Capture) : Outcome :=
  if checkJobCancelled row then .canceled (some (runtimeSince now c.startTime))
  else .completed (runtimeSince now c.startTime)

/-! ## 4. The turns as steps of the machine -/

/-- One call of an execution: the time, the row a check made in it reads, and its answer -- `none`
    for the return of `_send_heartbeat`. -/
structure Call where
  now : Time
  row : Option Job
  answer : Option RunEvent

/-- The step of the execution that a call makes. -/
def execCall (site : JobSite) (port : DevicePort) (rs : RunState) (call : Call) :
    Option RunState :=
  match call.answer with
  | some ev => runStep site port call.now call.row rs ev
  | none => afterBeat rs

/-- The answer of the device as the machine takes it. -/
def FdRead.event : FdRead → RunEvent
  | .bytes data => .received data
  | .raises => .readError

/-- The calls of one turn, in the order of the source. -/
def turnCalls (port : DevicePort) (c : Capture) (it : Iteration) : List Call :=
  ⟨it.top, it.row, some .ok⟩ ::
    if it.top - c.startTime > maxRuntime port then []
    else
      (if c.beats it.top then [⟨it.renewal, it.row, none⟩] else []) ++
        ⟨it.renewal, it.row, some .ok⟩ ::
          if checkJobCancelled it.row then [] else [⟨it.after, it.row, some it.read.event⟩]

/-- The place in the function after a turn. -/
def Turn.place : Turn → RunPhase
  | .goOn c => .capture c
  | .leave _ c => .finalCheck c

section Calls

variable {site : JobSite} {port : DevicePort} {obj : Job}

theorem runStep_read {now : Time} {row : Option Job} (c : Capture) (read : FdRead) :
    runStep site port now row ⟨obj, .reading c⟩ read.event =
      some ⟨obj, (captureRead port c read now).place⟩ := by
  cases read with
  | raises => rfl
  | bytes data =>
      cases data with
      | cons b rest => rfl
      | nil =>
          simp only [FdRead.event, runStep, captureRead]
          split <;> rfl

/-- The poll and the read of a turn. -/
theorem execAll_poll (c : Capture) (it : Iteration) :
    execAll (execCall site port) ⟨obj, .polling c⟩
      (⟨it.renewal, it.row, some .ok⟩ ::
        if checkJobCancelled it.row then [] else [⟨it.after, it.row, some it.read.event⟩]) =
    some ⟨obj, (if checkJobCancelled it.row then Turn.leave .cancelled c
      else captureRead port c it.read it.after).place⟩ := by
  simp only [execAll, execCall, runStep]
  split
  · rfl
  · simp only [execAll, execCall, Option.bind_some, runStep_read]

/-- **One turn is the run of its calls.** -/
theorem execAll_turnCalls (c : Capture) (it : Iteration) :
    execAll (execCall site port) ⟨obj, .capture c⟩ (turnCalls port c it) =
      some ⟨obj, (captureTurn port c it).place⟩ := by
  unfold turnCalls captureTurn
  simp only [execAll, execCall, runStep]
  split
  · rfl
  · by_cases hb : c.beats it.top = true
    · have hdue : seconds jobHeartbeatInterval ≤ it.top - c.startTime - c.lastHeartbeat :=
        of_decide_eq_true hb
      have hbeat : c.heartbeat it.top = { c with lastHeartbeat := it.top - c.startTime } := by
        rw [Capture.heartbeat, if_pos hb]
      rw [if_pos hdue, if_pos hb, hbeat]
      exact execAll_poll _ it
    · have hdue : ¬ seconds jobHeartbeatInterval ≤ it.top - c.startTime - c.lastHeartbeat :=
        fun hle => hb (decide_eq_true hle)
      have hbeat : c.heartbeat it.top = c := by rw [Capture.heartbeat, if_neg hb]
      rw [if_neg hdue, if_neg hb, hbeat]
      exact execAll_poll _ it

/-- The calls of the turns, up to the one that leaves. -/
def loopCalls (port : DevicePort) : Capture → List Iteration → List Call
  | _, [] => []
  | c, it :: its =>
    turnCalls port c it ++
      match captureTurn port c it with
      | .goOn c' => loopCalls port c' its
      | .leave _ _ => []

/-- Turns that all go on are the run of their calls. -/
theorem execAll_loopCalls {its : List Iteration} : ∀ {c c' : Capture},
    execAll (goesOn port) c its = some c' →
      execAll (execCall site port) ⟨obj, .capture c⟩ (loopCalls port c its) =
        some ⟨obj, .capture c'⟩ := by
  induction its with
  | nil =>
      intro c c' h
      cases h
      rfl
  | cons it its ih =>
      intro c c' h
      obtain ⟨d, hd, hrest⟩ := Option.bind_eq_some_iff.mp h
      have hturn : captureTurn port c it = .goOn d := goesOn_iff.mp hd
      rw [loopCalls, hturn, execAll_append, execAll_turnCalls, hturn]
      exact ih hrest

/-- The calls of a capture: turns that go on, the turn that leaves, the last check of the row and
    the call after it. -/
def captureCalls (port : DevicePort) (c : Capture) (its : List Iteration) (d : Capture)
    (it : Iteration) (now : Time) (row : Option Job) : List Call :=
  loopCalls port c its ++ turnCalls port d it ++ [⟨now, row, some .ok⟩, ⟨now, row, some .ok⟩]

/-- **A capture is the run of its calls**, and leaves the final outcome in the job object. -/
theorem execAll_captureCalls {its : List Iteration} {it : Iteration} {c d d' : Capture} {e : Exit}
    {now : Time} {row : Option Job} (hgo : execAll (goesOn port) c its = some d)
    (hleave : captureTurn port d it = .leave e d') :
    execAll (execCall site port) ⟨obj, .capture c⟩ (captureCalls port c its d it now row) =
      some (conclude (finalOutcome now row d') now obj) := by
  have hlast : ∀ rs : RunState, rs = ⟨obj, .finalCheck d'⟩ →
      execAll (execCall site port) rs [⟨now, row, some .ok⟩, ⟨now, row, some .ok⟩] =
        some (conclude (finalOutcome now row d') now obj) := by
    rintro _ rfl
    simp only [execAll, execCall, runStep, finalOutcome]
    split <;> rfl
  rw [captureCalls, execAll_append, execAll_append, execAll_loopCalls hgo]
  simp only [Option.bind_some]
  rw [execAll_turnCalls, hleave]
  exact hlast _ rfl

end Calls

/-! ## 5. A small capture -/

/-- A port that leaves its limits to the defaults: five minutes, five seconds. -/
def defaultPort : DevicePort :=
  { id := 1, deviceId := 1, portLabel := "CRT0", transport := none, devPath := "/dev/ttyUSB0",
    purpose := .jobQueue, baud := none, maxConcurrentJobs := some 1, maxRuntimeSeconds := none,
    idleTimeoutSeconds := none, isEnabled := true }

def captureStart : Time := seconds 1700000000

/-- A turn `n` seconds after the start. -/
def turnAt (n : Int) (row : Option Job) (data : List UInt8) : Iteration :=
  let now := captureStart + seconds n
  ⟨now, now, row, .bytes data, now⟩

end RetroBridge.Jobs
