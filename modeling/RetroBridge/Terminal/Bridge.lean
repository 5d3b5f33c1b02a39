/-
  File:      RetroBridge/Terminal/Bridge.lean
  Subject:   THE LIFE OF A BRIDGE (retrobridge/terminal/utils.py: `start_bridge`, `suspend_bridge`,
             `resume_bridge`, `stop_bridge`, `force_disconnect_session`, `cleanup_suspended`,
             `check_timeouts`, `write_to_serial`, `_serial_reader`).

  Each function takes the answers of what it calls outside the process -- the transport, the serial
  line -- as arguments and returns the process after it with what it sent:

  * `Out` -- the events to sockets and the writes to connections; terminal output carries with
    every character the connection it was read from;
  * `startBridge`, `suspendBridge`, `resumeBridge` -- a bridge enters a registry, or changes it;
  * `stopBridge`, `cleanupSuspended`, `forceDisconnectSession`, `checkTimeouts` -- the paths on
    which it leaves, each with `end_session`;
  * `serialReader` -- one iteration of the reading thread. It looks its bridge up by session id, and
    its three exits take the bridge out (`loseBridge`) without `end_session`.
-/
import RetroBridge.Terminal.Lease

namespace RetroBridge.Terminal

open Relational Ordered

/-! ## 1. Events -/

/-- What the process sends. -/
inductive Out where
  | sessionDenied (sid : Sid) (reason : String)
  | sessionGranted (sid : Sid) (sessionId : Nat) (deviceName portLabel : String) (baud : Option Int)
  | sessionClosed (sid : Sid) (reason : String)
  | terminalOutput (sid : Sid) (data : List Heard)
  | heartbeatAck (sid : Sid) (bytes : Option (Nat × Nat))
  | written (sid : Sid) (serial : Serial) (data : String)

/-- How `open_transport` answers. -/
inductive OpenAnswer where
  | opened
  | serialException
  | otherException

/-- How the serial line answers a reading thread. -/
inductive ReadAnswer where
  | nothing
  | data (bytes : List UInt8)
  | serialError (text : String)
  | exception

/-- The answers that end the thread by an exception. -/
def ReadAnswer.raises : ReadAnswer → Bool
  | .serialError _ | .exception => true
  | .nothing | .data _ => false

/-! ## 2. Start, suspend, resume -/

/-- The bridge `start_bridge` builds. -/
def newBridge (now : Time) (ser : Serial) (sid : Sid) (session : TerminalSession)
    (port : DevicePort) : Bridge where
  serial := ser
  sid := some sid
  sessionId := session.id
  portId := port.id
  deviceId := port.deviceId
  running := true
  bytesSent := 0
  bytesReceived := 0
  outputBuffer := []
  lastActivity := now
  startTime := now
  maxRuntime := seconds (orDefault port.maxRuntimeSeconds 3600)
  idleTimeout := seconds (orDefault port.idleTimeoutSeconds 300)
  suspendedAt := none

/-- How `start_bridge` ends: true, false, or by an exception. -/
inductive StartResult where
  | started
  | refused
  | raised
  deriving DecidableEq

namespace Server

variable (P : Process) (now : Time) (s : Server)

/-- The connection opened for a session. -/
def nextSerial (userId : Nat) : Serial := ⟨s.nextConn, userId⟩

/-- A bridge and its thread over a connection just opened. -/
def register (sid : Sid) (session : TerminalSession) (port : DevicePort) : Server :=
  let ser := s.nextSerial session.userId
  { s.putActive sid (newBridge now ser sid session port) with
    readers := s.readers ++ [⟨ser, session.id, 0⟩]
    openConns := ser.conn :: s.openConns
    nextConn := s.nextConn + 1 }

/-- **`start_bridge`**. -/
def startBridge (sid : Sid) (session : TerminalSession) (port : DevicePort) (answer : OpenAnswer) :
    Server × StartResult :=
  if (s.active.get? sid).isSome then (s, .refused)
  else if s.isBridgeActiveRemotely P now session.id then (s, .refused)
  else
    match answer with
    | .serialException => (s, .refused)
    | .otherException => (s, .raised)
    | .opened =>
      ((s.updateBridgeRegistry P now session.id .active).register now sid session port, .started)

end Server

/-- A bridge whose socket has gone. -/
def Bridge.suspend (now : Time) (b : Bridge) : Bridge :=
  { b with running := true, suspendedAt := some now, sid := none }

/-- `suspended_at`, where it is there and not zero. -/
def Bridge.suspendedSince (b : Bridge) : Option Time := b.suspendedAt.filter fun t => t ≠ 0

/-- The bridge has been suspended for longer than `GRACE_PERIOD`. -/
def Bridge.graceOver (now : Time) (b : Bridge) : Bool :=
  match b.suspendedSince with
  | some t => decide (now - t > seconds gracePeriod)
  | none => false

/-- A bridge with a new socket; the time it was suspended does not count against its runtime. -/
def Bridge.resume (now : Time) (sid : Sid) (b : Bridge) : Bridge :=
  { b with
    sid := some sid
    lastActivity := now
    suspendedAt := none
    startTime :=
      match b.suspendedSince with
      | some t => b.startTime + (now - t)
      | none => b.startTime }

/-- `bridge["running"] = False`. -/
def Bridge.halt (b : Bridge) : Bridge := { b with running := false }

namespace Server

variable (P : Process) (now : Time) (s : Server)

/-- **`suspend_bridge`**, called on a socket's disconnect. -/
def suspendBridge (sid : Sid) : Server :=
  match s.active.get? sid with
  | none => s
  | some b =>
    ((s.removeAt (.active sid)).putSuspended (b.suspend now)).updateBridgeRegistry P now
      b.sessionId .suspended

/-- The bytes waiting on the line when a bridge is resumed, and what is sent of them. -/
def flushWaiting (sid : Sid) (ser : Serial) (waiting : List UInt8) : Server × List Out :=
  if s.isOpen ser && !waiting.isEmpty then
    (s.modifyAt (.active sid)
        (fun b => { b with bytesReceived := b.bytesReceived + waiting.length }) fun _ => rfl,
      [.terminalOutput sid ((P.decode waiting).map (ser, ·))])
  else (s, [])

/-- **`resume_bridge`** for socket `sid`: the bridge if it was resumed. -/
def resumeBridge (sid : Sid) (i : Nat) (waiting : List UInt8) : Server × Option Bridge × List Out :=
  match s.suspended.dict.get? i with
  | none => (s, none, [])
  | some b =>
    let s₁ := s.removeAt (.suspended i)
    if s₁.isBridgeActiveRemotely P now i then (s₁.putSuspended b, none, [])
    else if b.graceOver now then
      ((s₁.closeSerial b.serial).endSession now i "user_disconnect", none, [])
    else
      let s₂ := (s₁.putActive sid (b.resume now sid)).updateBridgeRegistry P now i .active
      let buffered := if b.outputBuffer.isEmpty then [] else [Out.terminalOutput sid b.outputBuffer]
      let (s₃, flushed) := s₂.flushWaiting P sid b.serial waiting
      (s₃, some (b.resume now sid), buffered ++ flushed)

/-! ## 3. Ends with `end_session` -/

/-- **`stop_bridge`**. It also pops `sid` from the suspended bridges, whose keys are session ids and
    never a socket's. -/
def stopBridge (sid : Sid) (reason : String) : Server × List Out :=
  match s.active.get? sid with
  | none => (s, [])
  | some b =>
    (((s.removeAt (.active sid)).closeSerial b.serial).endSession now b.sessionId reason,
      [.sessionClosed sid reason])

/-- One expired bridge of `cleanup_suspended`. -/
def cleanupOne (k : Nat) : Server :=
  match s.suspended.dict.get? k with
  | none => s
  | some b =>
    ((s.removeAt (.suspended k)).closeSerial b.serial).endSession now k "user_disconnect"

/-- The suspended bridges past their grace period. -/
def graceExpired : List Nat :=
  (s.suspended.dict.entries.filter fun e => e.2.graceOver now).map Prod.fst

/-- **`cleanup_suspended`**. -/
def cleanupSuspended : Server := (s.graceExpired now).foldl (fun s k => s.cleanupOne now k) s

/-- Why `check_timeouts` ends a bridge, if it does. -/
def timeoutReason (b : Bridge) : Option String :=
  if !b.running then none
  else if now - b.startTime > b.maxRuntime then some "timeout"
  else if now - b.lastActivity > b.idleTimeout then some "idle_timeout"
  else none

/-- The sockets `check_timeouts` ends, with the reasons. -/
def timedOut : List (Sid × String) :=
  s.active.entries.filterMap fun e => (timeoutReason now e.2).map (e.1, ·)

/-- Stop bridge after bridge. -/
def stopAll : List (Sid × String) → Server → Server × List Out
  | [], s => (s, [])
  | (sid, reason) :: rest, s =>
    let (s₁, outs) := s.stopBridge now sid reason
    let (s₂, outs') := stopAll rest s₁
    (s₂, outs ++ outs')

/-- **`check_timeouts`**. -/
def checkTimeouts : Server × List Out := stopAll now (s.timedOut now) s

/-- `bridge["running"] = False`, `_close_bridge_resources(bridge)` and
    `_remove_bridge_by_session(session_id)`. -/
def loseBridge (p : Place) (b : Bridge) (i : Nat) : Server :=
  ((s.modifyAt p Bridge.halt fun _ => rfl).closeSerial b.serial).removeBridgeBySession i

/-- **`force_disconnect_session`**. -/
def forceDisconnectSession (i : Nat) : Server × List Out :=
  match s.active.find? fun b => b.sessionId == i && b.running with
  | some (sid, _) => s.stopBridge now sid "admin_force"
  | none =>
    match s.suspended.dict.get? i with
    | some b => ((s.loseBridge (.suspended i) b i).endSession now i "admin_force", [])
    | none => (s.endSession now i "admin_force", [])

/-! ## 4. Traffic -/

/-- **`write_to_serial`**; `ok` is false where the write raises. -/
def writeToSerial (sid : Sid) (data : String) (ok : Bool) : Server × List Out :=
  match s.active.get? sid with
  | none => (s, [])
  | some b =>
    if b.running && s.isOpen b.serial && ok then
      (s.modifyAt (.active sid)
          (fun b => { b with bytesSent := b.bytesSent + data.utf8ByteSize, lastActivity := now })
          fun _ => rfl,
        [.written sid b.serial data])
    else (s, [])

/-- `handle_heartbeat`. -/
def handleHeartbeat (sid : Sid) : Server × List Out :=
  match s.active.get? sid with
  | none => (s, [.heartbeatAck sid none])
  | some b =>
    if b.running then
      ((s.modifyAt (.active sid) (fun b => { b with lastActivity := now })
          fun _ => rfl).heartbeatPortLease now b.sessionId,
        [.heartbeatAck sid (some (b.bytesSent, b.bytesReceived))])
    else (s, [.heartbeatAck sid none])

/-- The thread of a connection returns. -/
def dropReader (ser : Serial) : Server :=
  { s with readers := s.readers.filter fun t => t.serial ≠ ser }

/-- `last_heartbeat = now` in the thread of a connection. -/
def beatReader (ser : Serial) : Server :=
  { s with readers := s.readers.map fun t =>
      if t.serial = ser then { t with lastHeartbeat := now } else t }

end Server

/-- The last 8192 characters of a buffer with new output at its end. -/
def Bridge.receive (now : Time) (decoded : List Heard) (bytes : Nat) (b : Bridge) : Bridge :=
  { b with
    outputBuffer := (b.outputBuffer ++ decoded).drop ((b.outputBuffer ++ decoded).length - 8192)
    bytesReceived := b.bytesReceived + bytes
    lastActivity := now }

namespace Server

variable (P : Process) (now : Time) (s : Server)

/-- The read of one iteration on the bridge at `p`, with what it sends to the bridge's socket. -/
def readSerial (t : Reader) (p : Place) (b : Bridge) : ReadAnswer → Server × List Out
  | .nothing => (s, [])
  | .data bytes =>
    if bytes.isEmpty then (s, [])
    else
      let decoded := (P.decode bytes).map (t.serial, ·)
      (s.modifyAt p (Bridge.receive now decoded bytes.length) fun _ => rfl,
        b.sid.toList.map fun sid => .terminalOutput sid decoded)
  | .serialError text =>
    ((s.loseBridge p b t.sessionId).dropReader t.serial,
      b.sid.toList.map fun sid => .sessionClosed sid ("Connection lost: " ++ text))
  | .exception => ((s.loseBridge p b t.sessionId).dropReader t.serial, [])

/-- **One iteration of `_serial_reader`** in thread `t`. -/
def serialReader (t : Reader) (answer : ReadAnswer) : Server × List Out :=
  match s.getBridgeBySession t.sessionId with
  | none => (s.dropReader t.serial, [])
  | some (p, b) =>
    if seconds bridgeHeartbeatSeconds ≤ now - t.lastHeartbeat then
      if s.sessionStillActiveInDb P b.sessionId then
        ((s.heartbeatBridgeInThread P now b.sessionId).beatReader now t.serial).readSerial P now t p
          b answer
      else ((s.loseBridge p b t.sessionId).dropReader t.serial, [])
    else s.readSerial P now t p b answer

end Server

end RetroBridge.Terminal
