/-
  File:      RetroBridge/Terminal/Model.lean
  Subject:   THE STATE OF A TERMINAL SERVER PROCESS (models.py: `TerminalSession`, `PortLease`;
             retrobridge/terminal/utils.py: `_active_bridges`, `_suspended_bridges` and the helpers
             that look a bridge up).

  * `TerminalSession`, `PortLease` -- the two tables the terminal writes; a lease table has its
    UNIQUE port as key;
  * `Serial`, `Bridge`, `Reader` -- an open connection (with the user it was opened for), a bridge
    over it, and the thread that reads it;
  * `Suspended` -- the suspended bridges, each under its own session id by construction;
  * `Server`, `Server.bridge?` -- the process: tables, both registries, threads. `bridge?` is the
    registries as one lookup by `Place`, and `bridge?_putActive` and its siblings say what each
    change does to it;
  * `firstPlace` -- the order in which the source searches the registries, behind
    `getBridgeBySession`, `hasLocalBridge` and `removeBridgeBySession`.

  Left out: log files, the thread object of a bridge and its database engine.
-/
import RetroBridge.Library.Dict
import RetroBridge.Models

namespace RetroBridge.Terminal

open Relational Ordered

/-! ## 1. Rows -/

/-- The id of a Socket.IO connection. -/
abbrev Sid := String

/-- `TerminalSession.status`; `bridge_status` is one of the first two. -/
inductive SessionStatus where
  | active
  | suspended
  | disconnected
  deriving DecidableEq, Repr

/-- A row of `terminal_sessions`. -/
structure TerminalSession where
  id : Nat
  userId : Nat
  deviceId : Nat
  portId : Nat
  status : SessionStatus
  connectedAt : Option Time
  disconnectedAt : Option Time
  durationSeconds : Option Int
  disconnectReason : Option String
  bridgeWorkerId : Option String
  bridgeHeartbeatAt : Option Time
  bridgeStatus : Option SessionStatus
  deriving DecidableEq

/-- A row of `port_leases`. -/
structure PortLease where
  portId : Nat
  sessionId : Nat
  claimedBy : String
  claimedAt : Time
  leaseExpiresAt : Time
  heartbeatAt : Time

instance : Keyed TerminalSession := ⟨TerminalSession.id⟩

/-- `port_id` is UNIQUE. -/
instance : Keyed PortLease := ⟨PortLease.portId⟩

@[simp] theorem key_session (r : TerminalSession) : key r = r.id := rfl
@[simp] theorem key_lease (l : PortLease) : key l = l.portId := rfl

/-- `GRACE_PERIOD`. -/
def gracePeriod : Int := 600

/-- `TERMINAL_LEASE_SECONDS`. -/
def terminalLeaseSeconds : Int := 300

/-- `BRIDGE_HEARTBEAT_SECONDS`. -/
def bridgeHeartbeatSeconds : Int := 10

/-- `BRIDGE_HEARTBEAT_STALE_SECONDS`. -/
def bridgeHeartbeatStaleSeconds : Int := 30

/-! ## 2. Connections, bridges and threads -/

/-- An open connection to a port: its number, and the user who requested the session it was opened
    for. -/
structure Serial where
  conn : Nat
  openedFor : Nat
  deriving DecidableEq

/-- A character with the connection it was read from. -/
abbrev Heard := Serial × Char

/-- A bridge, as `start_bridge` builds it. -/
structure Bridge where
  serial : Serial
  sid : Option Sid
  sessionId : Nat
  portId : Nat
  deviceId : Nat
  running : Bool
  bytesSent : Nat
  bytesReceived : Nat
  outputBuffer : List Heard
  lastActivity : Time
  startTime : Time
  maxRuntime : Time
  idleTimeout : Time
  suspendedAt : Option Time

/-- A thread in `_serial_reader`, with its local variables. -/
structure Reader where
  serial : Serial
  sessionId : Nat
  lastHeartbeat : Time

/-- `_suspended_bridges`: every bridge is under its own session id. -/
structure Suspended where
  dict : Dict Nat Bridge
  keyed : ∀ k b, dict.get? k = some b → b.sessionId = k

namespace Suspended

def empty : Suspended := ⟨Dict.empty, fun k b h => by rw [Dict.get?_empty] at h; cases h⟩

/-- `_suspended_bridges[session_id] = bridge`. -/
def put (d : Suspended) (b : Bridge) : Suspended where
  dict := d.dict.set b.sessionId b
  keyed k c h := by
    rw [Dict.get?_set] at h
    split at h
    · rename_i hk
      rw [hk, Option.some.inj h]
    · exact d.keyed k c h

def erase (d : Suspended) (k : Nat) : Suspended where
  dict := d.dict.erase k
  keyed j c h := by
    rw [Dict.get?_erase] at h
    split at h
    · cases h
    · exact d.keyed j c h

def modify (d : Suspended) (k : Nat) (f : Bridge → Bridge)
    (hf : ∀ b, (f b).sessionId = b.sessionId) : Suspended where
  dict := d.dict.modify k f
  keyed j c h := by
    rw [Dict.get?_modify] at h
    split at h
    · obtain ⟨b, hb, rfl⟩ := Option.map_eq_some_iff.mp h
      rw [hf b]
      exact d.keyed j b hb
    · exact d.keyed j c h

end Suspended

/-! ## 3. The process -/

/-- What does not change while the process runs: `_terminal_worker_id()`, the login of every socket,
    and `bytes.decode("utf-8", errors="replace")`. -/
structure Process where
  workerId : String
  currentUser : Sid → Option Nat
  decode : List UInt8 → List Char

/-- **A terminal server process** with its database. -/
structure Server where
  site : Site
  sessions : Table TerminalSession
  leases : Table PortLease
  active : Dict Sid Bridge
  suspended : Suspended
  readers : List Reader
  openConns : List Nat
  nextConn : Nat
  clock : Time

/-- Where a registered bridge is. -/
inductive Place where
  | active (sid : Sid)
  | suspended (sessionId : Nat)
  deriving DecidableEq

namespace Server

variable (s : Server)

/-- The bridge at a place. -/
def bridge? : Place → Option Bridge
  | .active sid => s.active.get? sid
  | .suspended k => s.suspended.dict.get? k

theorem sessionId_of_suspended {s : Server} {k : Nat} {b : Bridge}
    (h : s.bridge? (.suspended k) = some b) : b.sessionId = k := s.suspended.keyed k b h

def isOpen (ser : Serial) : Bool := s.openConns.contains ser.conn

/-- `ser.close()`. -/
def closeSerial (ser : Serial) : Server := { s with openConns := s.openConns.filter (· ≠ ser.conn) }

/-! ### Changes of the registries -/

def putActive (sid : Sid) (b : Bridge) : Server := { s with active := s.active.set sid b }

def putSuspended (b : Bridge) : Server := { s with suspended := s.suspended.put b }

def removeAt : Place → Server
  | .active sid => { s with active := s.active.erase sid }
  | .suspended k => { s with suspended := s.suspended.erase k }

def modifyAt (p : Place) (f : Bridge → Bridge) (hf : ∀ b, (f b).sessionId = b.sessionId) : Server :=
  match p with
  | .active sid => { s with active := s.active.modify sid f }
  | .suspended k => { s with suspended := s.suspended.modify k f hf }

theorem bridge?_putActive (sid : Sid) (b : Bridge) (q : Place) :
    (s.putActive sid b).bridge? q = if q = .active sid then some b else s.bridge? q := by
  cases q with
  | active sid' =>
      show (s.active.set sid b).get? sid' = _
      rw [Dict.get?_set]
      simp [Server.bridge?]
  | suspended k => simp [Server.bridge?, putActive]

theorem bridge?_putSuspended (b : Bridge) (q : Place) :
    (s.putSuspended b).bridge? q = if q = .suspended b.sessionId then some b else s.bridge? q := by
  cases q with
  | active sid => simp [Server.bridge?, putSuspended]
  | suspended k =>
      show (s.suspended.dict.set b.sessionId b).get? k = _
      rw [Dict.get?_set]
      simp [Server.bridge?]

theorem bridge?_removeAt (p q : Place) :
    (s.removeAt p).bridge? q = if q = p then none else s.bridge? q := by
  cases p with
  | active sid =>
      cases q with
      | active sid' =>
          show (s.active.erase sid).get? sid' = _
          rw [Dict.get?_erase]
          simp [Server.bridge?]
      | suspended k => simp [Server.bridge?, removeAt]
  | suspended k =>
      cases q with
      | active sid => simp [Server.bridge?, removeAt]
      | suspended k' =>
          show (s.suspended.dict.erase k).get? k' = _
          rw [Dict.get?_erase]
          simp [Server.bridge?]

theorem bridge?_modifyAt (p : Place) (f : Bridge → Bridge)
    (hf : ∀ b, (f b).sessionId = b.sessionId) (q : Place) :
    (s.modifyAt p f hf).bridge? q = if q = p then (s.bridge? q).map f else s.bridge? q := by
  cases p with
  | active sid =>
      cases q with
      | active sid' =>
          show (s.active.modify sid f).get? sid' = _
          rw [Dict.get?_modify]
          simp [Server.bridge?]
      | suspended k => simp [Server.bridge?, modifyAt]
  | suspended k =>
      cases q with
      | active sid => simp [Server.bridge?, modifyAt]
      | suspended k' =>
          show (s.suspended.dict.modify k f).get? k' = _
          rw [Dict.get?_modify]
          simp [Server.bridge?]

/-! ### Searching the registries -/

/-- The first registered bridge that meets `p`: the active ones first, then the suspended ones. -/
def firstPlace (p : Bridge → Bool) : Option (Place × Bridge) :=
  match s.active.find? p with
  | some (sid, b) => some (.active sid, b)
  | none =>
    match s.suspended.dict.find? p with
    | some (k, b) => some (.suspended k, b)
    | none => none

variable {s} in
theorem firstPlace_some {p : Bridge → Bool} {q : Place} {b : Bridge}
    (h : s.firstPlace p = some (q, b)) : s.bridge? q = some b ∧ p b = true := by
  unfold firstPlace at h
  split at h
  · rename_i sid c hc
    cases h
    exact Dict.find?_some hc
  · split at h
    · rename_i k c hc
      cases h
      exact Dict.find?_some hc
    · cases h

variable {s} in
theorem firstPlace_none {p : Bridge → Bool} (h : s.firstPlace p = none) {q : Place} {b : Bridge}
    (hb : s.bridge? q = some b) : p b = false := by
  unfold firstPlace at h
  split at h
  · cases h
  · rename_i hact
    split at h
    · cases h
    · rename_i hsus
      cases q with
      | active sid => exact Dict.find?_none hact hb
      | suspended k => exact Dict.find?_none hsus hb

/-- `_get_bridge_by_session`, with the place. -/
def getBridgeBySession (sessionId : Nat) : Option (Place × Bridge) :=
  s.firstPlace fun b => b.sessionId == sessionId && b.running

/-- `_has_local_bridge`. -/
def hasLocalBridge (sessionId : Nat) : Bool :=
  (s.firstPlace fun b => b.sessionId == sessionId && b.running).isSome

/-- `_remove_bridge_by_session`. -/
def removeBridgeBySession (sessionId : Nat) : Server :=
  match s.firstPlace fun b => b.sessionId == sessionId with
  | some (q, _) => s.removeAt q
  | none => s

variable {s} in
theorem hasLocalBridge_of {q : Place} {b : Bridge} (hb : s.bridge? q = some b)
    (hr : b.running = true) : s.hasLocalBridge b.sessionId = true := by
  unfold hasLocalBridge
  cases h : s.firstPlace fun c => c.sessionId == b.sessionId && c.running with
  | some _ => rfl
  | none =>
      have hf := firstPlace_none h hb
      simp [hr] at hf

end Server

end RetroBridge.Terminal
