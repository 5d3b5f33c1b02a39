/-
  File:      RetroBridge/Terminal/Lease.lean
  Subject:   SESSION ROWS AND PORT LEASES (retrobridge/terminal/utils.py: the registry columns, the
             lease functions, `create_session`, `end_session`).

  * `recoverStaleLeases`, `acquirePortLease`, `heartbeatPortLease` -- the leases. A recovery deletes
    every expired lease, also of a session that this process still drives, and an acquisition is an
    INSERT under the UNIQUE port; a heartbeat is an UPDATE and brings no deleted lease back;
  * `createSession`, `deleteSession`, `endSession` -- the session rows; a new row gets max(id) + 1;
  * `updateBridgeRegistry`, `isBridgeActiveRemotely`, `sessionStillActiveInDb` -- the columns that
    say which process drives a session.
-/
import RetroBridge.Terminal.Model

namespace RetroBridge.Terminal

open Relational Ordered

namespace Server

variable (s : Server)

/-! ## 1. The columns of the driving process -/

/-- An UPDATE of one session row. -/
def updateSession (i : Nat) (f : TerminalSession → TerminalSession) (hf : ∀ r, (f r).id = r.id) :
    Server :=
  { s with sessions := s.sessions.mapRows (Table.atKey i f) (Table.atKey_key f hf) }

/-- `_update_bridge_registry`. -/
def updateBridgeRegistry (P : Process) (now : Time) (i : Nat) (status : SessionStatus) : Server :=
  s.updateSession i
    (fun r => { r with bridgeWorkerId := some P.workerId, bridgeHeartbeatAt := some now,
                       bridgeStatus := some status })
    fun _ => rfl

/-- `_heartbeat_bridge_in_thread`. -/
def heartbeatBridgeInThread (P : Process) (now : Time) (i : Nat) : Server :=
  s.updateSession i
    (fun r => if r.bridgeWorkerId = some P.workerId then { r with bridgeHeartbeatAt := some now }
      else r)
    fun r => by
      show TerminalSession.id (if r.bridgeWorkerId = some P.workerId then _ else r) = r.id
      split <;> rfl

/-- `is_bridge_active_remotely`: another process has driven the session within the last 30 s. -/
def isBridgeActiveRemotely (P : Process) (now : Time) (i : Nat) : Bool :=
  match s.sessions.get? i with
  | none => false
  | some r =>
    match r.bridgeWorkerId, r.bridgeHeartbeatAt with
    | some w, some t =>
      w != "" && w != P.workerId &&
        (r.bridgeStatus == some .active || r.bridgeStatus == some .suspended) &&
        decide (now - t < seconds bridgeHeartbeatStaleSeconds)
    | _, _ => false

/-- `_session_still_active_in_db`. -/
def sessionStillActiveInDb (P : Process) (i : Nat) : Bool :=
  match s.sessions.get? i with
  | none => false
  | some r =>
    r.status == .active &&
      match r.bridgeWorkerId with
      | some w => w == "" || w == P.workerId
      | none => true

/-! ## 2. Session rows -/

/-- `create_session`: the row it adds. -/
def newSession (now : Time) (userId deviceId portId : Nat) : TerminalSession where
  id := s.sessions.nextKey
  userId := userId
  deviceId := deviceId
  portId := portId
  status := .active
  connectedAt := some now
  disconnectedAt := none
  durationSeconds := none
  disconnectReason := none
  bridgeWorkerId := none
  bridgeHeartbeatAt := none
  bridgeStatus := none

def addSession (r : TerminalSession) : Server := { s with sessions := s.sessions.insert r }

/-- `db_session.delete(session)`. -/
def deleteSession (i : Nat) : Server :=
  { s with sessions := s.sessions.filterRows fun r => r.id != i }

end Server

/-- A row that is no longer active. -/
def disconnected (now : Time) (reason : String) (r : TerminalSession) : TerminalSession :=
  { r with
    status := .disconnected
    disconnectReason := some reason
    disconnectedAt := some now
    durationSeconds :=
      match r.connectedAt with
      | some t => some ((now - t).tdiv 1000000)
      | none => r.durationSeconds }

/-- A row that `end_session` ends: also driven by nobody. -/
def ended (now : Time) (reason : String) (r : TerminalSession) : TerminalSession :=
  { disconnected now reason r with
    bridgeWorkerId := none, bridgeHeartbeatAt := none, bridgeStatus := none }

namespace Server

variable (s : Server)

/-- **`end_session`**: the row if there is one, and every lease of the session. -/
def endSession (now : Time) (i : Nat) (reason : String) : Server :=
  { s.updateSession i (ended now reason) fun _ => rfl with
    leases := s.leases.filterRows fun l => l.sessionId != i }

/-! ## 3. Leases -/

end Server

/-- The lease ended before `now`. -/
def PortLease.expired (now : Time) (l : PortLease) : Bool := decide (l.leaseExpiresAt < now)

namespace Server

variable (s : Server)

/-- What a recovery writes of one session row. -/
def recoverSession (now : Time) (r : TerminalSession) : TerminalSession :=
  if r.status = .active ∧ s.hasLocalBridge r.id = false ∧
      (s.leases.rows.any fun l => l.expired now && l.sessionId == r.id) = true then
    disconnected now "lease_expired" r
  else r

theorem recoverSession_id (now : Time) (r : TerminalSession) :
    (s.recoverSession now r).id = r.id := by
  unfold recoverSession
  split <;> rfl

/-- **`recover_stale_leases`**: every expired lease goes, and its session ends unless a bridge of
    this process drives it. -/
def recoverStaleLeases (now : Time) : Server :=
  { s with
    sessions := s.sessions.mapRows (s.recoverSession now) (s.recoverSession_id now)
    leases := s.leases.filterRows fun l => !l.expired now }

/-- The lease `acquire_port_lease` adds. -/
def newLease (P : Process) (now : Time) (portId sessionId : Nat) : PortLease where
  portId := portId
  sessionId := sessionId
  claimedBy := P.workerId
  claimedAt := now
  leaseExpiresAt := now + seconds terminalLeaseSeconds
  heartbeatAt := now

def addLease (l : PortLease) : Server := { s with leases := s.leases.insert l }

/-- **`acquire_port_lease`**: a recovery, then an INSERT that the UNIQUE port or a foreign key may
    refuse. -/
def acquirePortLease (P : Process) (now : Time) (portId sessionId : Nat) : Server × Bool :=
  let s₁ := s.recoverStaleLeases now
  if (s₁.leases.get? portId).isNone && (s₁.sessions.get? sessionId).isSome &&
      (s₁.site.ports.get? portId).isSome then
    (s₁.addLease (newLease P now portId sessionId), true)
  else (s₁, false)

end Server

/-- The values of a heartbeat for session `i`. -/
def PortLease.beat (now : Time) (i : Nat) (l : PortLease) : PortLease :=
  if l.sessionId = i then
    { l with heartbeatAt := now, leaseExpiresAt := now + seconds terminalLeaseSeconds }
  else l

theorem PortLease.beat_same (now : Time) (i : Nat) (l : PortLease) :
    (l.beat now i).portId = l.portId ∧ (l.beat now i).sessionId = l.sessionId := by
  unfold beat
  split <;> exact ⟨rfl, rfl⟩

/-- `heartbeat_port_lease`. -/
def Server.heartbeatPortLease (s : Server) (now : Time) (i : Nat) : Server :=
  { s with leases := s.leases.mapRows (PortLease.beat now i) fun l => (l.beat_same now i).1 }

end RetroBridge.Terminal
