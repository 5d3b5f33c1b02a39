/-
  File:      RetroBridge/Terminal/Server.lean
  Subject:   THE TERMINAL SERVER AS A SYSTEM (retrobridge/terminal/events.py; the deletions of
             retrobridge/admin/routes.py).

  * `handleRequestSession` -- `request_session`: the gates and a resume (`admitOrResume`), else
    `openSession` with its loop over the device's interactive ports (`tryPorts`);
  * `deleteUser`, `deleteDevice`, `deletePort` -- the deletions with their cascades. A lease that
    would lose its session refuses them, since `session_id` is NOT NULL;
  * `Op`, `exec` -- one whole operation, with the answers it gets from outside;
  * `Step` -- the operations as a step relation: under a clock that never goes back, with what each
    sends in its label;
  * `fire`, `desk` -- the same computed, and a small installation to compute it on.

  `resume_bridge` and `start_bridge` run where their one caller, `request_session`, calls them.
-/
import RetroBridge.Library.Run
import RetroBridge.Terminal.Bridge

namespace RetroBridge.Terminal

open Relational Ordered Transition

/-! ## 1. request_session -/

/-- What a request meets outside the process: the maintenance setting, the bytes waiting on a
    resumed line, the transport. -/
structure RequestEnv where
  maintenance : Bool
  waiting : List UInt8
  opening : OpenAnswer

/-- A session of the user counts against the user's quota. -/
def TerminalSession.countsFor (u : Nat) (r : TerminalSession) : Bool :=
  r.userId == u && r.status == .active

namespace Server

variable (P : Process) (now : Time) (s : Server)

/-- The loop over the ports: a row for each, until one gets the port's lease. -/
def tryPorts (userId deviceId : Nat) : List DevicePort → Server →
    Server × Option (TerminalSession × DevicePort)
  | [], s => (s, none)
  | p :: ps, s =>
    let r := s.newSession now userId deviceId p.id
    let attempt := (s.addSession r).acquirePortLease P now p.id r.id
    if attempt.2 then (attempt.1, some (r, p))
    else tryPorts userId deviceId ps (attempt.1.deleteSession r.id)

/-- The effective limit of a user's active sessions. -/
def maxSessions (user : User) : Int := raisedLimit s.site user Prod.snd user.maxTerminalSessions

/-- The user is at the session limit. -/
def sessionsExceeded (user : User) : Bool :=
  decide (s.maxSessions user ≤ s.sessions.count (TerminalSession.countsFor user.id))

def deviceName (d : Device) : String :=
  match d.displayName with
  | some name => if name = "" then d.name else name
  | none => d.name

/-- **`request_session` past the resume**: the quota, a port, the bridge. -/
def openSession (sid : Sid) (user : User) (device : Device) (env : RequestEnv) :
    Server × List Out :=
  if s.sessionsExceeded user then (s, [.sessionDenied sid "Maximum terminal sessions reached"])
  else
    let tried := tryPorts P now user.id device.id (enabledPorts s.site device.id .interactive) s
    match tried.2 with
    | none => (tried.1, [.sessionDenied sid "All interactive ports are currently in use"])
    | some (r, port) =>
      let ended := tried.1.startBridge P now sid r port env.opening
      match ended.2 with
      | .started =>
        (ended.1, [.sessionGranted sid r.id (deviceName device) port.portLabel port.baud])
      | .refused =>
        (ended.1.endSession now r.id "error",
          [.sessionDenied sid ("Could not open serial port: " ++ port.devPath)])
      | .raised => (ended.1, [])

/-- The active session the user has on the device. -/
def existingSession (userId deviceId : Nat) : Option TerminalSession :=
  s.sessions.rows.find? fun r => r.userId == userId && r.deviceId == deviceId && r.status == .active

/-- The session's row says active. -/
def activeInDb (i : Nat) : Bool :=
  match s.sessions.get? i with
  | some r => r.status == .active
  | none => false

/-- The gates before the resume: the user and the device, or why they are refused. -/
def gates (sid : Sid) (deviceId : Nat) (env : RequestEnv) : User × Device ⊕ String :=
  match (P.currentUser sid).bind s.site.users.get? with
  | none => .inr "Not authenticated"
  | some user =>
    if env.maintenance && !user.isAdmin then .inr "Maintenance mode is active"
    else
      match s.site.devices.get? deviceId with
      | none => .inr "Device not available"
      | some device =>
        if !device.isEnabled then .inr "Device not available"
        else if (s.active.get? sid).any Bridge.running then
          .inr "Session already active on this connection"
        else .inl (user, device)

/-- **`request_session` up to the resume**: the user and the device if a session is to be opened. -/
def admitOrResume (sid : Sid) (deviceId : Nat) (env : RequestEnv) :
    Server × List Out × Option (User × Device) :=
  match s.gates P sid deviceId env with
  | .inr reason => (s, [.sessionDenied sid reason], none)
  | .inl (user, device) =>
    match s.existingSession user.id deviceId with
    | none => (s, [], some (user, device))
    | some r =>
      let resumed := s.resumeBridge P now sid r.id env.waiting
      match resumed.2.1 with
      | some _ =>
        let port := resumed.1.site.ports.get? r.portId
        let portLabel := (port.map DevicePort.portLabel).getD ""
        let baud := (port.map DevicePort.baud).getD (some 0)
        (resumed.1,
          resumed.2.2 ++ [.sessionGranted sid r.id (deviceName device) portLabel baud], none)
      | none =>
        if resumed.1.activeInDb r.id then
          (resumed.1, resumed.2.2 ++ [.sessionDenied sid "Session is already active"], none)
        else (resumed.1, resumed.2.2, some (user, device))

/-- **`handle_request_session`**. -/
def handleRequestSession (sid : Sid) (deviceId : Nat) (env : RequestEnv) : Server × List Out :=
  let admitted := s.admitOrResume P now sid deviceId env
  match admitted.2.2 with
  | none => (admitted.1, admitted.2.1)
  | some (user, device) =>
    let opened := admitted.1.openSession P now sid user device env
    (opened.1, admitted.2.1 ++ opened.2)

/-! ## 2. Deletions -/

/-- Delete the sessions that meet `gone` and the leases of the ports that meet `port`, unless a
    lease stays whose session goes. -/
def deleteCascade (site : Site) (gone : TerminalSession → Bool) (port : Nat → Bool) : Server :=
  if s.leases.rows.any fun l => !port l.portId && (s.sessions.get? l.sessionId).any gone then s
  else
    { s with
      site := site
      sessions := s.sessions.filterRows fun r => !gone r
      leases := s.leases.filterRows fun l => !port l.portId }

/-- `delete_user`. -/
def deleteUser (u : Nat) : Server :=
  s.deleteCascade { s.site with users := s.site.users.filterRows fun v => v.id != u }
    (fun r => r.userId == u) fun _ => false

/-- `delete_device`: with its ports, its sessions, and the sessions and leases of its ports. -/
def deleteDevice (d : Nat) : Server :=
  let port : Nat → Bool := fun p => (s.site.ports.get? p).any fun q => q.deviceId == d
  s.deleteCascade
    { s.site with
      devices := s.site.devices.filterRows fun v => v.id != d
      ports := s.site.ports.filterRows fun q => q.deviceId != d }
    (fun r => r.deviceId == d || port r.portId) port

/-- `delete_port`. -/
def deletePort (p : Nat) : Server :=
  s.deleteCascade { s.site with ports := s.site.ports.filterRows fun q => q.id != p }
    (fun r => r.portId == p) fun q => q == p

end Server

/-! ## 3. Operations -/

/-- An operation, with the answers it gets from outside. `read` is an iteration of the thread that
    reads connection `conn`. -/
inductive Op where
  | request (sid : Sid) (deviceId : Nat) (env : RequestEnv)
  | disconnect (sid : Sid)
  | clientDisconnect (sid : Sid)
  | input (sid : Sid) (data : String) (ok : Bool)
  | heartbeat (sid : Sid)
  | acquire (portId sessionId : Nat)
  | cleanup
  | timeouts
  | force (sessionId : Nat)
  | read (conn : Nat) (answer : ReadAnswer)
  | deleteUser (userId : Nat)
  | deleteDevice (deviceId : Nat)
  | deletePort (portId : Nat)

/-- **One operation of the process.** -/
def exec (P : Process) (now : Time) (s : Server) : Op → Server × List Out
  | .request sid deviceId env => s.handleRequestSession P now sid deviceId env
  | .disconnect sid => (s.suspendBridge P now sid, [])
  | .clientDisconnect sid => s.stopBridge now sid "user_disconnect"
  | .input sid data ok => s.writeToSerial now sid data ok
  | .heartbeat sid => s.handleHeartbeat now sid
  | .acquire portId sessionId => ((s.acquirePortLease P now portId sessionId).1, [])
  | .cleanup => (s.cleanupSuspended now, [])
  | .timeouts => s.checkTimeouts now
  | .force sessionId => s.forceDisconnectSession now sessionId
  | .read conn answer =>
    match s.readers.find? fun t => t.serial.conn == conn with
    | some t => s.serialReader P now t answer
    | none => (s, [])
  | .deleteUser u => (s.deleteUser u, [])
  | .deleteDevice d => (s.deleteDevice d, [])
  | .deletePort p => (s.deletePort p, [])

/-- An operation with its time and what it sent. -/
structure Label where
  now : Time
  op : Op
  outs : List Out

def Server.at (s : Server) (now : Time) : Server := { s with clock := now }

/-- **The step relation of the terminal server.** -/
def Step (P : Process) (s : Server) (l : Label) (s' : Server) : Prop :=
  s.clock ≤ l.now ∧ exec P l.now (s.at l.now) l.op = (s', l.outs)

/-- A process that has just started: no bridge, no thread, no connection. -/
structure Server.Started (s : Server) : Prop where
  active : s.active = Dict.empty
  suspended : s.suspended = Suspended.empty
  readers : s.readers = []
  openConns : s.openConns = []

theorem Server.Started.bridge? {s : Server} (h : s.Started) (p : Place) : s.bridge? p = none := by
  cases p with
  | active sid =>
      show s.active.get? sid = none
      rw [h.active]
      rfl
  | suspended k =>
      show s.suspended.dict.get? k = none
      rw [h.suspended]
      rfl

theorem Server.Started.no_bridge {s : Server} (h : s.Started) {p : Place} {b : Bridge} :
    s.bridge? p ≠ some b := by
  rw [h.bridge? p]
  exact nofun

/-! ## 4. Computed runs -/

/-- An operation at a time, if the clock allows it and the step meets `ok`. -/
def fire (P : Process) (ok : Server → Label → Bool) (s : Server) (e : Time × Op) :
    Option (Label × Server) :=
  let done := exec P e.1 (s.at e.1) e.2
  let l : Label := ⟨e.1, e.2, done.2⟩
  if s.clock ≤ e.1 ∧ ok s l = true then some (l, done.1) else none

theorem guarded_of_fire {P : Process} {ok : Server → Label → Bool} {cond : Server → Label → Prop}
    (hok : ∀ s l, ok s l = true → cond s l) (s : Server) (e : Time × Op) (l : Label) (s' : Server)
    (h : fire P ok s e = some (l, s')) : guarded (Step P) cond s l s' := by
  unfold fire at h
  dsimp only at h
  split at h
  · rename_i hc
    cases h
    exact ⟨hok _ _ hc.2, hc.1, rfl⟩
  · cases h

/-- Two users, two devices with one interactive port each. -/
def deskSite : Site where
  users := (Table.empty.insert ⟨1, false, 2, 2, none⟩).insert ⟨2, false, 2, 2, none⟩
  devices := (Table.empty.insert ⟨1, "centurion", none, true⟩).insert ⟨2, "pdp11", none, true⟩
  ports := (Table.empty.insert (deskPort 1 1)).insert (deskPort 2 2)
  intSetting _ := none
  uploadsDir := "uploads"
  outputsDir := "outputs"
where
  /-- An interactive port with the default times. -/
  deskPort (id deviceId : Nat) : DevicePort :=
    { id := id, deviceId := deviceId, portLabel := "CRT0", transport := none,
      devPath := "/dev/ttyUSB0", purpose := .interactive, baud := none, maxConcurrentJobs := none,
      maxRuntimeSeconds := none, idleTimeoutSeconds := none, isEnabled := true }

/-- User 1 is at the socket "alice", user 2 at the socket "bob". -/
def desk : Process where
  workerId := "worker-1"
  currentUser sid := if sid = "alice" then some 1 else if sid = "bob" then some 2 else none
  decode bytes := bytes.map fun b => Char.ofNat b.toNat

/-- No session yet. -/
def deskStart : Server where
  site := deskSite
  sessions := Table.empty
  leases := Table.empty
  active := Dict.empty
  suspended := Suspended.empty
  readers := []
  openConns := []
  nextConn := 0
  clock := 0

theorem deskStart_started : deskStart.Started := ⟨rfl, rfl, rfl, rfl⟩

/-- A request that finds its transport open. -/
def requestOk (sid : Sid) (deviceId : Nat) : Op := .request sid deviceId ⟨false, [], .opened⟩

end RetroBridge.Terminal
