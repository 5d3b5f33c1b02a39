/-
  File:      RetroBridge/Terminal/Cluster.lean
  Subject:   SEVERAL TERMINAL SERVER PROCESSES OVER ONE DATABASE, and the steps of their handlers.

  Server.lean runs each operation as one step of one process. Here every lock section, every
  transaction and every iteration of a reading thread is a step of its own, and the steps of all
  handlers of all processes interleave:

  * `Memory`, `Shared` -- what one process keeps, and the database with every memory;
    `Deployment.view` is what a process sees;
  * `Phase` -- where a handler is; `advance` -- its next step, with the functions of Server.lean;
  * `program` -- the machine: calls, steps of handlers, iterations of reading threads, input;
  * `Write`, `RowWrite` -- what a step writes to the session rows, said once (`program_rows`);
  * `RowChange`, `RowAt` -- the same for one row (`RowWrite.at`);
  * `RowWrite.settled` -- only `create_session` makes a row active.

  Left out: what is sent, and the deletions of the admin. A recovery, an end and a sweep read and
  write in one step here; UnitOfWork.lean takes them apart.
-/
import RetroBridge.Library.Threads
import RetroBridge.Terminal.PortLoop
import RetroBridge.Terminal.Startup

namespace RetroBridge.Terminal

open Relational Ordered Transition Interleaved

/-! ## 1. The shared state -/

/-- What one process keeps in memory. -/
structure Memory where
  active : Dict Sid Bridge
  suspended : Suspended
  readers : List Reader
  openConns : List Nat
  nextConn : Nat

/-- A process that has just started. -/
def Memory.empty : Memory := ⟨Dict.empty, Suspended.empty, [], [], 0⟩

/-- **The database, and the memory of every process**, by the worker's id. -/
structure Shared where
  sessions : Table TerminalSession
  leases : Table PortLease
  clock : Time
  memory : String → Memory

/-- What all processes have alike. The terminal writes nothing of the site. -/
structure Deployment where
  site : Site
  currentUser : Sid → Option Nat
  decode : List UInt8 → List Char

namespace Deployment

variable (D : Deployment)

def process (w : String) : Process := ⟨w, D.currentUser, D.decode⟩

/-- What a process sees at a time. -/
def view (c : Shared) (w : String) (now : Time) : Server where
  site := D.site
  sessions := c.sessions
  leases := c.leases
  active := (c.memory w).active
  suspended := (c.memory w).suspended
  readers := (c.memory w).readers
  openConns := (c.memory w).openConns
  nextConn := (c.memory w).nextConn
  clock := now

end Deployment

/-- A process has made of what it sees `s`. -/
def Shared.store (c : Shared) (w : String) (now : Time) (s : Server) : Shared where
  sessions := s.sessions
  leases := s.leases
  clock := now
  memory v :=
    if v = w then ⟨s.active, s.suspended, s.readers, s.openConns, s.nextConn⟩ else c.memory v

/-! ## 2. Handlers -/

/-- A handler's thread: the worker, and its number there. -/
structure Thread where
  worker : String
  number : Nat
  deriving DecidableEq

/-- A request past its gates. -/
structure Request where
  sid : Sid
  user : User
  device : Device

/-- A resume that has popped the bridge. -/
structure Held where
  req : Request
  id : Nat
  bridge : Bridge

/-- An attempt of the port loop: its row, its port, and the ports after it. -/
structure Attempt where
  req : Request
  row : TerminalSession
  port : DevicePort
  rest : List DevicePort

/-- What a terminating handler still has to do. -/
inductive Task where
  | stop (sid : Sid) (reason : String)
  | clean (k : Nat)
  | force (i : Nat)
  | forceSuspended (i : Nat)

/-- **Where a handler is**: each phase names what has been done last, or is done next. -/
inductive Phase where
  | idle
  /-- `request_session`. -/
  | requested (sid : Sid) (deviceId : Nat)
  | gated (q : Request)
  | found (q : Request) (r : TerminalSession)
  | resuming (h : Held)
  | putting (h : Held)
  | reattaching (h : Held)
  | resumed (h : Held)
  | flushing (sid : Sid) (ser : Serial)
  | unresumed (q : Request) (i : Nat)
  | counting (q : Request)
  | looping (q : Request) (ports : List DevicePort)
  | created (a : Attempt)
  | recovered (a : Attempt)
  | lost (a : Attempt)
  | leased (a : Attempt)
  | unclaimed (a : Attempt)
  | opening (a : Attempt)
  | opened (sid : Sid) (b : Bridge)
  | registering (sid : Sid) (b : Bridge)
  | failing (i : Nat)
  /-- A socket's disconnect, and its heartbeat. -/
  | disconnecting (sid : Sid)
  | suspending (i : Nat)
  | hearing (sid : Sid)
  | beating (i : Nat)
  /-- `stop_bridge`, `force_disconnect_session`, `cleanup_suspended`, `check_timeouts`. -/
  | cleaning
  | timing
  | working (todo : List Task)
  | ending (i : Nat) (reason : String) (todo : List Task)
  /-- A recovery on its own, and the start of a process. -/
  | recovering
  | clearing
  | sweeping

/-- What a handler is called for. -/
inductive Call where
  | request (sid : Sid) (deviceId : Nat)
  | disconnect (sid : Sid)
  | clientDisconnect (sid : Sid)
  | heartbeat (sid : Sid)
  | cleanup
  | timeouts
  | force (i : Nat)
  | recover
  | startup

/-- The phase a call begins in. -/
def Call.phase : Call → Phase
  | .request sid deviceId => .requested sid deviceId
  | .disconnect sid => .disconnecting sid
  | .clientDisconnect sid => .working [.stop sid "user_disconnect"]
  | .heartbeat sid => .hearing sid
  | .cleanup => .cleaning
  | .timeouts => .timing
  | .force i => .working [.force i]
  | .recover => .recovering
  | .startup => .clearing

namespace Server

variable (P : Process) (now : Time) (s : Server)

/-- The INSERT of `acquire_port_lease`, after its recovery. -/
def insertLease (portId sessionId : Nat) : Server × Bool :=
  if (s.leases.get? portId).isNone && (s.sessions.get? sessionId).isSome &&
      (s.site.ports.get? portId).isSome then
    (s.addLease (newLease P now portId sessionId), true)
  else (s, false)

/-- Bytes that come from the device leave a bridge on its session. -/
theorem flushed_sessionId (waiting : List UInt8) (b : Bridge) :
    ({ b with bytesReceived := b.bytesReceived + waiting.length } : Bridge).sessionId =
      b.sessionId := rfl

/-- And so does a heartbeat of the browser. -/
theorem heard_sessionId (now : Time) (b : Bridge) :
    ({ b with lastActivity := now } : Bridge).sessionId = b.sessionId := rfl

/-- The flush of a resumed line, on its bridge wherever that is by now. -/
def flushLine (ser : Serial) (waiting : List UInt8) : Server :=
  match s.firstPlace fun b => b.serial == ser with
  | some (q, _) =>
    if s.isOpen ser then
      s.modifyAt q (fun b => { b with bytesReceived := b.bytesReceived + waiting.length })
        (flushed_sessionId waiting)
    else s
  | none => s

/-- A connection is opened. -/
def openConn (ser : Serial) : Server :=
  { s with openConns := ser.conn :: s.openConns, nextConn := s.nextConn + 1 }

/-- A bridge enters the registry, and its thread starts. -/
def startReader (sid : Sid) (b : Bridge) : Server :=
  { s.putActive sid b with readers := s.readers ++ [⟨b.serial, b.sessionId, 0⟩] }

/-- **The next step of a handler** in its process. -/
def advance (env : RequestEnv) : Phase → Server × Phase
  | .idle => (s, .idle)
  | .requested sid deviceId =>
    match s.gates P sid deviceId env with
    | .inr _ => (s, .idle)
    | .inl (user, device) => (s, .gated ⟨sid, user, device⟩)
  | .gated q =>
    match s.existingSession q.user.id q.device.id with
    | none => (s, .counting q)
    | some r => (s, .found q r)
  | .found q r =>
    match s.suspended.dict.get? r.id with
    | none => (s, .unresumed q r.id)
    | some b => (s.removeAt (.suspended r.id), .resuming ⟨q, r.id, b⟩)
  | .resuming h =>
    if s.isBridgeActiveRemotely P now h.id then (s, .putting h) else (s, .reattaching h)
  | .putting h => (s.putSuspended h.bridge, .unresumed h.req h.id)
  | .reattaching h =>
    if h.bridge.graceOver now then
      ((s.closeSerial h.bridge.serial).endSession now h.id "user_disconnect",
        .unresumed h.req h.id)
    else (s.putActive h.req.sid (h.bridge.resume now h.req.sid), .resumed h)
  | .resumed h => (s.updateBridgeRegistry P now h.id .active, .flushing h.req.sid h.bridge.serial)
  | .flushing _ ser => (s.flushLine ser env.waiting, .idle)
  | .unresumed q i => if s.activeInDb i then (s, .idle) else (s, .counting q)
  | .counting q =>
    if s.sessionsExceeded q.user then (s, .idle)
    else (s, .looping q (enabledPorts s.site q.device.id .interactive))
  | .looping _ [] => (s, .idle)
  | .looping q (p :: ps) =>
    (s.addSession (s.newSession now q.user.id q.device.id p.id),
      .created ⟨q, s.newSession now q.user.id q.device.id p.id, p, ps⟩)
  | .created a => (s.recoverStaleLeases now, .recovered a)
  | .recovered a =>
    if (s.insertLease P now a.port.id a.row.id).2 then
      ((s.insertLease P now a.port.id a.row.id).1, .leased a)
    else (s, .lost a)
  | .lost a => (s.deleteSession a.row.id, .looping a.req a.rest)
  | .leased a =>
    if (s.active.get? a.req.sid).isSome then (s, .failing a.row.id) else (s, .unclaimed a)
  | .unclaimed a =>
    if s.isBridgeActiveRemotely P now a.row.id then (s, .failing a.row.id) else (s, .opening a)
  | .opening a =>
    match env.opening with
    | .serialException => (s, .failing a.row.id)
    | .otherException => (s, .idle)
    | .opened =>
      let ser := s.nextSerial a.row.userId
      (s.openConn ser, .opened a.req.sid (newBridge now ser a.req.sid a.row a.port))
  | .opened sid b => (s.updateBridgeRegistry P now b.sessionId .active, .registering sid b)
  | .registering sid b => (s.startReader sid b, .idle)
  | .failing i => (s.endSession now i "error", .idle)
  | .disconnecting sid =>
    match s.active.get? sid with
    | none => (s, .idle)
    | some b =>
      ((s.removeAt (.active sid)).putSuspended (b.suspend now), .suspending b.sessionId)
  | .suspending i => (s.updateBridgeRegistry P now i .suspended, .idle)
  | .hearing sid =>
    match s.active.get? sid with
    | none => (s, .idle)
    | some b =>
      if b.running then
        (s.modifyAt (.active sid) (fun b => { b with lastActivity := now }) (heard_sessionId now),
          .beating b.sessionId)
      else (s, .idle)
  | .beating i => (s.heartbeatPortLease now i, .idle)
  | .cleaning => (s, .working ((s.graceExpired now).map .clean))
  | .timing => (s, .working ((s.timedOut now).map fun e => .stop e.1 e.2))
  | .working [] => (s, .idle)
  | .working (.stop sid reason :: todo) =>
    match s.active.get? sid with
    | none => (s, .working todo)
    | some b =>
      ((s.removeAt (.active sid)).closeSerial b.serial, .ending b.sessionId reason todo)
  | .working (.clean k :: todo) =>
    match s.suspended.dict.get? k with
    | none => (s, .working todo)
    | some b =>
      ((s.removeAt (.suspended k)).closeSerial b.serial, .ending k "user_disconnect" todo)
  | .working (.force i :: todo) =>
    match s.active.find? fun b => b.sessionId == i && b.running with
    | some (sid, _) => (s, .working (.stop sid "admin_force" :: todo))
    | none => (s, .working (.forceSuspended i :: todo))
  | .working (.forceSuspended i :: todo) =>
    match s.suspended.dict.get? i with
    | some b => (s.loseBridge (.suspended i) b i, .ending i "admin_force" todo)
    | none => (s, .ending i "admin_force" todo)
  | .ending i reason todo => (s.endSession now i reason, .working todo)
  | .recovering => (s.recoverStaleLeases now, .idle)
  | .clearing => (s.clearLeases, .sweeping)
  | .sweeping => (s.sweepSessions now, .idle)

end Server

/-! ## 3. The machine -/

/-- What happens in a thread. `read` is an iteration of the thread that reads connection `conn` of
    the worker, `input` a socket's input. -/
inductive Act where
  | call (k : Call)
  | step (env : RequestEnv)
  | read (conn : Nat) (answer : ReadAnswer)
  | input (sid : Sid) (data : String) (ok : Bool)

structure Event where
  now : Time
  act : Act

/-- An iteration of the thread that reads a connection, where there is one. -/
def Server.readConn (P : Process) (now : Time) (s : Server) (conn : Nat) (answer : ReadAnswer) :
    Server :=
  match s.readers.find? fun t => t.serial.conn == conn with
  | some t => (s.serialReader P now t answer).1
  | none => s

/-- What a thread of the worker does. -/
def Server.perform (P : Process) (now : Time) (s : Server) (ph : Phase) :
    Act → Option (Server × Phase)
  | .call k =>
    match ph with
    | .idle => some (s, k.phase)
    | _ => none
  | .step env => some (s.advance P now env ph)
  | .read conn answer => some (s.readConn P now conn answer, ph)
  | .input sid data ok => some ((s.writeToSerial now sid data ok).1, ph)

/-- **The machine**, under a clock that never goes back. -/
def program (D : Deployment) : Program Shared Thread Phase Event := fun t e c ph =>
  if c.clock ≤ e.now then
    ((D.view c t.worker e.now).perform (D.process t.worker) e.now ph e.act).map fun r =>
      (c.store t.worker e.now r.1, r.2)
  else none

/-- The processes with the phases of their handlers. -/
abbrev Cluster := World Shared Thread Phase

variable {D : Deployment} {t : Thread} {e : Event} {c c' : Shared} {ph ph' : Phase}

/-- A turn of the machine, seen from the thread's worker. -/
theorem program_some (h : program D t e c ph = some (c', ph')) : c.clock ≤ e.now ∧ ∃ s',
    (D.view c t.worker e.now).perform (D.process t.worker) e.now ph e.act = some (s', ph') ∧
      c' = c.store t.worker e.now s' := by
  unfold program at h
  split at h
  · rename_i hclock
    obtain ⟨⟨s', p⟩, hs, heq⟩ := Option.map_eq_some_iff.mp h
    cases heq
    exact ⟨hclock, s', hs, rfl⟩
  · cases h

/-- The site of `desk`, with two sockets for each user. -/
def office : Deployment where
  site := deskSite
  currentUser sid :=
    if sid = "alice" ∨ sid = "alice2" then some 1 else if sid = "bob" then some 2 else none
  decode := desk.decode

/-- No session, and every process has just started. -/
def officeStart : Cluster where
  shared := ⟨Table.empty, Table.empty, 0, fun _ => Memory.empty⟩
  phase _ := .idle

/-- A handler's step whose environment answers well, and its first steps. -/
def officeStep (worker : String) (n : Nat) (now : Time) : Thread × Event :=
  (⟨worker, n⟩, ⟨now, .step ⟨false, [], .opened⟩⟩)

def officeCall (worker : String) (n : Nat) (now : Time) (k : Call) (steps : Nat) :
    List (Thread × Event) :=
  (⟨worker, n⟩, ⟨now, .call k⟩) :: List.replicate steps (officeStep worker n now)

/-! ## 4. What a step writes to the session rows -/

/-- What a step writes to `terminal_sessions`. -/
inductive Write where
  | nothing
  | ends (i : Nat)
  | drives (i : Nat)
  | beats
  | creates (userId : Nat)
  | deletes (i : Nat)
  | recovers
  | sweeps
  deriving DecidableEq

/-- What the next step of a handler writes. -/
def Phase.write (now : Time) : Phase → Write
  | .reattaching h => if h.bridge.graceOver now then .ends h.id else .nothing
  | .resumed h => .drives h.id
  | .looping q (_ :: _) => .creates q.user.id
  | .created _ => .recovers
  | .lost a => .deletes a.row.id
  | .opened _ b => .drives b.sessionId
  | .failing i => .ends i
  | .suspending i => .drives i
  | .ending i _ _ => .ends i
  | .recovering => .recovers
  | .sweeping => .sweeps
  | _ => .nothing

/-- What a thread in a phase writes on an event. -/
def Event.write (e : Event) (ph : Phase) : Write :=
  match e.act with
  | .call _ => .nothing
  | .step _ => ph.write e.now
  | .read _ _ => .beats
  | .input _ _ _ => .nothing

/-- **The session rows after a write** of a process that sees `s`. -/
inductive RowWrite (P : Process) (now : Time) (s : Server) (rows : Table TerminalSession) :
    Write → Prop where
  | nothing (h : rows = s.sessions) : RowWrite P now s rows .nothing
  | ends (i : Nat) (reason : String) (h : rows = (s.endSession now i reason).sessions) :
      RowWrite P now s rows (.ends i)
  | drives (i : Nat) (status : SessionStatus)
      (h : rows = (s.updateBridgeRegistry P now i status).sessions) :
      RowWrite P now s rows (.drives i)
  | beats (h : rows = s.sessions ∨ ∃ i, rows = (s.heartbeatBridgeInThread P now i).sessions) :
      RowWrite P now s rows .beats
  | creates (u d p : Nat) (h : rows = (s.addSession (s.newSession now u d p)).sessions) :
      RowWrite P now s rows (.creates u)
  | deletes (i : Nat) (h : rows = (s.deleteSession i).sessions) : RowWrite P now s rows (.deletes i)
  | recovers (h : rows = (s.recoverStaleLeases now).sessions) : RowWrite P now s rows .recovers
  | sweeps (h : rows = (s.sweepSessions now).sessions) : RowWrite P now s rows .sweeps

section Rows

variable {P : Process} {now : Time} {s : Server} {rows : Table TerminalSession}

theorem sessions_removeAt (s : Server) (q : Place) : (s.removeAt q).sessions = s.sessions := by
  cases q <;> rfl

theorem sessions_modifyAt (s : Server) (q : Place) (f : Bridge → Bridge)
    (hf : ∀ b, (f b).sessionId = b.sessionId) : (s.modifyAt q f hf).sessions = s.sessions := by
  cases q <;> rfl

theorem sessions_loseBridge (s : Server) (q : Place) (b : Bridge) (i : Nat) :
    (s.loseBridge q b i).sessions = s.sessions := by
  unfold Server.loseBridge Server.removeBridgeBySession
  split
  · rw [sessions_removeAt]
    exact sessions_modifyAt s q Bridge.halt fun _ => rfl
  · exact sessions_modifyAt s q Bridge.halt fun _ => rfl

theorem sessions_flushLine (s : Server) (ser : Serial) (waiting : List UInt8) :
    (s.flushLine ser waiting).sessions = s.sessions := by
  unfold Server.flushLine
  split
  · split
    · rw [sessions_modifyAt]
    · rfl
  · rfl

theorem sessions_writeToSerial (s : Server) (now : Time) (sid : Sid) (data : String) (ok : Bool) :
    (s.writeToSerial now sid data ok).1.sessions = s.sessions := by
  unfold Server.writeToSerial
  split
  · rfl
  · split
    · dsimp only
      rw [sessions_modifyAt]
    · rfl

/-- **What a handler's step writes.** -/
theorem advance_rows (P : Process) (now : Time) (s : Server) (env : RequestEnv) (ph : Phase) :
    RowWrite P now s (s.advance P now env ph).1.sessions (ph.write now) := by
  cases ph with
  | idle | cleaning | timing | putting | registering | beating | clearing => exact .nothing rfl
  | requested | gated | resuming | unresumed | counting | leased | unclaimed | opening
  | disconnecting =>
      simp only [Server.advance]
      split <;> exact .nothing rfl
  | found q r =>
      simp only [Server.advance]
      split
      · exact .nothing rfl
      · exact .nothing (sessions_removeAt s (.suspended r.id))
  | reattaching h =>
      simp only [Server.advance, Phase.write]
      split
      · exact .ends h.id "user_disconnect" rfl
      · exact .nothing rfl
  | resumed h => exact .drives h.id .active rfl
  | opened sid b => exact .drives b.sessionId .active rfl
  | suspending i => exact .drives i .suspended rfl
  | flushing sid ser => exact .nothing (sessions_flushLine s ser env.waiting)
  | looping q ports =>
      cases ports with
      | nil => exact .nothing rfl
      | cons p ps => exact .creates q.user.id q.device.id p.id rfl
  | created | recovering => exact .recovers rfl
  | recovered a =>
      simp only [Server.advance, Server.insertLease]
      split
      · split <;> exact .nothing rfl
      · exact .nothing rfl
  | lost a => exact .deletes a.row.id rfl
  | failing i => exact .ends i "error" rfl
  | hearing sid =>
      simp only [Server.advance]
      split
      · exact .nothing rfl
      · split <;> exact .nothing rfl
  | working todo =>
      cases todo with
      | nil => exact .nothing rfl
      | cons task todo =>
          cases task with
          | stop sid reason =>
              simp only [Server.advance]
              split <;> exact .nothing rfl
          | clean k =>
              simp only [Server.advance]
              split <;> exact .nothing rfl
          | force i =>
              simp only [Server.advance]
              split <;> exact .nothing rfl
          | forceSuspended i =>
              simp only [Server.advance]
              split
              · rename_i b hb
                exact .nothing (sessions_loseBridge s (.suspended i) b i)
              · exact .nothing rfl
  | ending i reason todo => exact .ends i reason rfl
  | sweeping => exact .sweeps rfl

/-- **What an iteration of a reading thread writes**: a heartbeat at most. -/
theorem readConn_rows (P : Process) (now : Time) (s : Server) (conn : Nat) (answer : ReadAnswer) :
    RowWrite P now s (s.readConn P now conn answer).sessions .beats := by
  have hread : ∀ (s : Server) (t : Reader) (q : Place) (b : Bridge),
      (s.readSerial P now t q b answer).1.sessions = s.sessions := by
    intro s t q b
    cases answer with
    | nothing => rfl
    | data bytes =>
        simp only [Server.readSerial]
        split
        · rfl
        · exact sessions_modifyAt s q (Bridge.receive now _ _) fun _ => rfl
    | serialError text => exact sessions_loseBridge s q b t.sessionId
    | exception => exact sessions_loseBridge s q b t.sessionId
  unfold Server.readConn
  split
  · rename_i t _
    unfold Server.serialReader
    split
    · exact .beats (.inl rfl)
    · rename_i q b _
      split
      · split
        · exact .beats (.inr ⟨b.sessionId, hread _ _ _ _⟩)
        · exact .beats (.inl (sessions_loseBridge s q b t.sessionId))
      · exact .beats (.inl (hread _ _ _ _))
  · exact .beats (.inl rfl)

/-- **What a thread writes.** -/
theorem perform_rows {s' : Server} {e : Event} {ph ph' : Phase}
    (h : s.perform P e.now ph e.act = some (s', ph')) :
    RowWrite P e.now s s'.sessions (e.write ph) := by
  obtain ⟨now, act⟩ := e
  cases act with
  | call k =>
      cases ph with
      | idle =>
          cases h
          exact .nothing rfl
      | _ => cases h
  | step env =>
      have hs' : (s.advance P now env ph).1 = s' := congrArg Prod.fst (Option.some.inj h)
      rw [← hs']
      exact advance_rows P now s env ph
  | read conn answer =>
      cases h
      exact readConn_rows P now s conn answer
  | input sid data ok =>
      cases h
      exact .nothing (sessions_writeToSerial s now sid data ok)

theorem program_rows {D : Deployment} {t : Thread} {e : Event} {c c' : Shared} {ph ph' : Phase}
    (h : program D t e c ph = some (c', ph')) :
    RowWrite (D.process t.worker) e.now (D.view c t.worker e.now) c'.sessions (e.write ph) := by
  obtain ⟨-, s', hs, rfl⟩ := program_some h
  exact perform_rows hs

/-! ## 5. One row -/

/-- **What a write makes of a row.** -/
inductive RowChange (P : Process) (now : Time) (s : Server) :
    Write → TerminalSession → TerminalSession → Prop where
  | same {wr : Write} {r : TerminalSession} : RowChange P now s wr r r
  | ended {r : TerminalSession} (reason : String) :
      RowChange P now s (.ends r.id) r (ended now reason r)
  | driven {r : TerminalSession} (status : SessionStatus) :
      RowChange P now s (.drives r.id) r { r with
        bridgeWorkerId := some P.workerId, bridgeHeartbeatAt := some now,
        bridgeStatus := some status }
  | beaten {r : TerminalSession} (hw : r.bridgeWorkerId = some P.workerId) :
      RowChange P now s .beats r { r with bridgeHeartbeatAt := some now }
  | recovered {r : TerminalSession} (hact : r.status = .active)
      (h : s.recoverSession now r = disconnected now "lease_expired" r) :
      RowChange P now s .recovers r (disconnected now "lease_expired" r)
  | swept {r : TerminalSession} (hact : r.status = .active) :
      RowChange P now s .sweeps r (disconnected now "server_restart" r)

/-- **What a write makes of the row under a key.** -/
inductive RowAt (P : Process) (now : Time) (s : Server) (rows : Table TerminalSession) (wr : Write)
    (i : Nat) : Prop where
  | new {u d p : Nat} (hwr : wr = .creates u) (hi : i = s.sessions.nextKey)
      (h : rows.get? i = some (s.newSession now u d p))
  | gone (hwr : wr = .deletes i) (h : rows.get? i = none)
  | absent (h0 : s.sessions.get? i = none) (h : rows.get? i = none)
  | row {r r' : TerminalSession} (h0 : s.sessions.get? i = some r) (h : rows.get? i = some r')
      (hc : RowChange P now s wr r r')

theorem RowAt.of_map {wr : Write} {i : Nat} {f : TerminalSession → TerminalSession}
    (h : rows.get? i = (s.sessions.get? i).map f)
    (hf : ∀ r, s.sessions.get? i = some r → RowChange P now s wr r (f r)) :
    RowAt P now s rows wr i := by
  cases hr : s.sessions.get? i with
  | none => exact .absent hr (by rw [h, hr]; rfl)
  | some r => exact .row hr (by rw [h, hr]; rfl) (hf r hr)

/-- An UPDATE of the row of one session. -/
theorem RowAt.of_update {wr : Write} {i j : Nat} {f : TerminalSession → TerminalSession}
    {hf : ∀ r, (f r).id = r.id} (h : rows = (s.updateSession j f hf).sessions)
    (hc : ∀ r, r.id = j → RowChange P now s wr r (f r)) : RowAt P now s rows wr i := by
  have hget : rows.get? i = if i = j then (s.sessions.get? i).map f else s.sessions.get? i := by
    rw [h, Server.session?_updateSession]
  by_cases hi : i = j
  · rw [if_pos hi] at hget
    exact .of_map hget fun r hr => hc r ((Table.get?_eq_some.mp hr).2.trans hi)
  · rw [if_neg hi] at hget
    exact .of_map (f := id) (by rw [hget, Option.map_id_fun, id]) fun _ _ => .same

/-- A recovery ends an active row, or leaves the row alone. -/
theorem Server.recoverSession_cases (s : Server) (now : Time) (r : TerminalSession) :
    r.status = .active ∧ s.recoverSession now r = disconnected now "lease_expired" r ∨
      s.recoverSession now r = r := by
  unfold Server.recoverSession
  split
  · rename_i hc
    exact .inl ⟨hc.1, rfl⟩
  · exact .inr rfl

/-- **A write, row by row.** -/
theorem RowWrite.at {wr : Write} (h : RowWrite P now s rows wr) (i : Nat) :
    RowAt P now s rows wr i := by
  have same : ∀ {wr : Write}, rows = s.sessions → RowAt P now s rows wr i := fun h =>
    .of_map (f := id) (by rw [h, Option.map_id_fun, id]) fun _ _ => .same
  cases h with
  | nothing h => exact same h
  | ends j reason h =>
      have h' : rows = (s.updateSession j (ended now reason) fun _ => rfl).sessions := h
      refine .of_update h' fun r hr => ?_
      rw [← hr]
      exact .ended reason
  | drives j status h =>
      refine .of_update h fun r hr => ?_
      rw [← hr]
      exact .driven status
  | beats h =>
      obtain h | ⟨j, h⟩ := h
      · exact same h
      · refine .of_update h fun r _ => ?_
        split
        · rename_i hw
          exact .beaten hw
        · exact .same
  | creates u d p h =>
      have hnone : s.sessions.get? (key (s.newSession now u d p)) = none := Table.get?_nextKey
      have hget : rows.get? i = if i = s.sessions.nextKey then some (s.newSession now u d p)
          else s.sessions.get? i := by
        rw [h]
        exact Table.get?_insert hnone i
      by_cases hi : i = s.sessions.nextKey
      · rw [if_pos hi] at hget
        exact .new rfl hi hget
      · rw [if_neg hi] at hget
        exact .of_map (f := id) (by rw [hget, Option.map_id_fun, id]) fun _ _ => .same
  | deletes j h =>
      have hget : rows.get? i = (s.sessions.get? i).filter fun r => r.id != j := by
        rw [h]
        exact Table.get?_filterRows
      cases hr : s.sessions.get? i with
      | none => exact .absent hr (by rw [hget, hr]; rfl)
      | some r =>
          have hid : r.id = i := (Table.get?_eq_some.mp hr).2
          rw [hr, Option.filter_some] at hget
          split at hget
          · exact .row hr hget .same
          · rename_i hj
            have hij : i = j := by simpa [hid] using hj
            exact .gone (by rw [hij]) hget
  | recovers h =>
      refine .of_map (f := s.recoverSession now) (by rw [h, Server.session?_recover]) fun r _ => ?_
      rcases s.recoverSession_cases now r with ⟨hact, heq⟩ | heq
      · rw [heq]
        exact .recovered hact heq
      · rw [heq]
        exact .same
  | sweeps h =>
      refine .of_map (f := sweptSession now) (by rw [h, Server.session?_sweepSessions])
        fun r _ => ?_
      unfold sweptSession
      split
      · rename_i hact
        exact .swept hact
      · exact .same

/-- A row that is active was active before, for the same user. -/
def Settled (old rows : Table TerminalSession) : Prop :=
  ∀ i r', rows.get? i = some r' → r'.status = .active →
    ∃ r, old.get? i = some r ∧ r.status = .active ∧ r.userId = r'.userId

/-- **Only `create_session` makes a row active.** -/
theorem RowWrite.settled {wr : Write} (h : RowWrite P now s rows wr) (hwr : ∀ u, wr ≠ .creates u) :
    Settled s.sessions rows := by
  intro i r' hr' hact
  cases h.at i with
  | new hw => exact absurd hw (hwr _)
  | gone _ hget | absent _ hget =>
      rw [hget] at hr'
      cases hr'
  | row h0 hget hc =>
      rw [hget] at hr'
      cases hr'
      cases hc with
      | same => exact ⟨r', h0, hact, rfl⟩
      | driven | beaten => exact ⟨_, h0, hact, rfl⟩
      | ended | recovered | swept => cases hact

end Rows

end RetroBridge.Terminal
