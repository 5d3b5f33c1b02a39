/-
  File:      RetroBridge/Terminal/Page.lean
  Subject:   THE TERMINAL PAGE (static/js/terminal.js) AND THE PROCESS IT TALKS TO: messages both
             ways, connections that break and come again, any number of pages.

  * `Page` -- the variables of the script and what it shows; `onMessage`, `press` -- its handlers;
  * `Net` -- the process, what its threads have still to send, the pages, and the Socket.IO
    connections with what is under way on them;
  * `NetAct`, `exec`, `NetStep` -- one step of a page, of a connection, or of the process;
  * `Agrees` -- what a page will know once it has read what is unsent and under way, against what
    the process holds for its socket;
  * `agreement_run` -- A PAGE AND THE PROCESS AGREE whenever nothing is under way between them, if
    what tells a socket of its seat is sent in the order of the operations.

  An operation changes the process first and sends afterwards, outside the lock: its messages leave
  one by one, in its own order, and those of different operations in any order. A connection keeps
  the order in which they leave. What a page sends is handled in any order, since each event has a
  thread of its own. A page's first message is on its way when it learns that it is connected; what
  it sends without a connection waits for the next one.
-/
import RetroBridge.Terminal.Told

namespace RetroBridge.Terminal

open Relational Ordered Transition

/-! ## 1. The page -/

/-- What has been written to the terminal. -/
inductive Written where
  | output (data : List Heard)
  | line (text : String)

/-- **The page**: the script's variables, its status bar, its buttons, and the terminal. -/
structure Page where
  connected : Bool
  sessionId : Option Nat
  status : Bool × String
  port : String
  baud : String
  traffic : Option (Nat × Nat)
  connectDisabled : Bool
  disconnectDisabled : Bool
  /-- `durationTimer` runs. -/
  timing : Bool
  screen : List Written
  session : connected = true → sessionId.isSome = true
  button : disconnectDisabled = !connected
  timer : timing = connected

/-- `data.reason || 'unknown'` and the like. -/
def orText (text default : String) : String := if text = "" then default else text

/-- A number, or `null`, in a text. -/
def numberText : Option Int → String
  | none => "null"
  | some n => toString n

namespace Page

/-- The page as it is loaded. -/
def loaded : Page where
  connected := false
  sessionId := none
  status := (false, "Disconnected")
  port := "—"
  baud := "—"
  traffic := none
  connectDisabled := false
  disconnectDisabled := true
  timing := false
  screen := []
  session := nofun
  button := rfl
  timer := rfl

variable (p : Page)

/-- `socket.on('connect')`. -/
def onConnect : Page := { p with status := (true, "Connecting..."), connectDisabled := true }

/-- `socket.on('disconnect')`. -/
def onDisconnect : Page :=
  { p with
    connected := false
    status := (false, "Disconnected")
    connectDisabled := false
    disconnectDisabled := true
    timing := false
    session := nofun
    button := rfl
    timer := rfl }

/-- The other `socket.on` handlers. -/
def onMessage : Out → Page
  | .sessionGranted _ i deviceName portLabel baud =>
    { p with
      connected := true
      sessionId := some i
      status := (true, "Connected")
      port := orText portLabel "—"
      baud := if baud = some 0 then "—" else (baud.map toString).getD "—"
      connectDisabled := true
      disconnectDisabled := false
      timing := true
      screen := p.screen ++ [.line ("=== Session established on " ++ deviceName ++ " ==="),
        .line ("Port: " ++ portLabel ++ "  Baud: " ++ numberText baud), .line ""]
      session := fun _ => rfl
      button := rfl
      timer := rfl }
  | .sessionDenied _ reason =>
    { p with status := (false, "Denied: " ++ reason), connectDisabled := false }
  | .terminalOutput _ data =>
    if data.isEmpty then p else { p with screen := p.screen ++ [.output data] }
  | .sessionClosed _ reason =>
    { p with
      connected := false
      sessionId := none
      status := (false, "Closed: " ++ orText reason "unknown")
      connectDisabled := false
      disconnectDisabled := true
      timing := false
      screen := p.screen ++
        [.line "", .line ("=== Session closed: " ++ orText reason "unknown" ++ " ===")]
      session := nofun
      button := rfl
      timer := rfl }
  | .heartbeatAck _ (some bytes) => { p with traffic := some bytes }
  | .heartbeatAck _ none | .written .. => p

end Page

/-- What a page sends. -/
inductive ClientMessage where
  | requestSession (deviceId : Nat)
  | terminalInput (data : String)
  | terminalResize (cols rows : Nat)
  | heartbeat
  | clientDisconnect
  deriving DecidableEq

/-- What happens on a page: a key, a paste, a resize, the timer, and the two buttons. -/
inductive Press where
  | data (text : String)
  | paste (text : String)
  | resize (cols rows : Nat)
  | tick
  | connect
  | disconnect

/-- **The page's own events**, and what it sends; a disabled button is not clicked. -/
def Page.press (p : Page) (deviceId : Nat) : Press → Page × List ClientMessage
  | .data text => (p, if p.connected then [.terminalInput text] else [])
  | .paste text => (p, if p.connected && text != "" then [.terminalInput text] else [])
  | .resize cols rows => (p, if p.connected then [.terminalResize cols rows] else [])
  | .tick => (p, if p.connected then [.heartbeat] else [])
  | .connect =>
    if p.connectDisabled then (p, [])
    else ({ p with status := (true, "Connecting..."), connectDisabled := true },
      [.requestSession deviceId])
  | .disconnect =>
    if p.disconnectDisabled || !p.connected then (p, [])
    else
      ({ p with
        connected := false
        sessionId := none
        status := (false, "Disconnected")
        connectDisabled := false
        disconnectDisabled := true
        timing := false
        session := nofun
        button := rfl
        timer := rfl }, [.clientDisconnect])

/-! ## 2. The net -/

/-- **A Socket.IO connection**: what the page has sent and the process has not handled, and what the
    process has sent and the page has not read. -/
structure Line where
  /-- It has been made. -/
  made : Bool
  /-- The process has not noticed its end. -/
  isOpen : Bool
  up : List ClientMessage
  down : List Out

/-- A page, its connection, and what it has sent without one. -/
structure Tab where
  page : Page
  deviceId : Nat
  socket : Option Sid
  buffer : List ClientMessage

structure Net where
  server : Server
  /-- What each operation has still to send, the operations in their order. -/
  unsent : List (List Out)
  tabs : Nat → Tab
  lines : Sid → Line

/-- The socket that an event goes to. -/
def Out.socket? : Out → Option Sid
  | .sessionDenied sid _ | .sessionGranted sid _ _ _ _ | .sessionClosed sid _
  | .terminalOutput sid _ | .heartbeatAck sid _ => some sid
  | .written .. => none

/-- The socket whose seat an event tells of. -/
def Out.seat? : Out → Option Sid
  | .sessionGranted sid _ _ _ _ | .sessionClosed sid _ => some sid
  | _ => none

/-- The operation that handles a message; a resize is passed over. -/
def ClientMessage.op (sid : Sid) (env : RequestEnv) (ok : Bool) : ClientMessage → Option Op
  | .requestSession deviceId => some (.request sid deviceId env)
  | .terminalInput data => some (.input sid data ok)
  | .terminalResize _ _ => none
  | .heartbeat => some (.heartbeat sid)
  | .clientDisconnect => some (.clientDisconnect sid)

/-- The operations that a message of a page asks for. -/
def Op.asked : Op → Bool
  | .request .. | .input .. | .heartbeat _ | .clientDisconnect _ => true
  | _ => false

inductive NetAct where
  /-- A page without a connection gets one. -/
  | connect (t : Nat) (sid : Sid)
  /-- A page notices that its connection is gone. -/
  | lose (t : Nat)
  | press (t : Nat) (e : Press)
  /-- A page reads the next message. -/
  | receive (t : Nat)
  /-- The process handles one of the messages of a socket. -/
  | handle (now : Time) (sid : Sid) (k : Nat) (env : RequestEnv) (ok : Bool)
  /-- A timer, a reading thread, the admin, or the end of a connection. -/
  | operate (now : Time) (op : Op)
  /-- An operation sends its next message. -/
  | send (k : Nat)

namespace Net

variable (w : Net)

def setTab (t : Nat) (tab : Tab) : Net :=
  { w with tabs := fun u => if u = t then tab else w.tabs u }

def setLine (sid : Sid) (line : Line) : Net :=
  { w with lines := fun sid' => if sid' = sid then line else w.lines sid' }

theorem tabs_setTab (t : Nat) (tab : Tab) (u : Nat) :
    (w.setTab t tab).tabs u = if u = t then tab else w.tabs u := rfl

theorem lines_setLine (sid : Sid) (line : Line) (sid' : Sid) :
    (w.setLine sid line).lines sid' = if sid' = sid then line else w.lines sid' := rfl

end Net

/-- A message that is sent to a connection; where it is closed, that is lost. -/
def Line.deliver (o : Out) (line : Line) : Line :=
  if line.isOpen then { line with down := line.down ++ [o] } else line

/-- **An operation of the process**; what it has to send is still unsent. -/
def Net.serve (P : Process) (now : Time) (op : Op) (w : Net) : Net :=
  let done := Terminal.exec P now (w.server.at now) op
  { w with
    server := done.1
    unsent := w.unsent ++ [done.2.filter fun o => o.socket?.isSome] }

/-- **The next message of operation `k`** is sent. -/
def Net.emit (k : Nat) (o : Out) (rest : List Out) (w : Net) : Net :=
  { w with
    unsent := w.unsent.set k rest
    lines := fun sid => if o.socket? = some sid then (w.lines sid).deliver o else w.lines sid }

/-- **One step.** -/
def Net.exec (P : Process) (w : Net) : NetAct → Option Net
  | .connect t sid =>
    let tab := w.tabs t
    if tab.socket.isSome || (w.lines sid).made then none
    else
      some ((w.setTab t { tab with page := tab.page.onConnect, socket := some sid, buffer := [] })
        |>.setLine sid ⟨true, true, tab.buffer ++ [.requestSession tab.deviceId], []⟩)
  | .lose t =>
    let tab := w.tabs t
    if tab.socket.isNone then none
    else some (w.setTab t { tab with page := tab.page.onDisconnect, socket := none })
  | .press t e =>
    let tab := w.tabs t
    let pressed := tab.page.press tab.deviceId e
    match tab.socket with
    | none =>
      some (w.setTab t { tab with page := pressed.1, buffer := tab.buffer ++ pressed.2 })
    | some sid =>
      let line := w.lines sid
      some ((w.setTab t { tab with page := pressed.1 }).setLine sid
        { line with up := if line.isOpen then line.up ++ pressed.2 else line.up })
  | .receive t =>
    let tab := w.tabs t
    tab.socket.bind fun sid =>
      let line := w.lines sid
      match line.down with
      | [] => none
      | o :: down =>
        some ((w.setTab t { tab with page := tab.page.onMessage o }).setLine sid
          { line with down := down })
  | .handle now sid k env ok =>
    let line := w.lines sid
    if !line.made || decide (now < w.server.clock) then none
    else
      line.up[k]?.map fun m =>
        let taken := w.setLine sid { line with up := line.up.eraseIdx k }
        match m.op sid env ok with
        | none => taken
        | some op => taken.serve P now op
  | .operate now op =>
    if op.asked || decide (now < w.server.clock) then none
    else
      match op with
      | .disconnect sid =>
        if (w.lines sid).isOpen then
          -- what it has sent before may still be handled
          some ((w.serve P now op).setLine sid ⟨true, false, (w.lines sid).up, []⟩)
        else none
      | _ => some (w.serve P now op)
  | .send k =>
    match w.unsent[k]? with
    | some (o :: rest) => some (w.emit k o rest)
    | _ => none

/-- **A step of the net.** -/
def NetStep (P : Process) (w : Net) (a : NetAct) (w' : Net) : Prop := w.exec P a = some w'

/-- Pages that are loaded, each for its device, at a process that has just started. -/
def Net.start (s : Server) (deviceOf : Nat → Nat) : Net where
  server := s
  unsent := []
  tabs t := ⟨.loaded, deviceOf t, none, []⟩
  lines _ := ⟨false, false, [], []⟩

/-! ## 3. What a page knows -/

/-- The session a page takes itself to have. -/
def Page.view (p : Page) : Option Nat := if p.connected then p.sessionId else none

section View

variable {p : Page} {sid : Sid}

theorem Page.view_none (h : p.connected = false) : p.view = none := by
  rw [Page.view, h]
  rfl

/-- The page makes of a message what a socket is told by it. -/
theorem view_onMessage {o : Out} (h : o.socket? = some sid) :
    (p.onMessage o).view = o.tells sid p.view := by
  cases o with
  | sessionGranted sid' i deviceName portLabel baud =>
      cases h
      exact (if_pos rfl : (if sid = sid then some i else p.view) = some i).symm
  | sessionClosed sid' reason =>
      cases h
      exact (if_pos rfl : (if sid = sid then none else p.view) = none).symm
  | sessionDenied sid' reason => rfl
  | terminalOutput sid' data =>
      simp only [Page.onMessage]
      split
      · rfl
      · rfl
  | heartbeatAck sid' bytes =>
      cases bytes with
      | none => rfl
      | some b => rfl
  | written => cases h

theorem seat_socket {o : Out} (h : o.seat? = some sid) : o.socket? = some sid := by
  cases o with
  | sessionGranted sid' i deviceName portLabel baud => exact h
  | sessionClosed sid' reason => exact h
  | _ => cases h

/-- What tells of another seat, or of none, tells a socket nothing. -/
theorem tells_seat {o : Out} (h : o.seat? ≠ some sid) (known : Option Nat) :
    o.tells sid known = known := by
  cases o with
  | sessionGranted sid' i deviceName portLabel baud => exact if_neg fun e => h (congrArg some e)
  | sessionClosed sid' reason => exact if_neg fun e => h (congrArg some e)
  | _ => rfl

/-- What is not for a socket tells it nothing. -/
theorem tells_other {o : Out} (h : o.socket? ≠ some sid) (known : Option Nat) :
    o.tells sid known = known := tells_seat (mt seat_socket h) known

theorem told_seat {outs : List Out} (h : ∀ o ∈ outs, o.seat? ≠ some sid) (known : Option Nat) :
    told sid known outs = known := by
  induction outs generalizing known with
  | nil => rfl
  | cons o outs ih =>
      show told sid (o.tells sid known) outs = known
      rw [tells_seat (h o List.mem_cons_self)]
      exact ih (fun o' ho' => h o' (List.mem_cons_of_mem o ho')) known

/-- What goes to no socket tells nobody. -/
theorem told_filter (known : Option Nat) (outs : List Out) :
    told sid known (outs.filter fun o => o.socket?.isSome) = told sid known outs := by
  induction outs generalizing known with
  | nil => rfl
  | cons o outs ih =>
      cases hsocket : o.socket? with
      | some sid' =>
          rw [List.filter_cons_of_pos (by rw [hsocket]; rfl)]
          exact ih _
      | none =>
          rw [List.filter_cons_of_neg (by rw [hsocket]; exact Bool.false_ne_true)]
          show _ = told sid (o.tells sid known) outs
          rw [tells_other (by rw [hsocket]; exact nofun)]
          exact ih known

end View

/-- **What a page will know** once it has read what is coming: that it has no session, or the one
    the process holds; and the latter unless a disconnect of its own is still to be handled. -/
def Knows (sid : Sid) (p : Page) (coming : List Out) (seat : Option Nat) (pending : Prop) : Prop :=
  (told sid p.view coming = none ∨ told sid p.view coming = seat) ∧
    (¬ pending → told sid p.view coming = seat)

/-- What is under way to a socket, and what may still be sent to it. -/
def Net.coming (w : Net) (sid : Sid) : List Out := (w.lines sid).down ++ w.unsent.flatten

/-- **The pages and the process agree**, `pending` where a disconnect may be still to be handled. -/
structure Agrees (pending : Sid → Prop) (w : Net) : Prop where
  tidy : w.server.Tidy
  seated : Seated w.server
  unmade : ∀ sid, (w.lines sid).made = false → w.server.seat sid = none
  /-- What is unsent tells a socket without a connection of no session. -/
  untold : ∀ sid, (w.lines sid).made = false → told sid none w.unsent.flatten = none
  opened : ∀ sid, (w.lines sid).isOpen = true → (w.lines sid).made = true
  made : ∀ t sid, (w.tabs t).socket = some sid → (w.lines sid).made = true
  owner : ∀ t t' sid, (w.tabs t).socket = some sid → (w.tabs t').socket = some sid → t = t'
  idle : ∀ t, (w.tabs t).socket = none → (w.tabs t).page.connected = false
  buffer : ∀ t, .clientDisconnect ∉ (w.tabs t).buffer
  down : ∀ sid, ∀ o ∈ (w.lines sid).down, o.socket? = some sid
  knows : ∀ t sid, (w.tabs t).socket = some sid → (w.lines sid).isOpen = true →
    Knows sid (w.tabs t).page (w.coming sid) (w.server.seat sid) (pending sid)

/-- **Operation `k` sends in its turn**: what its next message tells of a seat, no earlier operation
    has still to tell. -/
def Net.inTurn (w : Net) (k : Nat) : Bool :=
  match w.unsent[k]? with
  | some (o :: _) => o.seat?.isNone || (w.unsent.take k).flatten.all fun o' => o'.seat? != o.seat?
  | _ => true

theorem inTurn_spec {w : Net} {k : Nat} {o : Out} {rest : List Out} {sid : Sid}
    (h : w.inTurn k = true) (hk : w.unsent[k]? = some (o :: rest)) (ho : o.seat? = some sid) :
    ∀ o' ∈ (w.unsent.take k).flatten, o'.seat? ≠ some sid := by
  unfold Net.inTurn at h
  rw [hk] at h
  dsimp only at h
  rw [ho, Option.isNone_some, Bool.false_or] at h
  exact fun o' ho' => bne_iff_ne.mp (List.all_eq_true.mp h o' ho')

/-- A disconnect of the page is still to be handled. -/
def Net.disconnecting (w : Net) (sid : Sid) : Prop := .clientDisconnect ∈ (w.lines sid).up

/-! ### Operations of the process -/

section Serve

variable {P : Process} {now : Time} {w w' : Net} {op : Op} {sid : Sid} {pending : Sid → Prop}

theorem Agrees.mono {pending' : Sid → Prop} (h : Agrees pending w)
    (hle : ∀ sid, pending sid → pending' sid) : Agrees pending' w :=
  { h with knows := fun t sid ht ho => ⟨(h.knows t sid ht ho).1, fun hno =>
      (h.knows t sid ht ho).2 fun hp => hno (hle sid hp)⟩ }

/-- **Another line for a socket**: it is made, it carries what is for the socket, and the page that
    has it knows. -/
theorem Agrees.setLine {line : Line} {pending' : Sid → Prop} (h : Agrees pending w)
    (hmade : line.made = true) (hdown : ∀ o ∈ line.down, o.socket? = some sid)
    (hknows : ∀ t, (w.tabs t).socket = some sid → line.isOpen = true →
      Knows sid (w.tabs t).page (line.down ++ w.unsent.flatten) (w.server.seat sid) (pending' sid))
    (hpending : ∀ sid', sid' ≠ sid → pending sid' → pending' sid') :
    Agrees pending' (w.setLine sid line) where
  tidy := h.tidy
  seated := h.seated
  unmade sid' hs := by
    rw [Net.lines_setLine] at hs
    split_ifs at hs with hne
    · rw [hmade] at hs
      cases hs
    · exact h.unmade sid' hs
  untold sid' hs := by
    rw [Net.lines_setLine] at hs
    split_ifs at hs with hne
    · rw [hmade] at hs
      cases hs
    · exact h.untold sid' hs
  opened sid' hs := by
    rw [Net.lines_setLine] at hs ⊢
    split_ifs at hs ⊢ with hne
    · exact hmade
    · exact h.opened sid' hs
  made t sid' ht := by
    rw [Net.lines_setLine]
    split_ifs with hne
    · exact hmade
    · exact h.made t sid' ht
  owner := h.owner
  idle := h.idle
  buffer := h.buffer
  down sid' o ho := by
    rw [Net.lines_setLine] at ho
    split_ifs at ho with hne
    · rw [hne]
      exact hdown o ho
    · exact h.down sid' o ho
  knows t sid' ht hs := by
    unfold Net.coming
    rw [Net.lines_setLine] at hs ⊢
    split_ifs at hs ⊢ with hne
    · subst hne
      exact hknows t ht hs
    · obtain ⟨hsome, hall⟩ := h.knows t sid' ht hs
      exact ⟨hsome, fun hno => hall fun hp => hno (hpending sid' hne hp)⟩

theorem serve_step (hnow : w.server.clock ≤ now) :
    Step P w.server ⟨now, op, (exec P now (w.server.at now) op).2⟩ (w.serve P now op).server :=
  ⟨hnow, rfl⟩

/-- What the unsent messages will have told after an operation. -/
theorem told_unsent (known : Option Nat) :
    told sid known (w.serve P now op).unsent.flatten =
      told sid (told sid known w.unsent.flatten) (exec P now (w.server.at now) op).2 := by
  show told sid known (w.unsent ++ [_]).flatten = _
  rw [List.flatten_append, List.flatten_singleton, told_append, told_filter]

/-- What a page will know after an operation. -/
theorem told_serve (known : Option Nat) : told sid known ((w.serve P now op).coming sid) =
    told sid (told sid known (w.coming sid)) (exec P now (w.server.at now) op).2 := by
  unfold Net.coming
  rw [told_append, told_unsent, told_append]
  rfl

/-- What holds after an operation, but for what its messages tell. -/
theorem Agrees.serveBut (h : Agrees pending w) (hnow : w.server.clock ≤ now)
    (hmade : ∀ sid deviceId env, op = .request sid deviceId env → (w.lines sid).made = true)
    {pending' : Sid → Prop}
    (huntold : ∀ sid, (w.lines sid).made = false →
      told sid none (exec P now (w.server.at now) op).2 = none)
    (hknows : ∀ t sid, (w.tabs t).socket = some sid → (w.lines sid).isOpen = true →
      Knows sid (w.tabs t).page ((w.serve P now op).coming sid) ((w.serve P now op).server.seat sid)
        (pending' sid)) :
    Agrees pending' (w.serve P now op) where
  tidy := ((serve_step hnow).moves h.tidy).invariant (tidy_at h.tidy now) fun ht m => m.tidy ht
  seated := (serve_step hnow).seated h.tidy h.seated
  unmade sid hs := by
    refine exec_unseated (tidy_at h.tidy now) op (h.unmade sid hs) fun deviceId env hreq => ?_
    have hmade := hmade sid deviceId env hreq
    rw [show (w.lines sid).made = false from hs] at hmade
    cases hmade
  untold sid hs := by
    rw [told_unsent, h.untold sid hs]
    exact huntold sid hs
  opened := h.opened
  made := h.made
  owner := h.owner
  idle := h.idle
  buffer := h.buffer
  down := h.down
  knows := hknows

/-- **An operation that tells.** -/
theorem Agrees.serve (h : Agrees pending w) (hnow : w.server.clock ≤ now)
    (hloud : (w.server.at now).leavesSilently P now op = false)
    (hop : ∀ sid, op ≠ .disconnect sid)
    (hmade : ∀ sid deviceId env, op = .request sid deviceId env → (w.lines sid).made = true) :
    Agrees pending (w.serve P now op) := by
  have htells := fun sid =>
    exec_tells (tidy_at h.tidy now) (seated_at h.seated now) op hloud sid (hop sid)
  refine h.serveBut hnow hmade (fun sid hs => ?_) fun t sid ht ho => ?_
  · have hbefore : (w.server.at now).seat sid = none := h.unmade sid hs
    have hafter : (exec P now (w.server.at now) op).1.seat sid = none :=
      exec_unseated (tidy_at h.tidy now) op hbefore fun deviceId env hreq => by
        have hmade := hmade sid deviceId env hreq
        rw [hs] at hmade
        cases hmade
    have htold := htells sid
    rw [hbefore, hafter] at htold
    exact htold
  · obtain ⟨hsome, hall⟩ := h.knows t sid ht ho
    unfold Knows
    rw [told_serve]
    refine ⟨?_, fun hno => (congrArg (told sid · _) (hall hno)).trans (htells sid)⟩
    rcases hsome with hnone | hseat
    · rw [hnone]
      rcases told_cases sid (exec P now (w.server.at now) op).2 with hsame | ⟨k, hk⟩
      · exact .inl (hsame none)
      · exact .inr ((hk none).trans ((hk _).symm.trans (htells sid)))
    · rw [hseat]
      exact .inr (htells sid)

/-- **A disconnect that is handled**: whatever the page knew, it is told. -/
theorem Agrees.serveDisconnect (h : Agrees pending w) (hnow : w.server.clock ≤ now) (sid : Sid) :
    Agrees (fun sid' => pending sid' ∧ sid' ≠ sid) (w.serve P now (.clientDisconnect sid)) := by
  have hserved : Agrees pending (w.serve P now (.clientDisconnect sid)) :=
    h.serve hnow rfl (fun _ he => by cases he) fun _ _ _ he => by cases he
  refine { hserved with knows := fun t sid' ht ho => ?_ }
  obtain ⟨hsome, hall⟩ := hserved.knows t sid' ht ho
  refine ⟨hsome, fun hno => ?_⟩
  by_cases hpending : pending sid'
  · have hsid : sid' = sid := by
      by_contra hne
      exact hno ⟨hpending, hne⟩
    subst hsid
    -- the seat is free now: what is known of it is that there is none
    have hfree : (w.serve P now (.clientDisconnect sid')).server.seat sid' = none := by
      show ((w.server.at now).stopBridge now sid' "user_disconnect").1.seat sid' = none
      unfold Server.stopBridge
      split
      · rename_i hnone
        exact congrArg (Option.map Bridge.sessionId) hnone
      · show ((w.server.at now).removeAt (.active sid')).seat sid' = none
        unfold Server.seat
        rw [Server.bridge?_removeAt, if_pos rfl]
        rfl
    rcases hsome with hnone | hseat
    · exact hnone.trans hfree.symm
    · exact hseat
  · exact hall hpending

/-- **The end of a connection**: what is under way on it is lost. -/
theorem Agrees.serveEnd {pending' : Sid → Prop} (h : Agrees pending w)
    (hnow : w.server.clock ≤ now) (sid : Sid) (up : List ClientMessage)
    (hpending : ∀ sid', sid' ≠ sid → pending sid' → pending' sid') :
    Agrees pending' ((w.serve P now (.disconnect sid)).setLine sid ⟨true, false, up, []⟩) := by
  have hclosed : Agrees pending' (w.setLine sid ⟨true, false, up, []⟩) :=
    h.setLine rfl (fun _ ho => absurd ho List.not_mem_nil) (fun _ _ ho => by cases ho) hpending
  show Agrees pending' ((w.setLine sid ⟨true, false, up, []⟩).serve P now (.disconnect sid))
  refine hclosed.serveBut hnow (fun _ _ _ he => by cases he) (fun _ _ => rfl)
    fun t sid' ht ho => ?_
  have hne : sid' ≠ sid := by
    rintro rfl
    rw [Net.lines_setLine, if_pos rfl] at ho
    cases ho
  have hseat : ((w.setLine sid ⟨true, false, up, []⟩).serve P now
      (.disconnect sid)).server.seat sid' = w.server.seat sid' :=
    (exec_tells (tidy_at h.tidy now) (seated_at h.seated now) (.disconnect sid) rfl sid' fun e =>
      hne (Op.disconnect.inj e).symm).symm
  obtain ⟨hsome, hall⟩ := hclosed.knows t sid' ht ho
  unfold Knows
  rw [told_serve, hseat]
  exact ⟨hsome, hall⟩

/-! ### What is sent -/

/-- The next message of operation `k` is first told if no earlier one tells of the same seat. -/
theorem told_emit {unsent : List (List Out)} {k : Nat} {o : Out} {rest : List Out}
    (hk : unsent[k]? = some (o :: rest))
    (hturn : o.seat? = some sid → ∀ o' ∈ (unsent.take k).flatten, o'.seat? ≠ some sid)
    (known : Option Nat) :
    told sid (o.tells sid known) (unsent.set k rest).flatten = told sid known unsent.flatten := by
  obtain ⟨hlt, hget⟩ := List.getElem?_eq_some_iff.mp hk
  have hsplit : unsent = unsent.take k ++ (o :: rest) :: unsent.drop (k + 1) := by
    rw [← hget, List.getElem_cons_drop, List.take_append_drop]
  have hset : unsent.set k rest = unsent.take k ++ rest :: unsent.drop (k + 1) := by
    rw [List.set_eq_take_append_cons_drop, if_pos hlt]
  have hswap : told sid (o.tells sid known) (unsent.take k).flatten =
      o.tells sid (told sid known (unsent.take k).flatten) := by
    by_cases ho : o.seat? = some sid
    · rw [told_seat (hturn ho), told_seat (hturn ho)]
    · rw [tells_seat ho, tells_seat ho]
  rw [hset, List.flatten_append, List.flatten_cons, told_append, told_append, hswap]
  conv_rhs => rw [hsplit, List.flatten_append, List.flatten_cons, told_append, told_append]
  rfl

/-- **A message that is sent** changes nothing of what the pages will know. -/
theorem Agrees.emit {k : Nat} {o : Out} {rest : List Out} (h : Agrees pending w)
    (hk : w.unsent[k]? = some (o :: rest)) (hturn : w.inTurn k = true) :
    Agrees pending (w.emit k o rest) := by
  have htold : ∀ sid known, told sid (o.tells sid known) (w.emit k o rest).unsent.flatten =
      told sid known w.unsent.flatten := fun sid known => told_emit hk (inTurn_spec hturn hk) known
  have hline : ∀ sid, ((w.emit k o rest).lines sid).made = (w.lines sid).made ∧
      ((w.emit k o rest).lines sid).isOpen = (w.lines sid).isOpen := by
    intro sid
    show (if o.socket? = some sid then (w.lines sid).deliver o else w.lines sid).made = _ ∧
      (if o.socket? = some sid then (w.lines sid).deliver o else w.lines sid).isOpen = _
    unfold Line.deliver
    split_ifs
    · exact ⟨rfl, rfl⟩
    · exact ⟨rfl, rfl⟩
    · exact ⟨rfl, rfl⟩
  refine ⟨h.tidy, h.seated, fun sid hs => h.unmade sid ((hline sid).1 ▸ hs), fun sid hs => ?_,
    fun sid hs => ?_, fun t sid ht => ?_, h.owner, h.idle, h.buffer, fun sid o' ho' => ?_,
    fun t sid ht hs => ?_⟩
  · have hbefore := (htold sid none).trans (h.untold sid ((hline sid).1 ▸ hs))
    rcases told_cases sid (w.emit k o rest).unsent.flatten with hsame | ⟨known, hknown⟩
    · exact hsame none
    · exact (hknown none).trans ((hknown _).symm.trans hbefore)
  · rw [(hline sid).1]
    exact h.opened sid ((hline sid).2 ▸ hs)
  · rw [(hline sid).1]
    exact h.made t sid ht
  · have hdown : o' ∈ (if o.socket? = some sid then (w.lines sid).deliver o
        else w.lines sid).down := ho'
    unfold Line.deliver at hdown
    split_ifs at hdown with hsid hopen
    · rcases List.mem_append.mp hdown with hold | hnew
      · exact h.down sid o' hold
      · rw [List.mem_singleton.mp hnew]
        exact hsid
    · exact h.down sid o' hdown
    · exact h.down sid o' hdown
  · rw [(hline sid).2] at hs
    have hcoming : told sid (w.tabs t).page.view ((w.emit k o rest).coming sid) =
        told sid (w.tabs t).page.view (w.coming sid) := by
      have hdown : told sid (w.tabs t).page.view ((w.emit k o rest).lines sid).down =
          o.tells sid (told sid (w.tabs t).page.view (w.lines sid).down) := by
        show told sid _ (if o.socket? = some sid then (w.lines sid).deliver o
          else w.lines sid).down = _
        split_ifs with hsid
        · rw [Line.deliver, if_pos hs, told_append]
          rfl
        · rw [tells_other hsid]
      unfold Net.coming
      rw [told_append, told_append, hdown, htold]
    have hknows := h.knows t sid ht hs
    unfold Knows at hknows
    rw [← hcoming] at hknows
    exact hknows

end Serve

/-! ### Pages -/

section Tabs

variable {w : Net} {t : Nat} {sid : Sid} {tab : Tab} {pending : Sid → Prop}

/-- **A page without a connection.** -/
theorem Agrees.detach (h : Agrees pending w) (hsocket : tab.socket = none)
    (hidle : tab.page.connected = false) (hbuffer : .clientDisconnect ∉ tab.buffer) :
    Agrees pending (w.setTab t tab) := by
  have hback : ∀ u sid, ((w.setTab t tab).tabs u).socket = some sid →
      u ≠ t ∧ (w.tabs u).socket = some sid := by
    intro u sid hu
    rw [Net.tabs_setTab] at hu
    split_ifs at hu with hut
    · rw [hsocket] at hu
      cases hu
    · exact ⟨hut, hu⟩
  refine ⟨h.tidy, h.seated, h.unmade, h.untold, h.opened,
    fun u sid hu => h.made u sid (hback u sid hu).2,
    fun u u' sid hu hu' => h.owner u u' sid (hback u sid hu).2 (hback u' sid hu').2,
    fun u hu => ?_, fun u => ?_, h.down, fun u sid hu ho => ?_⟩
  · rw [Net.tabs_setTab] at hu ⊢
    split_ifs at hu ⊢
    · exact hidle
    · exact h.idle u hu
  · rw [Net.tabs_setTab]
    split_ifs
    · exact hbuffer
    · exact h.buffer u
  · obtain ⟨hut, hold⟩ := hback u sid hu
    rw [Net.tabs_setTab, if_neg hut]
    exact h.knows u sid hold ho

/-- **A page on a connection that is nobody else's.** -/
theorem Agrees.attach {line : Line} {pending' : Sid → Prop} (h : Agrees pending w)
    (hnew : ∀ u, u ≠ t → (w.tabs u).socket ≠ some sid) (hmade : line.made = true)
    (hdown : ∀ o ∈ line.down, o.socket? = some sid) (hsocket : tab.socket = some sid)
    (hbuffer : .clientDisconnect ∉ tab.buffer)
    (hknows : line.isOpen = true → Knows sid tab.page (line.down ++ w.unsent.flatten)
      (w.server.seat sid) (pending' sid))
    (hpending : ∀ sid', sid' ≠ sid → pending sid' → pending' sid') :
    Agrees pending' ((w.setTab t tab).setLine sid line) := by
  have hcase : ∀ u sid', ((w.setTab t tab).tabs u).socket = some sid' →
      u = t ∧ sid' = sid ∨ u ≠ t ∧ sid' ≠ sid ∧ (w.tabs u).socket = some sid' := by
    intro u sid' hu
    rw [Net.tabs_setTab] at hu
    split_ifs at hu with hut
    · rw [hsocket] at hu
      exact .inl ⟨hut, (Option.some.inj hu).symm⟩
    · refine .inr ⟨hut, ?_, hu⟩
      rintro rfl
      exact hnew u hut hu
  refine ⟨h.tidy, h.seated, fun sid' hs => ?_, fun sid' hs => ?_, fun sid' hs => ?_,
    fun u sid' hu => ?_, fun u u' sid' hu hu' => ?_, fun u hu => ?_, fun u => ?_,
    fun sid' o ho => ?_, fun u sid' hu hs => ?_⟩
  · rw [Net.lines_setLine] at hs
    split_ifs at hs with hne
    · rw [hmade] at hs
      cases hs
    · exact h.unmade sid' hs
  · rw [Net.lines_setLine] at hs
    split_ifs at hs with hne
    · rw [hmade] at hs
      cases hs
    · exact h.untold sid' hs
  · rw [Net.lines_setLine] at hs ⊢
    split_ifs at hs ⊢
    · exact hmade
    · exact h.opened sid' hs
  · rw [Net.lines_setLine]
    rcases hcase u sid' hu with ⟨-, rfl⟩ | ⟨-, hne, hold⟩
    · rw [if_pos rfl]
      exact hmade
    · rw [if_neg hne]
      exact h.made u sid' hold
  · rcases hcase u sid' hu with ⟨rfl, rfl⟩ | ⟨-, hne, hold⟩
    · rcases hcase u' _ hu' with ⟨rfl, -⟩ | ⟨-, hne', -⟩
      · rfl
      · exact absurd rfl hne'
    · rcases hcase u' sid' hu' with ⟨-, rfl⟩ | ⟨-, -, hold'⟩
      · exact absurd rfl hne
      · exact h.owner u u' sid' hold hold'
  · have hu' : ((w.setTab t tab).tabs u).socket = none := hu
    show ((w.setTab t tab).tabs u).page.connected = false
    rw [Net.tabs_setTab] at hu' ⊢
    split_ifs at hu' ⊢
    · rw [hsocket] at hu'
      cases hu'
    · exact h.idle u hu'
  · show _ ∉ ((w.setTab t tab).tabs u).buffer
    rw [Net.tabs_setTab]
    split_ifs
    · exact hbuffer
    · exact h.buffer u
  · rw [Net.lines_setLine] at ho
    split_ifs at ho with hne
    · rw [hne]
      exact hdown o ho
    · exact h.down sid' o ho
  · show Knows sid' ((w.setTab t tab).tabs u).page
      ((((w.setTab t tab).setLine sid line).lines sid').down ++ w.unsent.flatten)
        (w.server.seat sid') _
    rw [Net.lines_setLine] at hs ⊢
    rw [Net.tabs_setTab]
    rcases hcase u sid' hu with ⟨rfl, rfl⟩ | ⟨hut, hne, hold⟩
    · rw [if_pos rfl] at hs ⊢
      rw [if_pos rfl]
      exact hknows hs
    · rw [if_neg hne] at hs ⊢
      rw [if_neg hut]
      obtain ⟨hsome, hall⟩ := h.knows u sid' hold hs
      exact ⟨hsome, fun hno => hall fun hp => hno (hpending sid' hne hp)⟩

/-! ## 4. Steps and runs -/

/-- What a page will know after an event of its own: a disconnect is on its way, or nothing is
    new. -/
theorem knows_press {p : Page} {coming : List Out} {seat : Option Nat} {up : List ClientMessage}
    (deviceId : Nat) (e : Press) (h : Knows sid p coming seat (.clientDisconnect ∈ up)) :
    Knows sid (p.press deviceId e).1 coming seat
      (.clientDisconnect ∈ up ++ (p.press deviceId e).2) := by
  have hsame : ∀ {p' : Page} {sent : List ClientMessage}, p'.view = p.view →
      Knows sid p' coming seat (.clientDisconnect ∈ up ++ sent) := by
    intro p' sent hview
    unfold Knows at h ⊢
    rw [hview]
    exact ⟨h.1, fun hno => h.2 fun hmem => hno (List.mem_append_left _ hmem)⟩
  cases e with
  | data text => exact hsame rfl
  | paste text => exact hsame rfl
  | resize cols rows => exact hsame rfl
  | tick => exact hsame rfl
  | connect =>
      simp only [Page.press]
      split
      · exact hsame rfl
      · exact hsame rfl
  | disconnect =>
      simp only [Page.press]
      split
      · exact hsame rfl
      · refine ⟨?_, fun hno => absurd (List.mem_append_right _ (List.mem_singleton_self _)) hno⟩
        rcases told_cases sid coming with hid | ⟨k, hk⟩
        · exact .inl (hid none)
        · rcases h.1 with hnone | hseat
          · exact .inl ((hk none).trans ((hk _).symm.trans hnone))
          · exact .inr ((hk none).trans ((hk _).symm.trans hseat))

theorem press_unconnected {p : Page} (deviceId : Nat) (e : Press) (h : p.connected = false) :
    (p.press deviceId e).1.connected = false ∧ .clientDisconnect ∉ (p.press deviceId e).2 := by
  cases e with
  | data text => simp [Page.press, h]
  | paste text => simp [Page.press, h]
  | resize cols rows => simp [Page.press, h]
  | tick => simp [Page.press, h]
  | connect =>
      simp only [Page.press]
      split
      · exact ⟨h, List.not_mem_nil⟩
      · exact ⟨h, by simp⟩
  | disconnect => simp [Page.press, h]

/-- **The step is orderly**: no exit of a reading thread that says nothing, and no message that
    tells of a seat before what an earlier operation has to tell of it. -/
def Net.orderly (P : Process) (w : Net) : NetAct → Bool
  | .operate now op => !(w.server.at now).leavesSilently P now op
  | .send k => w.inTurn k
  | _ => true

variable {P : Process} {w' : Net} {a : NetAct}

/-- A message of a page is handled. -/
theorem agrees_handle {now : Time} {k : Nat} {env : RequestEnv} {ok : Bool}
    (h : Agrees w.disconnecting w) (hs : NetStep P w (.handle now sid k env ok) w') :
    Agrees w'.disconnecting w' := by
  unfold NetStep Net.exec at hs
  dsimp only at hs
  split_ifs at hs with hunmade
  rw [Bool.or_eq_true, not_or, decide_eq_true_eq, Bool.not_eq_true, Bool.not_eq_false'] at hunmade
  obtain ⟨hmade, hclock⟩ := hunmade
  obtain ⟨m, hm, rfl⟩ := Option.map_eq_some_iff.mp hs
  have htaken : Agrees w.disconnecting
      (w.setLine sid { w.lines sid with up := (w.lines sid).up.eraseIdx k }) :=
    h.setLine hmade (h.down sid) (fun t ht ho => h.knows t sid ht ho) fun _ _ hp => hp
  have hrest : ∀ sid', w.disconnecting sid' → (sid' = sid → m ≠ .clientDisconnect) →
      (w.setLine sid { w.lines sid with
        up := (w.lines sid).up.eraseIdx k }).disconnecting sid' := by
    intro sid' hp hne
    unfold Net.disconnecting
    rw [Net.lines_setLine]
    split_ifs with hsid
    · subst hsid
      obtain ⟨j, hj⟩ := List.mem_iff_getElem?.mp hp
      refine List.mem_eraseIdx_iff_getElem?.mpr ⟨j, ?_, hj⟩
      rintro rfl
      exact hne rfl (Option.some.inj (hm.symm.trans hj))
    · exact hp
  have hnow : w.server.clock ≤ now := not_lt.mp hclock
  cases m with
  | terminalResize cols rows => exact htaken.mono fun sid' hp => hrest sid' hp fun _ => nofun
  | requestSession deviceId =>
      refine (htaken.serve hnow rfl (fun _ he => by cases he) fun sid' d e he => ?_).mono
        fun sid' hp => hrest sid' hp fun _ => nofun
      cases he
      rw [Net.lines_setLine, if_pos rfl]
      exact hmade
  | terminalInput data =>
      exact (htaken.serve hnow rfl (fun _ he => by cases he) fun _ _ _ he => by cases he).mono
        fun sid' hp => hrest sid' hp fun _ => nofun
  | heartbeat =>
      exact (htaken.serve hnow rfl (fun _ he => by cases he) fun _ _ _ he => by cases he).mono
        fun sid' hp => hrest sid' hp fun _ => nofun
  | clientDisconnect =>
      exact (htaken.serveDisconnect hnow sid).mono fun sid' hp =>
        hrest sid' hp.1 fun hsid => absurd hsid hp.2

/-- A page gets a connection. -/
theorem agrees_connect (h : Agrees w.disconnecting w) (hs : NetStep P w (.connect t sid) w') :
    Agrees w'.disconnecting w' := by
  unfold NetStep Net.exec at hs
  dsimp only at hs
  split_ifs at hs with hbusy
  cases hs
  rw [Bool.or_eq_true, not_or, Option.not_isSome_iff_eq_none, Bool.not_eq_true] at hbusy
  obtain ⟨hfree, hunmade⟩ := hbusy
  refine h.attach (fun u _ hu => ?_) rfl (fun _ ho => absurd ho List.not_mem_nil) rfl
    List.not_mem_nil (fun _ => ?_) fun sid' hne hp => ?_
  · rw [h.made u sid hu] at hunmade
    cases hunmade
  · have hview : (w.tabs t).page.onConnect.view = none := Page.view_none (h.idle t hfree)
    have htold : told sid (w.tabs t).page.onConnect.view ([] ++ w.unsent.flatten) = none := by
      rw [hview]
      exact h.untold sid hunmade
    exact ⟨.inl htold, fun _ => htold.trans (h.unmade sid hunmade).symm⟩
  · unfold Net.disconnecting
    rw [Net.lines_setLine, if_neg hne]
    exact hp

/-- Something happens on a page. -/
theorem agrees_press {e : Press} (h : Agrees w.disconnecting w)
    (hs : NetStep P w (.press t e) w') : Agrees w'.disconnecting w' := by
  unfold NetStep Net.exec at hs
  dsimp only at hs
  split at hs
  · rename_i hsocket
    cases hs
    obtain ⟨hpage, hsent⟩ := press_unconnected (w.tabs t).deviceId e (h.idle t hsocket)
    exact h.detach hsocket hpage fun hmem => (List.mem_append.mp hmem).elim (h.buffer t) hsent
  · rename_i sid hsocket
    cases hs
    refine h.attach (fun u hu hother => hu (h.owner u t sid hother hsocket))
      (h.made t sid hsocket) (h.down sid) hsocket (h.buffer t) (fun ho => ?_)
      fun sid' hne hp => ?_
    · have hopen : (w.lines sid).isOpen = true := ho
      unfold Net.disconnecting
      rw [Net.lines_setLine, if_pos rfl, hopen, if_pos rfl]
      exact knows_press _ e (h.knows t sid hsocket hopen)
    · unfold Net.disconnecting
      rw [Net.lines_setLine, if_neg hne]
      exact hp

/-- A page reads a message. -/
theorem agrees_receive (h : Agrees w.disconnecting w) (hs : NetStep P w (.receive t) w') :
    Agrees w'.disconnecting w' := by
  unfold NetStep Net.exec at hs
  obtain ⟨sid, hsocket, hread⟩ := Option.bind_eq_some_iff.mp hs
  dsimp only at hread
  split at hread
  · cases hread
  · rename_i o down hdown
    cases hread
    have hall := h.down sid
    rw [hdown] at hall
    refine h.attach (fun u hu hother => hu (h.owner u t sid hother hsocket))
      (h.made t sid hsocket) (fun o' ho' => hall o' (List.mem_cons_of_mem o ho')) hsocket
      (h.buffer t) (fun ho => ?_) fun sid' hne hp => ?_
    · unfold Net.disconnecting
      rw [Net.lines_setLine, if_pos rfl]
      have hknows := h.knows t sid hsocket ho
      unfold Knows Net.coming at hknows
      unfold Knows
      rw [hdown] at hknows
      have hview := view_onMessage (p := (w.tabs t).page) (hall o List.mem_cons_self)
      rw [hview]
      exact hknows
    · unfold Net.disconnecting
      rw [Net.lines_setLine, if_neg hne]
      exact hp

/-- A timer, a reading thread or the admin, or the end of a connection. -/
theorem agrees_operate {now : Time} {op : Op} (h : Agrees w.disconnecting w)
    (horderly : w.orderly P (.operate now op) = true) (hs : NetStep P w (.operate now op) w') :
    Agrees w'.disconnecting w' := by
  unfold NetStep Net.exec at hs
  dsimp only at hs
  split_ifs at hs with hasked
  rw [Bool.or_eq_true, not_or, decide_eq_true_eq, Bool.not_eq_true] at hasked
  have hnow : w.server.clock ≤ now := not_lt.mp hasked.2
  have hloud : (w.server.at now).leavesSilently P now op = false := by
    simpa [Net.orderly] using horderly
  have hrequest : ∀ sid deviceId env, op ≠ .request sid deviceId env := by
    rintro sid deviceId env rfl
    cases hasked.1
  by_cases hend : ∃ sid, op = .disconnect sid
  · obtain ⟨sid, rfl⟩ := hend
    simp only at hs
    split_ifs at hs
    cases hs
    refine h.serveEnd hnow sid (w.lines sid).up fun sid' hne hp => ?_
    unfold Net.disconnecting
    rw [Net.lines_setLine, if_neg hne]
    exact hp
  · have hserved := h.serve hnow hloud (fun sid he => hend ⟨sid, he⟩) fun sid d env he =>
      absurd he (hrequest sid d env)
    have hw' : w' = w.serve P now op := by
      cases op with
      | disconnect sid => exact absurd ⟨sid, rfl⟩ hend
      | _ => exact (Option.some.inj hs).symm
    rw [hw']
    exact hserved

/-- An operation sends a message. -/
theorem agrees_send {k : Nat} (h : Agrees w.disconnecting w) (hturn : w.inTurn k = true)
    (hs : NetStep P w (.send k) w') : Agrees w'.disconnecting w' := by
  unfold NetStep Net.exec at hs
  dsimp only at hs
  split at hs
  · rename_i o rest hk
    cases hs
    refine (h.emit hk hturn).mono fun sid hp => ?_
    show _ ∈ (if o.socket? = some sid then (w.lines sid).deliver o else w.lines sid).up
    unfold Line.deliver
    split_ifs
    · exact hp
    · exact hp
    · exact hp
  · cases hs

/-- **One step.** -/
theorem agrees_step (h : Agrees w.disconnecting w) (horderly : w.orderly P a = true)
    (hs : NetStep P w a w') : Agrees w'.disconnecting w' := by
  cases a with
  | connect t sid => exact agrees_connect h hs
  | lose t =>
      unfold NetStep Net.exec at hs
      dsimp only at hs
      split_ifs at hs
      cases hs
      exact h.detach rfl rfl (h.buffer t)
  | press t e => exact agrees_press h hs
  | receive t => exact agrees_receive h hs
  | handle now sid k env ok => exact agrees_handle h hs
  | operate now op => exact agrees_operate h horderly hs
  | send k => exact agrees_send h horderly hs

/-- Nothing has happened. -/
theorem agrees_start {s : Server} (hstarted : s.Started) (hrows : s.LeaseRows)
    (deviceOf : Nat → Nat) :
    Agrees (Net.start s deviceOf).disconnecting (Net.start s deviceOf) where
  tidy := ⟨fun _ _ hb => absurd hb hstarted.no_bridge, hrows⟩
  seated := ⟨fun _ _ hb => absurd hb hstarted.no_bridge,
    fun _ _ hb => absurd hb hstarted.no_bridge⟩
  unmade sid _ := congrArg (Option.map Bridge.sessionId) (hstarted.bridge? (.active sid))
  untold _ _ := rfl
  opened _ hs := by cases hs
  made _ _ ht := by cases ht
  owner _ _ _ ht := by cases ht
  idle _ _ := rfl
  buffer _ := List.not_mem_nil
  down _ _ ho := absurd ho List.not_mem_nil
  knows _ _ ht := by cases ht

/-- **A PAGE AND THE PROCESS AGREE**: whatever pages, timers, threads and the admin do, whenever the
    messages leave, and however connections break, a page on an open connection with nothing to
    read, nothing still to be sent to it and no disconnect on its way says that it is connected if
    and only if a running bridge is registered under its socket, and it names the session of this
    bridge -- in every run whose steps are orderly. -/
theorem agreement_run {s : Server} {deviceOf : Nat → Nat} {as : List NetAct} (hstarted : s.Started)
    (hrows : s.LeaseRows)
    (h : Run (guarded (NetStep P) fun w a => w.orderly P a = true) (Net.start s deviceOf) as w)
    (hsocket : (w.tabs t).socket = some sid) (hopen : (w.lines sid).isOpen = true)
    (hread : (w.lines sid).down = []) (hunsent : ∀ o ∈ w.unsent.flatten, o.socket? ≠ some sid)
    (hsent : .clientDisconnect ∉ (w.lines sid).up) :
    ((w.tabs t).page.connected = true ↔
      ∃ b, w.server.bridge? (.active sid) = some b ∧ b.running = true) ∧
      ∀ b, w.server.bridge? (.active sid) = some b →
        (w.tabs t).page.sessionId = some b.sessionId := by
  have hagrees : Agrees w.disconnecting w :=
    h.invariant (I := fun w => Agrees w.disconnecting w) (agrees_start hstarted hrows deviceOf)
      fun w a w' hw hs => agrees_step hw hs.1 hs.2
  have hview : (w.tabs t).page.view = w.server.seat sid := by
    have hknows := (hagrees.knows t sid hsocket hopen).2 hsent
    have hseats : ∀ o ∈ w.unsent.flatten, o.seat? ≠ some sid := fun o ho =>
      mt seat_socket (hunsent o ho)
    rw [Net.coming, hread, List.nil_append, told_seat hseats] at hknows
    exact hknows
  unfold Page.view Server.seat at hview
  constructor
  · constructor
    · intro hconnected
      rw [if_pos hconnected] at hview
      obtain ⟨i, hi⟩ := Option.isSome_iff_exists.mp ((w.tabs t).page.session hconnected)
      rw [hi] at hview
      obtain ⟨b, hb, -⟩ := Option.map_eq_some_iff.mp hview.symm
      exact ⟨b, hb, hagrees.tidy.running _ b hb⟩
    · rintro ⟨b, hb, -⟩
      by_contra hnot
      rw [if_neg hnot, hb] at hview
      cases hview
  · intro b hb
    rw [hb] at hview
    split_ifs at hview
    · exact hview
    · cases hview

end Tabs

/-! ### Small runs -/

/-- User 1's page gets a session, is disconnected by the admin, and asks again. -/
def smallActs : List NetAct :=
  [.connect 0 "alice", .handle 0 "alice" 0 ⟨false, [], .opened⟩ true, .send 0, .receive 0,
    .operate (seconds 1) (.force 1), .send 1, .receive 0, .press 0 .connect,
    .handle (seconds 2) "alice" 0 ⟨false, [], .opened⟩ true, .send 2, .receive 0,
    .press 0 (.data "dir"), .handle (seconds 3) "alice" 0 ⟨false, [], .opened⟩ true]

/-- The page says that it is connected, and has typed into its second session. -/
theorem agreement_run_small : ∃ as w,
    Run (guarded (NetStep desk) fun w a => w.orderly desk a = true)
      (Net.start deskStart fun _ => 1) as w ∧ (w.tabs 0).page.connected = true ∧
      ∃ b, w.server.bridge? (.active "alice") = some b ∧ b.running = true := by
  have hrun : (execAll (execWhen (Net.orderly desk) (Net.exec desk))
      (Net.start deskStart fun _ => 1) smallActs).any (fun w => (w.tabs 0).page.connected &&
        (decide ((w.tabs 0).socket = some "alice") && ((w.lines "alice").isOpen &&
          ((w.lines "alice").down.isEmpty && (w.unsent.flatten.isEmpty &&
            decide ((w.lines "alice").up = [])))))) = true := by
    decide +kernel
  obtain ⟨w, hr, hp⟩ := exists_guarded_run (fun _ _ h => h) hrun
  simp only [Bool.and_eq_true, decide_eq_true_eq, List.isEmpty_iff] at hp
  obtain ⟨hconnected, hsocket, hopen, hdown, hunsent, hup⟩ := hp
  exact ⟨_, w, hr, hconnected, (agreement_run deskStart_started deskStart_leaseRows hr hsocket hopen
    hdown (fun o ho => by rw [hunsent] at ho; cases ho)
    (by rw [hup]; exact List.not_mem_nil)).1.mp hconnected⟩

/-- The page leaves its session and asks for another at once; `session_closed` of the first leaves
    after `session_granted` of the second, and the page takes itself to be disconnected. -/
example : (execAll (Net.exec desk) (Net.start deskStart fun _ => 1)
    [.connect 0 "alice", .handle 0 "alice" 0 ⟨false, [], .opened⟩ true, .send 0, .receive 0,
      .press 0 .disconnect, .press 0 .connect,
      .handle (seconds 1) "alice" 0 ⟨false, [], .opened⟩ true,
      .handle (seconds 1) "alice" 0 ⟨false, [], .opened⟩ true, .send 2, .send 1, .receive 0,
      .receive 0]).any (fun w => !(w.tabs 0).page.connected &&
        ((w.server.bridge? (.active "alice")).isSome && w.unsent.flatten.isEmpty)) = true := by
  decide +kernel

end RetroBridge.Terminal
