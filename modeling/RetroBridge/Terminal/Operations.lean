/-
  File:      RetroBridge/Terminal/Operations.lean
  Subject:   EVERY OPERATION IS A SEQUENCE OF MOVES, operation by operation as in `exec`.

  * `Move.close`, `Move.touch` -- the two moves that most operations make;
  * `serialReader_moves`, `forceDisconnectSession_moves` -- an iteration of a reading thread, and
    the admin's disconnect: what they take out is the bridge they have found;
  * `Resumption`, `resumption` -- how `resume_bridge` ends; `Opening`, `opening` -- how the request
    does past it;
  * `handleRequestSession_moves` -- a request: a resume or an ended session, then the port loop;
  * `exec_moves`, `Step.moves` -- **every operation of a tidy process**.
-/
import RetroBridge.Terminal.Move

namespace RetroBridge.Terminal

open Relational Ordered Transition

section Moves

variable {P : Process} {now : Time} {s₀ s s' : Server} {op : Op}

/-! ## 1. Bridges that change or leave -/

theorem Move.keep (hb : ∀ q, s'.bridge? q = s.bridge? q) (hf : Frame P s s') :
    Move P now s₀ op s s' := .pass (.keep hb) hf

theorem Move.touch (p : Place) (f : Bridge → Bridge) {b : Bridge}
    (hf : ∀ b, (f b).sessionId = b.sessionId) (hb : s.bridge? p = some b)
    (ht : b.Touched s (f b)) : Move P now s₀ op s (s.modifyAt p f hf) := by
  refine .pass (.touch hb ht fun q => ?_) (.modifyAt p f hf)
  rw [Server.bridge?_modifyAt]
  split
  · rename_i hq
    rw [hq, hb]
    rfl
  · rfl

/-- A bridge is taken out, its connection closed and its session ended. -/
theorem Move.close {p : Place} {b : Bridge} (hb : s.bridge? p = some b) (reason : String) :
    Move P now s₀ op s
      (((s.removeAt p).closeSerial b.serial).endSession now b.sessionId reason) := by
  have hframe : Frame P s ((s.removeAt p).closeSerial b.serial) :=
    (Frame.removeAt p).closeSerial b.serial
  have hbridge : ∀ q, ((s.removeAt p).closeSerial b.serial).bridge? q =
      if q = p then none else s.bridge? q := s.bridge?_removeAt p
  refine .ends b.sessionId reason hframe (fun q c hq => ?_) (fun q c hq hne => ?_)
    fun q c hq _ => ⟨p, b, hb, rfl, fun e => ?_⟩
  · rw [hbridge] at hq
    split at hq
    · cases hq
    · exact hq
  · have hqp : q ≠ p := fun e => hne (by rw [e, hb] at hq; cases hq; rfl)
    rw [hbridge, if_neg hqp, hq]
  · rw [hbridge, if_pos e.symm] at hq
    cases hq

theorem stopBridge_moves (sid : Sid) (reason : String) :
    Moves P now s₀ op s (s.stopBridge now sid reason).1 := by
  unfold Server.stopBridge
  split
  · exact .refl
  · rename_i b hb
    exact .single (.close (p := .active sid) hb reason)

theorem cleanupOne_moves (k : Nat) : Moves P now s₀ op s (s.cleanupOne now k) := by
  unfold Server.cleanupOne
  split
  · exact .refl
  · rename_i b hb
    have hkey : b.sessionId = k := s.suspended.keyed k b hb
    rw [← hkey] at hb ⊢
    exact .single (.close (p := .suspended b.sessionId) hb "user_disconnect")

theorem cleanup_moves (ks : List Nat) :
    ∀ {s : Server}, Moves P now s₀ op s (ks.foldl (fun s k => s.cleanupOne now k) s) := by
  induction ks with
  | nil => exact .refl
  | cons k ks ih => exact (cleanupOne_moves k).trans ih

theorem stopAll_moves (ended : List (Sid × String)) :
    ∀ {s : Server}, Moves P now s₀ op s (Server.stopAll now ended s).1 := by
  induction ended with
  | nil => exact .refl
  | cons e rest ih => exact (stopBridge_moves e.1 e.2).trans ih

theorem suspendBridge_moves (sid : Sid) : Moves P now s₀ op s (s.suspendBridge P now sid) := by
  unfold Server.suspendBridge
  split
  · exact .refl
  · rename_i b hb
    have hsuspend : Move P now s₀ op s
        ((s.removeAt (.active sid)).putSuspended (b.suspend now)) := by
      refine .pass (.suspend hb fun q => ?_) (.of_eq rfl rfl fun t ht => ⟨t, ht, rfl, rfl⟩)
      rw [Server.bridge?_putSuspended, Server.bridge?_removeAt]
      rfl
    exact .tail (.single hsuspend) (.keep (fun _ => rfl) (.drive _ _))

theorem writeToSerial_moves (sid : Sid) (data : String) (ok : Bool) :
    Moves P now s₀ op s (s.writeToSerial now sid data ok).1 := by
  unfold Server.writeToSerial
  split
  · exact .refl
  · rename_i b hb
    split
    · refine .single (.touch (.active sid) _ ?_ hb ?_)
      · exact fun _ => rfl
      exact ⟨⟨rfl, rfl, rfl, id⟩, rfl, fun x hx => .inl hx⟩
    · exact .refl

theorem handleHeartbeat_moves (sid : Sid) : Moves P now s₀ op s (s.handleHeartbeat now sid).1 := by
  unfold Server.handleHeartbeat
  split
  · exact .refl
  · rename_i b hb
    split
    · have htouch : Move P now s₀ op s
          (s.modifyAt (.active sid) (fun b => { b with lastActivity := now }) fun _ => rfl) := by
        refine .touch (.active sid) _ _ hb ?_
        exact ⟨⟨rfl, rfl, rfl, id⟩, rfl, fun x hx => .inl hx⟩
      exact .tail (.single htouch) (.keep (fun _ => rfl) (.leaseBeat _))
    · exact .refl

/-! ## 2. The reading thread and the admin -/

theorem loseBridge_moves {p : Place} {b : Bridge} {i : Nat} (ser : Serial)
    (hfirst : s.firstPlace (fun b => b.sessionId == i) = some (p, b))
    (hwhy : readFails P now s₀ op = true ∨ s.sessionStillActiveInDb P b.sessionId = false) :
    Moves P now s₀ op s ((s.loseBridge p b i).dropReader ser) := by
  have hb : s.bridge? p = some b := (Server.firstPlace_some hfirst).1
  have hlose : Move P now s₀ op s ((s.removeAt p).closeSerial b.serial) :=
    .pass (.lose hb hwhy (s.bridge?_removeAt p)) ((Frame.removeAt p).closeSerial b.serial)
  have hdrop : Move P now s₀ op ((s.removeAt p).closeSerial b.serial)
      (((s.removeAt p).closeSerial b.serial).dropReader ser) :=
    .keep (fun _ => rfl) (.of_eq rfl rfl fun t ht => ⟨t, List.mem_of_mem_filter ht, rfl, rfl⟩)
  rw [Server.loseBridge_eq hfirst]
  exact .tail (.single hlose) hdrop

theorem Bridge.receive_same (now : Time) (decoded : List Heard) (n : Nat) (b : Bridge) :
    b.Same (b.receive now decoded n) ∧ (b.receive now decoded n).sid = b.sid :=
  ⟨⟨rfl, rfl, rfl, id⟩, rfl⟩

theorem Bridge.mem_receive {now : Time} {decoded : List Heard} {n : Nat} {b : Bridge} {x : Heard}
    (hx : x ∈ (b.receive now decoded n).outputBuffer) : x ∈ b.outputBuffer ∨ x ∈ decoded := by
  dsimp only [Bridge.receive] at hx
  have hx' := List.mem_of_mem_drop hx
  exact List.mem_append.mp hx'

/-- The read of an iteration, after the bridge has been found. -/
theorem readSerial_moves {t : Reader} {p : Place} {b : Bridge} {answer : ReadAnswer}
    (hfirst : s.firstPlace (fun b => b.sessionId == t.sessionId) = some (p, b))
    (ht : ∃ u ∈ s.readers, u.serial = t.serial ∧ u.sessionId = t.sessionId)
    (hfails : answer.raises = true → readFails P now s₀ op = true) :
    Moves P now s₀ op s (s.readSerial P now t p b answer).1 := by
  obtain ⟨hb, hid⟩ := Server.firstPlace_some hfirst
  cases answer with
  | nothing => exact .refl
  | data bytes =>
      simp only [Server.readSerial]
      split
      · exact .refl
      · obtain ⟨hsame, hsid⟩ := b.receive_same now ((P.decode bytes).map (t.serial, ·)) bytes.length
        refine .single (.touch p _ _ hb ⟨hsame, hsid, fun x hx => ?_⟩)
        rcases Bridge.mem_receive hx with hx | hx
        · exact Or.inl hx
        · obtain ⟨u, hu, hser, hsid⟩ := ht
          obtain ⟨c, -, rfl⟩ := List.mem_map.mp hx
          have hsession : b.sessionId = t.sessionId := by simpa using hid
          exact Or.inr ⟨u, hu, hser, hsid.trans hsession.symm⟩
  | serialError text => exact loseBridge_moves t.serial hfirst (.inl (hfails rfl))
  | exception => exact loseBridge_moves t.serial hfirst (.inl (hfails rfl))

theorem serialReader_moves {conn : Nat} {t : Reader} {answer : ReadAnswer} (h : s.Tidy)
    (hfind : (s.readers.find? fun t => t.serial.conn == conn) = some t) :
    Moves P now s (.read conn answer) s (s.serialReader P now t answer).1 := by
  have ht : t ∈ s.readers := List.mem_of_find?_eq_some hfind
  unfold Server.serialReader
  split
  · exact .single (.keep (fun _ => rfl)
      (.of_eq rfl rfl fun t ht => ⟨t, List.mem_of_mem_filter ht, rfl, rfl⟩))
  · rename_i p b hget
    have hfirst : s.firstPlace (fun b => b.sessionId == t.sessionId) = some (p, b) :=
      (h.firstPlace t.sessionId).symm.trans hget
    split
    · rename_i hdue
      split
      · rename_i hactive
        -- the check is passed and the heartbeat written before the line is read
        have hfails : answer.raises = true → readFails P now s (.read conn answer) = true := by
          intro hraises
          simp [readFails, hraises, hfind, hget, hactive]
        have hbeat : Move P now s (.read conn answer) s
            (s.heartbeatBridgeInThread P now b.sessionId) := .keep (fun _ => rfl) (.beat _)
        have hreader : Move P now s (.read conn answer)
            (s.heartbeatBridgeInThread P now b.sessionId)
            ((s.heartbeatBridgeInThread P now b.sessionId).beatReader now t.serial) := by
          refine .keep (fun _ => rfl) (.of_eq rfl rfl fun u hu => ?_)
          obtain ⟨v, hv, rfl⟩ := List.mem_map.mp hu
          refine ⟨v, hv, ?_⟩
          split <;> exact ⟨rfl, rfl⟩
        have hu : ∃ u ∈ ((s.heartbeatBridgeInThread P now b.sessionId).beatReader now
            t.serial).readers, u.serial = t.serial ∧ u.sessionId = t.sessionId :=
          ⟨_, List.mem_map.mpr ⟨t, ht, rfl⟩, by rw [if_pos rfl], by rw [if_pos rfl]⟩
        exact (Relation.ReflTransGen.tail (.single hbeat) hreader).trans
          (readSerial_moves hfirst hu hfails)
      · rename_i hactive
        exact loseBridge_moves t.serial hfirst (.inr (by simpa using hactive))
    · rename_i hdue
      have hfails : answer.raises = true → readFails P now s (.read conn answer) = true := by
        intro hraises
        simp [readFails, hraises, hfind, hget, hdue]
      exact readSerial_moves hfirst ⟨t, ht, rfl, rfl⟩ hfails

theorem forceDisconnectSession_moves (h : s.Tidy) (i : Nat) :
    Moves P now s₀ op s (s.forceDisconnectSession now i).1 := by
  unfold Server.forceDisconnectSession
  split
  · exact stopBridge_moves _ _
  · rename_i hactive
    have hactive' := h.active_none hactive
    split
    · rename_i b hb
      have hkey : b.sessionId = i := s.suspended.keyed i b hb
      rw [Server.loseBridge_eq (Server.firstPlace_suspended hactive' hb)]
      rw [← hkey] at hb ⊢
      exact .single (.close (p := .suspended b.sessionId) hb "admin_force")
    · rename_i hsuspended
      have hnone : ∀ q b, s.bridge? q = some b → b.sessionId ≠ i := by
        intro q b hb hid
        cases q with
        | active sid =>
            have hno := Dict.find?_none hactive' hb
            simp [hid] at hno
        | suspended k =>
            have hkey : b.sessionId = k := s.suspended.keyed k b hb
            rw [← hid, hkey] at hsuspended
            exact absurd hb (by rw [Server.bridge?, hsuspended]; simp)
      exact .single (.ends i "admin_force" .same (fun _ _ hq => hq) (fun _ _ hq _ => hq)
        fun q b hq hid => absurd hid (hnone q b hq))

/-! ## 3. request_session -/

theorem flushWaiting_moves {sid : Sid} {b : Bridge} (ser : Serial) (waiting : List UInt8)
    (hb : s.bridge? (.active sid) = some b) :
    Moves P now s₀ op s (s.flushWaiting P sid ser waiting).1 := by
  unfold Server.flushWaiting
  split
  · refine .single (.touch (.active sid) _ ?_ hb ?_)
    · exact fun _ => rfl
    · exact ⟨⟨rfl, rfl, rfl, id⟩, rfl, fun x hx => .inl hx⟩
  · exact .refl

/-- Suspended bridge `b` of session `i` under its new socket, before its connection is read. -/
def Server.rebind (P : Process) (now : Time) (s : Server) (sid : Sid) (i : Nat) (b : Bridge) :
    Server :=
  ((s.removeAt (.suspended i)).putActive sid (b.resume now sid)).updateBridgeRegistry P now i
    .active

theorem bridge?_rebind (sid : Sid) (i : Nat) (b : Bridge) (q : Place) :
    (s.rebind P now sid i b).bridge? q =
      if q = .active sid then some (b.resume now sid)
      else if q = .suspended i then none else s.bridge? q := by
  show ((s.removeAt (.suspended i)).putActive sid (b.resume now sid)).bridge? q = _
  rw [Server.bridge?_putActive, Server.bridge?_removeAt]

theorem rebind_active (sid : Sid) (i : Nat) (b : Bridge) :
    (s.rebind P now sid i b).bridge? (.active sid) = some (b.resume now sid) := by
  rw [bridge?_rebind, if_pos rfl]

/-- **How `resume_bridge` ends**: the state, the bridge it returns, and what it sends. -/
inductive Resumption (P : Process) (now : Time) (s : Server) (sid : Sid) (i : Nat)
    (waiting : List UInt8) : Server × Option Bridge × List Out → Prop where
  | unknown (hb : s.suspended.dict.get? i = none) :
      Resumption P now s sid i waiting (s, none, [])
  | elsewhere {b : Bridge} (hb : s.suspended.dict.get? i = some b)
      (hremote : s.isBridgeActiveRemotely P now i = true) :
      Resumption P now s sid i waiting ((s.removeAt (.suspended i)).putSuspended b, none, [])
  | expired {b : Bridge} (hb : s.suspended.dict.get? i = some b)
      (hremote : s.isBridgeActiveRemotely P now i = false) (hgrace : b.graceOver now = true) :
      Resumption P now s sid i waiting
        (((s.removeAt (.suspended i)).closeSerial b.serial).endSession now i "user_disconnect",
          none, [])
  | resumed {b : Bridge} (hb : s.suspended.dict.get? i = some b)
      (hremote : s.isBridgeActiveRemotely P now i = false) (hgrace : b.graceOver now = false) :
      Resumption P now s sid i waiting
        (((s.rebind P now sid i b).flushWaiting P sid b.serial waiting).1,
          some (b.resume now sid),
          (if b.outputBuffer.isEmpty then [] else [Out.terminalOutput sid b.outputBuffer]) ++
            ((s.rebind P now sid i b).flushWaiting P sid b.serial waiting).2)

variable (P now s) in
theorem resumption (sid : Sid) (i : Nat) (waiting : List UInt8) :
    Resumption P now s sid i waiting (s.resumeBridge P now sid i waiting) := by
  unfold Server.resumeBridge
  split
  · rename_i hb
    exact .unknown hb
  · rename_i b hb
    dsimp only
    have hsame : (s.removeAt (.suspended i)).isBridgeActiveRemotely P now i =
        s.isBridgeActiveRemotely P now i := rfl
    rw [hsame]
    cases hremote : s.isBridgeActiveRemotely P now i with
    | true => exact .elsewhere hb hremote
    | false =>
        cases hgrace : b.graceOver now with
        | true => exact .expired hb hremote hgrace
        | false => exact .resumed hb hremote hgrace

variable (P now s₀ op) in
/-- **A resume**, for a socket without a bridge; where it fails, the socket stays without one. -/
theorem resumeBridge_moves {sid : Sid} {r : TerminalSession} (waiting : List UInt8)
    (hrow : s.sessions.get? r.id = some r) (huser : P.currentUser sid = some r.userId)
    (hsid : s.bridge? (.active sid) = none) :
    Moves P now s₀ op s (s.resumeBridge P now sid r.id waiting).1 ∧
      ((s.resumeBridge P now sid r.id waiting).2.1 = none →
        (s.resumeBridge P now sid r.id waiting).1.bridge? (.active sid) = none) := by
  have hends := resumption P now s sid r.id waiting
  generalize s.resumeBridge P now sid r.id waiting = out at hends ⊢
  cases hends with
  | unknown hb => exact ⟨.refl, fun _ => hsid⟩
  | @elsewhere b hb hremote =>
      -- the bridge is put back under its key
      have hkey : b.sessionId = r.id := s.suspended.keyed r.id b hb
      refine ⟨.single (.keep (fun q => ?_) (.of_eq rfl rfl fun t ht => ⟨t, ht, rfl, rfl⟩)),
        fun _ => hsid⟩
      rw [Server.bridge?_putSuspended, Server.bridge?_removeAt, hkey]
      split
      · rename_i hq
        rw [hq]
        exact hb.symm
      · rfl
  | @expired b hb hremote hgrace =>
      have hclose : Move P now s₀ op s (((s.removeAt (.suspended r.id)).closeSerial
          b.serial).endSession now b.sessionId "user_disconnect") :=
        .close (p := .suspended r.id) hb "user_disconnect"
      rw [s.suspended.keyed r.id b hb] at hclose
      exact ⟨.single hclose, fun _ => hsid⟩
  | @resumed b hb hremote hgrace =>
      have hresume : Move P now s₀ op s
          ((s.removeAt (.suspended r.id)).putActive sid (b.resume now sid)) := by
        refine .pass (.resume hrow huser hb hsid fun q => ?_)
          (.of_eq rfl rfl fun t ht => ⟨t, ht, rfl, rfl⟩)
        rw [Server.bridge?_putActive, Server.bridge?_removeAt]
      have hdrive : Moves P now s₀ op s (s.rebind P now sid r.id b) :=
        .tail (.single hresume) (.keep (fun _ => rfl) (.drive _ _))
      exact ⟨hdrive.trans (flushWaiting_moves b.serial waiting (rebind_active sid r.id b)),
        fun h => by cases h⟩

variable (P now) in
/-- How `start_bridge` ends. -/
theorem startBridge_cases (s : Server) (sid : Sid) (session : TerminalSession) (port : DevicePort)
    (answer : OpenAnswer) :
    s.startBridge P now sid session port answer = (s, .refused) ∨
      s.startBridge P now sid session port answer = (s, .raised) ∨
      s.startBridge P now sid session port answer =
        ((s.updateBridgeRegistry P now session.id .active).register now sid session port,
          .started) := by
  unfold Server.startBridge
  split
  · exact .inl rfl
  · split
    · exact .inl rfl
    · cases answer with
      | opened => exact .inr (.inr rfl)
      | serialException => exact .inl rfl
      | otherException => exact .inr (.inl rfl)

/-- The port loop begins with a recovery. -/
theorem recovers_of_portLoop {user : User} {device : Device}
    (h : portLoop? P now s₀ op = some (user, device, s)) : recovers? P now s₀ op = some s := by
  cases op with
  | request sid deviceId env =>
      show (portLoop? P now s₀ (.request sid deviceId env)).map _ = _
      rw [h]
      rfl
  | _ => cases h

/-- **How `request_session` ends past the resume**: the state, and what is sent. -/
inductive Opening (P : Process) (now : Time) (s : Server) (sid : Sid) (user : User)
    (device : Device) (env : RequestEnv) : Server × List Out → Prop where
  | exceeded (hquota : s.sessionsExceeded user = true) :
      Opening P now s sid user device env
        (s, [.sessionDenied sid "Maximum terminal sessions reached"])
  | portless (hquota : s.sessionsExceeded user = false)
      (hports : enabledPorts s.site device.id .interactive = []) :
      Opening P now s sid user device env
        (s, [.sessionDenied sid "All interactive ports are currently in use"])
  | taken (hquota : s.sessionsExceeded user = false)
      (hports : enabledPorts s.site device.id .interactive ≠ []) :
      Opening P now s sid user device env (s.recoverStaleLeases now,
        [.sessionDenied sid "All interactive ports are currently in use"])
  | refused {port : DevicePort} (hquota : s.sessionsExceeded user = false)
      (hport : port ∈ enabledPorts s.site device.id .interactive)
      (hfree : (s.recoverStaleLeases now).leases.get? port.id = none) :
      Opening P now s sid user device env
        ((s.entered P now user.id device.id port).endSession now s.sessions.nextKey "error",
          [.sessionDenied sid ("Could not open serial port: " ++ port.devPath)])
  | stranded {port : DevicePort} (hquota : s.sessionsExceeded user = false)
      (hport : port ∈ enabledPorts s.site device.id .interactive)
      (hfree : (s.recoverStaleLeases now).leases.get? port.id = none) :
      Opening P now s sid user device env (s.entered P now user.id device.id port, [])
  | started {port : DevicePort} (hquota : s.sessionsExceeded user = false)
      (hport : port ∈ enabledPorts s.site device.id .interactive)
      (hfree : (s.recoverStaleLeases now).leases.get? port.id = none) :
      Opening P now s sid user device env (s.opened P now sid user.id device.id port,
        [.sessionGranted sid s.sessions.nextKey (Server.deviceName device) port.portLabel
          port.baud])

variable (P now) in
theorem opening (sid : Sid) (user : User) (device : Device) (env : RequestEnv)
    (hrows : s.LeaseRows) :
    Opening P now s sid user device env (s.openSession P now sid user device env) := by
  unfold Server.openSession
  split
  · rename_i hquota
    exact .exceeded hquota
  · rename_i hquota
    have hwithin : s.sessionsExceeded user = false := by simpa using hquota
    by_cases hports : enabledPorts s.site device.id .interactive = []
    · rw [hports]
      exact .portless hwithin hports
    · rcases Server.tryPorts_cases P now user.id device.id _ hports hrows with
        htry | ⟨port, hport, hfree, htry⟩
      · simp only [htry]
        exact .taken hwithin hports
      · simp only [htry]
        rcases startBridge_cases P now (s.entered P now user.id device.id port) sid
          (s.newSession now user.id device.id port.id) port env.opening with hst | hst | hst
        · simp only [hst]
          exact .refused hwithin hport hfree
        · simp only [hst]
          exact .stranded hwithin hport hfree
        · simp only [hst]
          exact .started hwithin hport hfree

theorem openSession_moves {sid : Sid} {user : User} {device : Device} {env : RequestEnv}
    (h : s.Tidy) (huser : P.currentUser sid = some user.id) (hsid : s.bridge? (.active sid) = none)
    (hloop : s.sessionsExceeded user = false →
      enabledPorts s.site device.id .interactive ≠ [] →
      portLoop? P now s₀ op = some (user, device, s)) :
    Moves P now s₀ op s (s.openSession P now sid user device env).1 := by
  have hends := opening P now sid user device env h.leaseRows
  generalize s.openSession P now sid user device env = out at hends ⊢
  cases hends with
  | exceeded => exact .refl
  | portless => exact .refl
  | taken hquota hports =>
      exact .single (.recover (recovers_of_portLoop (hloop hquota hports)))
  | refused hquota hport hfree =>
      exact .single (.refused (hloop hquota (List.ne_nil_of_mem hport)) hfree)
  | stranded hquota hport hfree =>
      exact .single (.stranded (hloop hquota (List.ne_nil_of_mem hport)) hfree)
  | started hquota hport hfree =>
      exact .single (.started (hloop hquota (List.ne_nil_of_mem hport)) hfree huser hsid)

theorem gates_some {sid : Sid} {deviceId : Nat} {env : RequestEnv} {user : User} {device : Device}
    (h : s.gates P sid deviceId env = .inl (user, device)) :
    P.currentUser sid = some user.id ∧ (s.active.get? sid).any Bridge.running = false := by
  unfold Server.gates at h
  split at h
  · cases h
  · rename_i u hu
    obtain ⟨i, hi, hget⟩ := Option.bind_eq_some_iff.mp hu
    have hid : u.id = i := (Table.get?_eq_some.mp hget).2
    split at h
    · cases h
    · split at h
      · cases h
      · split at h
        · cases h
        · split at h
          · cases h
          · rename_i hsid
            cases h
            exact ⟨hid ▸ hi, by simpa using hsid⟩

theorem existingSession_some {u d : Nat} {r : TerminalSession}
    (h : s.existingSession u d = some r) :
    s.sessions.get? r.id = some r ∧ r.userId = u ∧ r.status = .active := by
  have hmem : r ∈ s.sessions := List.mem_of_find?_eq_some h
  have hrow := List.find?_some h
  simp only [Bool.and_eq_true, beq_iff_eq] at hrow
  exact ⟨Table.get?_key hmem, hrow.1.1, hrow.2⟩

variable (P now s₀ op) in
/-- **The request up to the resume**: where it goes on, the socket has no bridge. -/
theorem admitOrResume_moves (sid : Sid) (deviceId : Nat) (env : RequestEnv) (h : s.Tidy) :
    Moves P now s₀ op s (s.admitOrResume P now sid deviceId env).1 ∧
      ∀ user device, (s.admitOrResume P now sid deviceId env).2.2 = some (user, device) →
        P.currentUser sid = some user.id ∧
          (s.admitOrResume P now sid deviceId env).1.bridge? (.active sid) = none := by
  unfold Server.admitOrResume
  split
  · exact ⟨.refl, fun _ _ hnone => by cases hnone⟩
  · rename_i user device hgates
    obtain ⟨huser, hidle⟩ := gates_some hgates
    have hsid : s.bridge? (.active sid) = none := by
      cases hb : s.bridge? (.active sid) with
      | none => rfl
      | some b =>
          have hrun := h.running _ b hb
          rw [show s.active.get? sid = some b from hb] at hidle
          simp [hrun] at hidle
    split
    · refine ⟨.refl, fun u d hud => ?_⟩
      cases hud
      exact ⟨huser, hsid⟩
    · rename_i r hr
      obtain ⟨hrow, hru, -⟩ := existingSession_some hr
      have hres := resumeBridge_moves P now s₀ op env.waiting hrow
        (hru ▸ huser) hsid
      dsimp only
      split
      · exact ⟨hres.1, fun _ _ hnone => by cases hnone⟩
      · rename_i hfailed
        split
        · exact ⟨hres.1, fun _ _ hnone => by cases hnone⟩
        · refine ⟨hres.1, fun u d hud => ?_⟩
          cases hud
          exact ⟨huser, hres.2 hfailed⟩

theorem handleRequestSession_moves {sid : Sid} {deviceId : Nat} {env : RequestEnv} (h : s.Tidy) :
    Moves P now s (.request sid deviceId env) s
      (s.handleRequestSession P now sid deviceId env).1 := by
  obtain ⟨hmoves, hgo⟩ := admitOrResume_moves P now s (.request sid deviceId env) sid deviceId env h
  unfold Server.handleRequestSession
  dsimp only
  split
  · exact hmoves
  · rename_i user device hud
    obtain ⟨huser, hsid⟩ := hgo user device hud
    refine hmoves.trans (openSession_moves (hmoves.invariant h fun h m => m.tidy h) huser hsid
      fun hquota hports => ?_)
    simp [portLoop?, hud, hquota, hports]

/-! ## 4. The whole process -/

theorem acquirePortLease_moves (portId sessionId : Nat) :
    Moves P now s (.acquire portId sessionId) s (s.acquirePortLease P now portId sessionId).1 := by
  unfold Server.acquirePortLease
  dsimp only
  split
  · rename_i hc
    have hsome : ((s.recoverStaleLeases now).sessions.get? sessionId).isSome = true :=
      (Bool.and_eq_true_iff.mp (Bool.and_eq_true_iff.mp hc).1).2
    rw [Server.session?_recover, Option.isSome_map] at hsome
    obtain ⟨r, hr⟩ := Option.isSome_iff_exists.mp hsome
    exact .single (.lease rfl rfl hr)
  · exact .single (.recover rfl)

variable (op) in
theorem deleteCascade_moves (hop : op.deletes = true) (site : Site) (gone : TerminalSession → Bool)
    (port : Nat → Bool) : Moves P now s₀ op s (s.deleteCascade site gone port) := by
  unfold Server.deleteCascade
  split
  · exact .refl
  · rename_i hrefused
    refine .single (.delete hop fun l hl hport r hr => ?_)
    by_contra hgone
    refine hrefused (List.any_eq_true.mpr ⟨l, hl, ?_⟩)
    simp only [hport, hr]
    simpa using hgone

/-- **Every operation of a tidy process is a sequence of moves.** -/
theorem exec_moves (h : s.Tidy) (op : Op) : Moves P now s op s (exec P now s op).1 := by
  cases op with
  | request sid deviceId env => exact handleRequestSession_moves h
  | disconnect sid => exact suspendBridge_moves sid
  | clientDisconnect sid => exact stopBridge_moves sid "user_disconnect"
  | input sid data ok => exact writeToSerial_moves sid data ok
  | heartbeat sid => exact handleHeartbeat_moves sid
  | acquire portId sessionId => exact acquirePortLease_moves portId sessionId
  | cleanup => exact cleanup_moves _
  | timeouts => exact stopAll_moves _
  | force sessionId => exact forceDisconnectSession_moves h sessionId
  | read conn answer =>
      simp only [exec]
      split
      · rename_i t ht
        exact serialReader_moves h ht
      · exact .refl
  | deleteUser u =>
      simp only [exec, Server.deleteUser]
      exact deleteCascade_moves _ rfl _ _ _
  | deleteDevice d =>
      simp only [exec, Server.deleteDevice]
      exact deleteCascade_moves _ rfl _ _ _
  | deletePort p =>
      simp only [exec, Server.deletePort]
      exact deleteCascade_moves _ rfl _ _ _

theorem deskStart_leaseRows : deskStart.LeaseRows := fun _ hl => absurd hl List.not_mem_nil

theorem Step.moves {l : Label} (hs : Step P s l s') (h : s.Tidy) :
    Moves P l.now (s.at l.now) l.op (s.at l.now) s' := by
  have hmoves : Moves P l.now (s.at l.now) l.op (s.at l.now)
      (exec P l.now (s.at l.now) l.op).1 := exec_moves (tidy_at h l.now) l.op
  rw [hs.2] at hmoves
  exact hmoves

end Moves

end RetroBridge.Terminal
