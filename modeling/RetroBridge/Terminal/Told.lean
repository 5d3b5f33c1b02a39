/-
  File:      RetroBridge/Terminal/Told.lean
  Subject:   WHAT A SOCKET HAS BEEN TOLD of its session, and what the process holds for it.

  * `Server.seat` -- the session of the bridge that is registered under a socket;
  * `told` -- what a client makes of `session_granted` and `session_closed`;
  * `Tells` -- the messages of an operation say of every socket how its seat has changed;
  * `Server.leavesSilently` -- the exits of a reading thread that say nothing to the socket of the
    bridge they take out;
  * `exec_tells` -- **every other operation tells**, a disconnect apart, of which nobody is told.
-/
import RetroBridge.Terminal.Course

namespace RetroBridge.Terminal

open Relational Ordered Transition

/-! ## 1. Seats and messages -/

/-- The session whose bridge is registered under a socket. -/
def Server.seat (s : Server) (sid : Sid) : Option Nat :=
  (s.bridge? (.active sid)).map Bridge.sessionId

/-- What a message makes of what a socket knows. -/
def Out.tells (sid : Sid) (known : Option Nat) : Out → Option Nat
  | .sessionGranted sid' i _ _ _ => if sid' = sid then some i else known
  | .sessionClosed sid' _ => if sid' = sid then none else known
  | _ => known

/-- What a socket knows after some messages. -/
def told (sid : Sid) (known : Option Nat) (outs : List Out) : Option Nat :=
  outs.foldl (Out.tells sid) known

/-- **The messages tell every socket of its seat.** -/
def Tells (s : Server) (outs : List Out) (s' : Server) : Prop :=
  ∀ sid, told sid (s.seat sid) outs = s'.seat sid

/-- The message says nothing about seats. -/
def Out.Neutral : Out → Prop
  | .sessionGranted .. | .sessionClosed .. => False
  | _ => True

section Told

variable {P : Process} {now : Time} {s s' t : Server} {sid : Sid} {outs outs' : List Out}

theorem told_append (known : Option Nat) :
    told sid known (outs ++ outs') = told sid (told sid known outs) outs' := List.foldl_append

/-- Messages forget what was known, or change nothing. -/
theorem told_cases (sid : Sid) (outs : List Out) :
    (∀ known, told sid known outs = known) ∨ ∃ k, ∀ known, told sid known outs = k := by
  induction outs with
  | nil => exact .inl fun _ => rfl
  | cons o outs ih =>
      rcases ih with hsame | ⟨k, hk⟩
      · have hhead :
            (∀ known, o.tells sid known = known) ∨ ∃ k, ∀ known, o.tells sid known = k := by
          cases o with
          | sessionGranted sid' i deviceName portLabel baud =>
              by_cases hsid : sid' = sid
              · exact .inr ⟨some i, fun _ => if_pos hsid⟩
              · exact .inl fun _ => if_neg hsid
          | sessionClosed sid' reason =>
              by_cases hsid : sid' = sid
              · exact .inr ⟨none, fun _ => if_pos hsid⟩
              · exact .inl fun _ => if_neg hsid
          | _ => exact .inl fun _ => rfl
        rcases hhead with hid | ⟨k, hk⟩
        · exact .inl fun known => (hsame _).trans (hid known)
        · exact .inr ⟨k, fun known => (hsame _).trans (hk known)⟩
      · exact .inr ⟨k, fun known => hk _⟩

theorem told_neutral (h : ∀ o ∈ outs, o.Neutral) (known : Option Nat) :
    told sid known outs = known := by
  induction outs generalizing known with
  | nil => rfl
  | cons o outs ih =>
      have ho := h o List.mem_cons_self
      have hhead : o.tells sid known = known := by
        cases o with
        | sessionGranted => exact ho.elim
        | sessionClosed => exact ho.elim
        | _ => rfl
      show told sid (o.tells sid known) outs = known
      rw [hhead]
      exact ih (fun o' ho' => h o' (List.mem_cons_of_mem o ho')) known

theorem Tells.trans (h : Tells s outs t) (h' : Tells t outs' s') : Tells s (outs ++ outs') s' :=
  fun sid => by rw [told_append, h sid, h' sid]

/-- No seat changes, and nothing is said of one. -/
theorem Tells.same (houts : ∀ o ∈ outs, o.Neutral)
    (h : ∀ sid, s'.bridge? (.active sid) = s.bridge? (.active sid)) : Tells s outs s' := by
  intro sid
  rw [told_neutral houts, Server.seat, Server.seat, h sid]

theorem neutral_nil : ∀ o ∈ ([] : List Out), o.Neutral := fun _ ho => absurd ho List.not_mem_nil

theorem neutral_one {o : Out} (h : o.Neutral) : ∀ o' ∈ [o], o'.Neutral := fun _ ho' => by
  rw [List.mem_singleton.mp ho']
  exact h

/-- Bridges keep their sessions where they are. -/
theorem seat_modifyAt (p : Place) (f : Bridge → Bridge) (hf : ∀ b, (f b).sessionId = b.sessionId)
    (sid : Sid) : (s.modifyAt p f hf).seat sid = s.seat sid := by
  unfold Server.seat
  rw [Server.bridge?_modifyAt]
  split
  · rw [Option.map_map]
    exact congrArg (fun g => Option.map g _) (funext hf)
  · rfl

theorem Tells.modifyAt (houts : ∀ o ∈ outs, o.Neutral) (p : Place) (f : Bridge → Bridge)
    (hf : ∀ b, (f b).sessionId = b.sessionId)
    (h : ∀ sid, s'.seat sid = (s.modifyAt p f hf).seat sid) : Tells s outs s' := by
  intro sid
  rw [told_neutral houts, h sid, seat_modifyAt]

/-- A bridge leaves its seat, and its socket is told. -/
theorem Tells.closed {reason : String}
    (h : ∀ sid', s'.bridge? (.active sid') =
      if sid' = sid then none else s.bridge? (.active sid')) :
    Tells s [.sessionClosed sid reason] s' := by
  intro sid'
  show (if sid = sid' then none else s.seat sid') = s'.seat sid'
  unfold Server.seat
  rw [h sid']
  by_cases hsid : sid' = sid
  · rw [if_pos hsid, if_pos hsid.symm]
    rfl
  · rw [if_neg hsid, if_neg (Ne.symm hsid)]

theorem seated_at (h : Seated s) (now : Time) : Seated (s.at now) := ⟨h.active, h.suspended⟩

/-! ## 2. Operation by operation -/

theorem stopBridge_tells (sid : Sid) (reason : String) :
    Tells s (s.stopBridge now sid reason).2 (s.stopBridge now sid reason).1 := by
  unfold Server.stopBridge
  cases hb : s.active.get? sid with
  | none => exact .same neutral_nil fun _ => rfl
  | some b =>
      refine .closed fun sid' => ?_
      show (s.removeAt (.active sid)).bridge? (.active sid') = _
      rw [Server.bridge?_removeAt]
      simp

theorem stopAll_tells (ended : List (Sid × String)) : ∀ {s : Server},
    Tells s (Server.stopAll now ended s).2 (Server.stopAll now ended s).1 := by
  induction ended with
  | nil => exact .same neutral_nil fun _ => rfl
  | cons e rest ih => exact (stopBridge_tells e.1 e.2).trans ih

theorem forceDisconnectSession_tells (h : s.Tidy) (i : Nat) :
    Tells s (s.forceDisconnectSession now i).2 (s.forceDisconnectSession now i).1 := by
  unfold Server.forceDisconnectSession
  cases hfind : s.active.find? fun b => b.sessionId == i && b.running with
  | some e => exact stopBridge_tells e.1 "admin_force"
  | none =>
      cases hb : s.suspended.dict.get? i with
      | none => exact .same neutral_nil fun _ => rfl
      | some b =>
          dsimp only
          rw [Server.loseBridge_eq (Server.firstPlace_suspended (h.active_none hfind) hb)]
          exact .same neutral_nil fun _ => rfl

theorem cleanup_tells (ks : List Nat) : ∀ {s : Server},
    Tells s [] (ks.foldl (fun s k => s.cleanupOne now k) s) := by
  induction ks with
  | nil => exact .same neutral_nil fun _ => rfl
  | cons k ks ih =>
      intro s
      have hone : Tells s [] (s.cleanupOne now k) := by
        unfold Server.cleanupOne
        split
        · exact .same neutral_nil fun _ => rfl
        · exact .same neutral_nil fun _ => rfl
      exact hone.trans ih

theorem writeToSerial_tells (sid : Sid) (data : String) (ok : Bool) :
    Tells s (s.writeToSerial now sid data ok).2 (s.writeToSerial now sid data ok).1 := by
  unfold Server.writeToSerial
  split
  · exact .same neutral_nil fun _ => rfl
  · split
    · exact .modifyAt (neutral_one trivial) _ _ _ fun _ => rfl
    · exact .same neutral_nil fun _ => rfl

theorem handleHeartbeat_tells (sid : Sid) :
    Tells s (s.handleHeartbeat now sid).2 (s.handleHeartbeat now sid).1 := by
  unfold Server.handleHeartbeat
  split
  · exact .same (neutral_one trivial) fun _ => rfl
  · split
    · exact .modifyAt (neutral_one trivial) _ _ _ fun _ => rfl
    · exact .same (neutral_one trivial) fun _ => rfl

/-! ### Reading threads -/

/-- **The exits that say nothing**: the thread's bridge is active, and its session is over or the
    read raises what is no serial error. -/
def Server.leavesSilently (P : Process) (now : Time) (s : Server) : Op → Bool
  | .read conn answer =>
    match s.readers.find? fun t => t.serial.conn == conn with
    | none => false
    | some t =>
      match s.getBridgeBySession t.sessionId with
      | some (.active _, b) =>
        s.seesEnd P now t b || match answer with
          | .exception => true
          | _ => false
      | _ => false
  | _ => false

/-- A bridge that is not active leaves no seat. -/
theorem suspended_removed {k : Nat} (sid : Sid) :
    (s.removeAt (.suspended k)).bridge? (.active sid) = s.bridge? (.active sid) := by
  rw [Server.bridge?_removeAt, if_neg nofun]

theorem readSerial_tells {v : Server} {r : Reader} {p : Place} {b : Bridge} {answer : ReadAnswer}
    (hv : ∀ q, v.bridge? q = s.bridge? q)
    (hfirst : v.firstPlace (fun b => b.sessionId == r.sessionId) = some (p, b))
    (hseated : ∀ sid, p = .active sid → b.sid = some sid)
    (hunseated : ∀ k, p = .suspended k → b.sid = none)
    (hloud : ∀ sid, p = .active sid → answer ≠ .exception) :
    Tells s (v.readSerial P now r p b answer).2 (v.readSerial P now r p b answer).1 := by
  cases answer with
  | nothing => exact .same neutral_nil fun sid => hv _
  | data bytes =>
      simp only [Server.readSerial]
      split
      · exact .same neutral_nil fun sid => hv _
      · have hneutral : ∀ o ∈ b.sid.toList.map fun sid =>
            Out.terminalOutput sid ((P.decode bytes).map (r.serial, ·)), o.Neutral := by
          intro o ho
          obtain ⟨sid', -, rfl⟩ := List.mem_map.mp ho
          exact trivial
        refine fun sid => (told_neutral hneutral _).trans ?_
        have hseat : s.seat sid = v.seat sid :=
          (congrArg (Option.map Bridge.sessionId) (hv _)).symm
        exact hseat.trans (seat_modifyAt p _ _ sid).symm
  | serialError text =>
      simp only [Server.readSerial]
      rw [Server.loseBridge_eq hfirst]
      cases p with
      | active sid =>
          rw [hseated sid rfl]
          refine .closed fun sid' => ?_
          show (v.removeAt (.active sid)).bridge? (.active sid') = _
          rw [Server.bridge?_removeAt, hv]
          simp
      | suspended k =>
          rw [hunseated k rfl]
          refine .same neutral_nil fun sid' => ?_
          show (v.removeAt (.suspended k)).bridge? (.active sid') = _
          rw [suspended_removed, hv]
  | exception =>
      simp only [Server.readSerial]
      rw [Server.loseBridge_eq hfirst]
      cases p with
      | active sid => exact absurd rfl (hloud sid rfl)
      | suspended k =>
          refine .same neutral_nil fun sid' => ?_
          show (v.removeAt (.suspended k)).bridge? (.active sid') = _
          rw [suspended_removed, hv]

theorem read_tells (h : s.Tidy) (hs : Seated s) (conn : Nat) (answer : ReadAnswer)
    (hloud : s.leavesSilently P now (.read conn answer) = false) :
    Tells s (exec P now s (.read conn answer)).2 (exec P now s (.read conn answer)).1 := by
  simp only [exec]
  cases hr : s.readers.find? fun t => t.serial.conn == conn with
  | none => exact .same neutral_nil fun _ => rfl
  | some r =>
      dsimp only
      unfold Server.serialReader
      cases hget : s.getBridgeBySession r.sessionId with
      | none => exact .same neutral_nil fun _ => rfl
      | some e =>
          obtain ⟨p, b⟩ := e
          have hfirst : s.firstPlace (fun b => b.sessionId == r.sessionId) = some (p, b) :=
            (h.firstPlace r.sessionId).symm.trans hget
          have hb := (Server.firstPlace_some hfirst).1
          have hseated : ∀ sid, p = .active sid → b.sid = some sid := fun sid hp =>
            hs.active sid b (hp ▸ hb)
          have hunseated : ∀ k, p = .suspended k → b.sid = none := fun k hp =>
            hs.suspended k b (hp ▸ hb)
          have hsilent : ∀ sid, p = .active sid → s.seesEnd P now r b = false ∧
              answer ≠ .exception := by
            rintro sid rfl
            simp only [Server.leavesSilently, hr, hget, Bool.or_eq_false_iff] at hloud
            refine ⟨hloud.1, ?_⟩
            rintro rfl
            exact absurd hloud.2 (by decide)
          dsimp only
          split
          · rename_i hdue
            split
            · refine readSerial_tells (fun _ => rfl) ?_ hseated hunseated fun sid hp =>
                (hsilent sid hp).2
              exact hfirst
            · rename_i hover
              rw [Server.loseBridge_eq hfirst]
              cases p with
              | active sid =>
                  have hsees := (hsilent sid rfl).1
                  rw [Server.seesEnd, decide_eq_true hdue, Bool.true_and,
                    Bool.not_eq_false'] at hsees
                  exact absurd hsees hover
              | suspended k =>
                  exact .same neutral_nil fun sid' => suspended_removed (s := s) (k := k) sid'
          · exact readSerial_tells (fun _ => rfl) hfirst hseated hunseated fun sid hp =>
              (hsilent sid hp).2

/-! ### Requests -/

/-- A seat that is taken, and the socket is told. -/
theorem Tells.granted {i : Nat} {deviceName portLabel : String} {baud : Option Int}
    (houts : ∀ o ∈ outs, o.Neutral) (hseat : s'.seat sid = some i)
    (hother : ∀ sid', sid' ≠ sid → s'.seat sid' = s.seat sid') :
    Tells s (outs ++ [.sessionGranted sid i deviceName portLabel baud]) s' := by
  intro sid'
  rw [told_append, told_neutral houts]
  show (if sid = sid' then some i else s.seat sid') = s'.seat sid'
  by_cases hsid : sid' = sid
  · rw [if_pos hsid.symm, hsid, hseat]
  · rw [if_neg (Ne.symm hsid), hother sid' hsid]

/-- **A resume**: where it does not succeed, every seat is as it was. -/
theorem resumeBridge_seats (i : Nat) (waiting : List UInt8) :
    (∀ o ∈ (s.resumeBridge P now sid i waiting).2.2, o.Neutral) ∧
      ((s.resumeBridge P now sid i waiting).2.1 = none →
        ∀ sid', (s.resumeBridge P now sid i waiting).1.seat sid' = s.seat sid') ∧
      ∀ c, (s.resumeBridge P now sid i waiting).2.1 = some c →
        (s.resumeBridge P now sid i waiting).1.seat sid = some i ∧ ∀ sid', sid' ≠ sid →
          (s.resumeBridge P now sid i waiting).1.seat sid' = s.seat sid' := by
  have hends := resumption P now s sid i waiting
  generalize s.resumeBridge P now sid i waiting = out at hends ⊢
  cases hends with
  | unknown => exact ⟨neutral_nil, fun _ _ => rfl, fun _ he => by cases he⟩
  | elsewhere => exact ⟨neutral_nil, fun _ _ => rfl, fun _ he => by cases he⟩
  | expired => exact ⟨neutral_nil, fun _ _ => rfl, fun _ he => by cases he⟩
  | @resumed b hb =>
      have hkey : b.sessionId = i := s.suspended.keyed i b hb
      have hflush : (∀ o ∈ ((s.rebind P now sid i b).flushWaiting P sid b.serial waiting).2,
          o.Neutral) ∧ ∀ sid', ((s.rebind P now sid i b).flushWaiting P sid b.serial
            waiting).1.seat sid' = (s.rebind P now sid i b).seat sid' := by
        unfold Server.flushWaiting
        split
        · exact ⟨neutral_one trivial, fun sid' => seat_modifyAt _ _ _ sid'⟩
        · exact ⟨neutral_nil, fun _ => rfl⟩
      refine ⟨fun o ho => ?_, fun he => (by cases he), fun _ _ => ⟨?_, fun sid' hsid => ?_⟩⟩
      · rcases List.mem_append.mp ho with ho | ho
        · split at ho
          · exact neutral_nil o ho
          · rw [List.mem_singleton.mp ho]
            exact trivial
        · exact hflush.1 o ho
      · rw [hflush.2, Server.seat, rebind_active]
        exact congrArg some hkey
      · rw [hflush.2, Server.seat, bridge?_rebind, if_neg (by simpa using hsid),
          if_neg (fun he => by cases he)]
        rfl

theorem openSession_tells {user : User} {device : Device} {env : RequestEnv}
    (hrows : s.LeaseRows) :
    Tells s (s.openSession P now sid user device env).2
      (s.openSession P now sid user device env).1 := by
  have hends := opening P now sid user device env hrows
  generalize s.openSession P now sid user device env = out at hends ⊢
  cases hends with
  | exceeded => exact .same (neutral_one trivial) fun _ => rfl
  | portless => exact .same (neutral_one trivial) fun _ => rfl
  | taken => exact .same (neutral_one trivial) fun _ => rfl
  | refused => exact .same (neutral_one trivial) fun _ => rfl
  | stranded => exact .same neutral_nil fun _ => rfl
  | started =>
      refine Tells.granted neutral_nil ?_ fun sid' hsid => ?_
      · rw [Server.seat, bridge?_opened, if_pos rfl]
        rfl
      · rw [Server.seat, bridge?_opened, if_neg (by simpa using hsid)]
        rfl

theorem handleRequestSession_tells (h : s.Tidy) (sid : Sid) (deviceId : Nat) (env : RequestEnv) :
    Tells s (s.handleRequestSession P now sid deviceId env).2
      (s.handleRequestSession P now sid deviceId env).1 := by
  obtain ⟨hmoves, -⟩ := admitOrResume_moves P now s (.request sid deviceId env) sid deviceId env h
  have hrows := (hmoves.invariant h fun h m => m.tidy h).leaseRows
  have hadmitted : Tells s (s.admitOrResume P now sid deviceId env).2.1
      (s.admitOrResume P now sid deviceId env).1 := by
    unfold Server.admitOrResume
    split
    · exact .same (neutral_one trivial) fun _ => rfl
    · split
      · exact .same neutral_nil fun _ => rfl
      · rename_i r _
        obtain ⟨hneutral, hfailed, hresumed⟩ :=
          @resumeBridge_seats P now s sid r.id env.waiting
        have hkept : ∀ {outs : List Out}, (∀ o ∈ outs, o.Neutral) →
            (s.resumeBridge P now sid r.id env.waiting).2.1 = none →
            Tells s outs (s.resumeBridge P now sid r.id env.waiting).1 := by
          intro outs houts hnone sid'
          rw [told_neutral houts, hfailed hnone]
        dsimp only
        split
        · rename_i c hc
          exact .granted hneutral (hresumed c hc).1 (hresumed c hc).2
        · rename_i hnone
          split
          · refine hkept (fun o ho => ?_) hnone
            rcases List.mem_append.mp ho with ho | ho
            · exact hneutral o ho
            · rw [List.mem_singleton.mp ho]
              exact trivial
          · exact hkept hneutral hnone
  unfold Server.handleRequestSession
  dsimp only
  split
  · exact hadmitted
  · exact hadmitted.trans (openSession_tells hrows)

/-! ## 3. The whole process -/

theorem deleteCascade_tells (site : Site) (gone : TerminalSession → Bool) (port : Nat → Bool) :
    Tells s [] (s.deleteCascade site gone port) :=
  .same neutral_nil fun _ => deleteCascade_bridge site gone port _

/-- **Every operation but a silent exit tells every socket of its seat**, and a disconnect every
    other one. -/
theorem exec_tells (h : s.Tidy) (hs : Seated s) (op : Op)
    (hloud : s.leavesSilently P now op = false) (sid : Sid) (hsid : op ≠ .disconnect sid) :
    told sid (s.seat sid) (exec P now s op).2 = (exec P now s op).1.seat sid := by
  have hall : (∀ sid', op ≠ .disconnect sid') →
      Tells s (exec P now s op).2 (exec P now s op).1 := by
    intro hop
    cases op with
    | request sid' deviceId env => exact handleRequestSession_tells h sid' deviceId env
    | disconnect sid' => exact absurd rfl (hop sid')
    | clientDisconnect sid' => exact stopBridge_tells sid' "user_disconnect"
    | input sid' data ok => exact writeToSerial_tells sid' data ok
    | heartbeat sid' => exact handleHeartbeat_tells sid'
    | acquire portId sessionId =>
        exact .same neutral_nil fun _ => acquirePortLease_bridge portId sessionId _
    | cleanup => exact cleanup_tells _
    | timeouts => exact stopAll_tells _
    | force i => exact forceDisconnectSession_tells h i
    | read conn answer => exact read_tells h hs conn answer hloud
    | deleteUser u => exact deleteCascade_tells _ _ _
    | deleteDevice d => exact deleteCascade_tells _ _ _
    | deletePort p => exact deleteCascade_tells _ _ _
  by_cases hop : ∃ sid', op = .disconnect sid'
  · obtain ⟨sid', rfl⟩ := hop
    have hne : sid ≠ sid' := fun e => hsid (by rw [e])
    show s.seat sid = (s.suspendBridge P now sid').seat sid
    unfold Server.suspendBridge
    split
    · rfl
    · rename_i b _
      show s.seat sid = ((s.removeAt (.active sid')).putSuspended (b.suspend now)).seat sid
      unfold Server.seat
      rw [Server.bridge?_putSuspended, if_neg nofun, Server.bridge?_removeAt,
        if_neg (by simpa using hne)]
  · exact hall (fun sid' he => hop ⟨sid', he⟩) sid

/-- A seat is taken by a request of its socket. -/
theorem exec_unseated (h : s.Tidy) (op : Op) (hnone : s.seat sid = none)
    (hop : ∀ deviceId env, op ≠ .request sid deviceId env) :
    (exec P now s op).1.seat sid = none := by
  cases hb' : (exec P now s op).1.bridge? (.active sid) with
  | none => rw [Server.seat, hb']; rfl
  | some b' =>
      have hfree : ∀ b, s.bridge? (.active sid) ≠ some b := by
        intro b hb
        rw [Server.seat, hb] at hnone
        cases hnone
      rcases exec_course h op _ b' hb' with ⟨fate, p, b, hb, hcourse⟩ | hnew
      · generalize hq : Place.active sid = q at hcourse
        cases hcourse with
        | same => exact absurd (hq ▸ hb) (hfree _)
        | wrote => cases hq; exact absurd hb (hfree _)
        | beat => cases hq; exact absurd hb (hfree _)
        | read => exact absurd (hq ▸ hb) (hfree _)
        | suspend => cases hq
        | @resume sid' deviceId env b hreq =>
            cases hq
            exact absurd hreq (hop deviceId env)
      · obtain ⟨sid', deviceId, env, hreq, hq⟩ := hnew.request
        cases hq
        exact absurd hreq (hop deviceId env)

end Told

end RetroBridge.Terminal
