/-
  File:      RetroBridge/Terminal/Course.lean
  Subject:   WHAT AN OPERATION MAKES OF ONE BRIDGE, SAID ONCE: where every bridge after an operation
             comes from, with all its fields.

  * `Server.taken` -- the bytes an operation reads from a device, and the session it reads them for:
    in an iteration of a reading thread, or in the flush of a resume;
  * `Fate`, `Course` -- the six things that can happen to a bridge that stays registered;
  * `Enters` -- a bridge that comes with a new session;
  * `exec_course`, `Step.course` -- **every bridge after an operation is one or the other**;
  * `Seated` -- an active bridge has the socket it is registered under, a suspended one has none;
  * `InOrder` -- what every run without deletions keeps;
  * `tape` -- the bytes read in a run, with their sessions.
-/
import RetroBridge.Terminal.Sends

namespace RetroBridge.Terminal

open Relational Ordered Transition

/-! ## 1. What is read -/

namespace Server

variable (P : Process) (now : Time) (s : Server)

/-- The bridge that a request resumes, if it resumes one: the user's session on the device is
    suspended in this process, in no other, and within its grace period. -/
def resumed? (sid : Sid) (deviceId : Nat) (env : RequestEnv) : Option Bridge :=
  match s.gates P sid deviceId env with
  | .inr _ => none
  | .inl (user, _) =>
    match s.existingSession user.id deviceId with
    | none => none
    | some r =>
      match s.suspended.dict.get? r.id with
      | none => none
      | some b =>
        if s.isBridgeActiveRemotely P now r.id || b.graceOver now then none
        else some (b.resume now sid)

/-- The thread looks at its session's row, and finds the session over. -/
def seesEnd (t : Reader) (b : Bridge) : Bool :=
  decide (seconds bridgeHeartbeatSeconds ≤ now - t.lastHeartbeat) &&
    !s.sessionStillActiveInDb P b.sessionId

/-- **The bytes an operation reads from a device**, and the session it reads them for. -/
def taken : Op → Option (Nat × List UInt8)
  | .read conn (.data bytes) =>
    match s.readers.find? fun t => t.serial.conn == conn with
    | none => none
    | some t =>
      match s.getBridgeBySession t.sessionId with
      | none => none
      | some (_, b) =>
        if s.seesEnd P now t b || bytes.isEmpty then none else some (t.sessionId, bytes)
  | .request sid deviceId env =>
    match s.resumed? P now sid deviceId env with
    | none => none
    | some b =>
      if s.isOpen b.serial && !env.waiting.isEmpty then some (b.sessionId, env.waiting) else none
  | _ => none

/-- How many bytes it reads. -/
def takenLength (op : Op) : Nat :=
  match s.taken P now op with
  | none => 0
  | some (_, bytes) => bytes.length

end Server

/-! ## 2. What happens to a bridge -/

/-- What can happen to a bridge that stays registered. -/
inductive Fate where
  | stays
  | input
  | heartbeat
  | output
  | suspends
  | resumes
  deriving DecidableEq

/-- **What an operation at `now` makes of a bridge that stays registered**, with its place. -/
inductive Course (P : Process) (now : Time) (s : Server) (op : Op) :
    Fate → Place → Bridge → Place → Bridge → Prop where
  | same {p : Place} {b : Bridge} : Course P now s op .stays p b p b
  | wrote {sid : Sid} {data : String} {b : Bridge} (hop : op = .input sid data true) :
      Course P now s op .input (.active sid) b (.active sid)
        { b with bytesSent := b.bytesSent + data.utf8ByteSize, lastActivity := now }
  | beat {sid : Sid} {b : Bridge} (hop : op = .heartbeat sid) :
      Course P now s op .heartbeat (.active sid) b (.active sid) { b with lastActivity := now }
  | read {conn : Nat} {bytes : List UInt8} {ser : Serial} {p : Place} {b : Bridge}
      (hop : op = .read conn (.data bytes))
      (htaken : s.taken P now op = some (b.sessionId, bytes)) :
      Course P now s op .output p b p
        (b.receive now ((P.decode bytes).map (ser, ·)) bytes.length)
  | suspend {sid : Sid} {b : Bridge} (hop : op = .disconnect sid) :
      Course P now s op .suspends (.active sid) b (.suspended b.sessionId) (b.suspend now)
  /-- The flush of a resume counts its bytes, and puts nothing into the buffer. -/
  | resume {sid : Sid} {deviceId : Nat} {env : RequestEnv} {b : Bridge}
      (hop : op = .request sid deviceId env)
      (hresumed : s.resumed? P now sid deviceId env = some (b.resume now sid)) :
      Course P now s op .resumes (.suspended b.sessionId) b (.active sid)
        { b.resume now sid with bytesReceived := b.bytesReceived + s.takenLength P now op }

/-- **A bridge that comes with a new session**: its id is that of no row before. -/
structure Enters (now : Time) (s : Server) (op : Op) (q : Place) (b : Bridge) : Prop where
  request : ∃ sid deviceId env, op = .request sid deviceId env ∧ q = .active sid
  bridge : ∃ ser sid session port, q = .active sid ∧ b = newBridge now ser sid session port
  fresh : s.sessions.get? b.sessionId = none

/-- Where the bridges after an operation come from. -/
def Courses (P : Process) (now : Time) (s : Server) (op : Op) (s' : Server) : Prop :=
  ∀ q b', s'.bridge? q = some b' →
    (∃ fate p b, s.bridge? p = some b ∧ Course P now s op fate p b q b') ∨ Enters now s op q b'

section Course

variable {P : Process} {now : Time} {s s' t : Server} {op : Op}

/-- Nothing has come and nothing has changed. -/
def Back (s s' : Server) : Prop := ∀ q b, s'.bridge? q = some b → s.bridge? q = some b

theorem Back.refl : Back s s := fun _ _ h => h

theorem Back.of_eq (h : ∀ q, s'.bridge? q = s.bridge? q) : Back s s' := fun q _ hb =>
  (h q).symm.trans hb

theorem Back.trans (h : Back s t) (h' : Back t s') : Back s s' := fun q b hb => h q b (h' q b hb)

theorem Back.courses (h : Back s s') : Courses P now s op s' := fun q b hb =>
  Or.inl ⟨_, q, b, h q b hb, .same⟩

/-! ### Bridges that leave -/

theorem back_removeAt (p : Place) : Back s (s.removeAt p) := by
  intro q b hb
  rw [Server.bridge?_removeAt] at hb
  split at hb
  · cases hb
  · exact hb

theorem back_stopBridge (sid : Sid) (reason : String) : Back s (s.stopBridge now sid reason).1 := by
  unfold Server.stopBridge
  split
  · exact .refl
  · exact back_removeAt (.active sid)

theorem back_stopAll (ended : List (Sid × String)) : ∀ {s : Server},
    Back s (Server.stopAll now ended s).1 := by
  induction ended with
  | nil => exact .refl
  | cons e rest ih => exact (back_stopBridge e.1 e.2).trans ih

theorem back_cleanup (ks : List Nat) : ∀ {s : Server},
    Back s (ks.foldl (fun s k => s.cleanupOne now k) s) := by
  induction ks with
  | nil => exact .refl
  | cons k ks ih =>
      intro s
      have hone : Back s (s.cleanupOne now k) := by
        unfold Server.cleanupOne
        split
        · exact .refl
        · exact fun q c hc => @back_removeAt s (.suspended k) q c hc
      exact hone.trans ih

theorem back_loseBridge {p : Place} {b : Bridge} {i : Nat} (ser : Serial)
    (hfirst : s.firstPlace (fun b => b.sessionId == i) = some (p, b)) :
    Back s ((s.loseBridge p b i).dropReader ser) := by
  rw [Server.loseBridge_eq hfirst]
  exact back_removeAt p

theorem back_forceDisconnectSession (h : s.Tidy) (i : Nat) :
    Back s (s.forceDisconnectSession now i).1 := by
  unfold Server.forceDisconnectSession
  split
  · exact back_stopBridge _ _
  · rename_i hactive
    have hactive' := h.active_none hactive
    split
    · rename_i b hb
      rw [Server.loseBridge_eq (Server.firstPlace_suspended hactive' hb)]
      exact fun q c hc => @back_removeAt s (.suspended i) q c hc
    · exact .refl

/-! ### Bridges that change -/

/-- A bridge changes in place. -/
theorem courses_modifyAt {fate : Fate} {p : Place} {f : Bridge → Bridge}
    {hf : ∀ b, (f b).sessionId = b.sessionId}
    (h : ∀ b, s.bridge? p = some b → Course P now s op fate p b p (f b)) :
    Courses P now s op (s.modifyAt p f hf) := by
  intro q b' hb'
  rw [Server.bridge?_modifyAt] at hb'
  split at hb'
  · rename_i hq
    subst hq
    obtain ⟨b, hb, rfl⟩ := Option.map_eq_some_iff.mp hb'
    exact Or.inl ⟨_, q, b, hb, h b hb⟩
  · exact Or.inl ⟨_, q, b', hb', .same⟩

theorem writeToSerial_course (sid : Sid) (data : String) (ok : Bool) :
    Courses P now s (.input sid data ok) (s.writeToSerial now sid data ok).1 := by
  unfold Server.writeToSerial
  split
  · exact Back.refl.courses
  · split
    · rename_i hok
      have htrue : ok = true := (Bool.and_eq_true_iff.mp hok).2
      subst htrue
      exact courses_modifyAt fun b _ => .wrote rfl
    · exact Back.refl.courses

theorem handleHeartbeat_course (sid : Sid) :
    Courses P now s (.heartbeat sid) (s.handleHeartbeat now sid).1 := by
  unfold Server.handleHeartbeat
  split
  · exact Back.refl.courses
  · split
    · exact courses_modifyAt fun b _ => .beat rfl
    · exact Back.refl.courses

theorem suspendBridge_course (sid : Sid) :
    Courses P now s (.disconnect sid) (s.suspendBridge P now sid) := by
  unfold Server.suspendBridge
  split
  · exact Back.refl.courses
  · rename_i b hb
    intro q b' hb'
    change (((s.removeAt (.active sid)).putSuspended (b.suspend now)).bridge? q) = some b' at hb'
    rw [Server.bridge?_putSuspended] at hb'
    split at hb'
    · rename_i hq
      subst hq
      cases hb'
      exact Or.inl ⟨_, .active sid, b, hb, .suspend rfl⟩
    · exact Or.inl ⟨_, q, b', back_removeAt _ q b' hb', .same⟩

/-! ### The reading thread -/

/-- **An iteration of a reading thread**: it reads nothing, or what it reads changes one bridge and
    goes to the bridge's socket. -/
inductive Iteration (P : Process) (now : Time) (s : Server) (op : Op) (s' : Server)
    (outs : List Out) : Prop where
  | idle (htaken : s.taken P now op = none) (hback : Back s s')
      (houts : ∀ o ∈ outs, ∃ sid reason, o = .sessionClosed sid reason)
  | took {conn : Nat} {bytes : List UInt8} {ser : Serial} {p : Place} {b : Bridge}
      (hop : op = .read conn (.data bytes)) (htaken : s.taken P now op = some (b.sessionId, bytes))
      (hb : s.bridge? p = some b)
      (hafter : ∀ q, s'.bridge? q =
        if q = p then some (b.receive now ((P.decode bytes).map (ser, ·)) bytes.length)
        else s.bridge? q)
      (houts : outs =
        b.sid.toList.map fun sid => .terminalOutput sid ((P.decode bytes).map (ser, ·)))

/-- What an iteration reads, where its thread has found a bridge. -/
theorem taken_read {conn : Nat} {t : Reader} {p : Place} {b : Bridge}
    (hfind : (s.readers.find? fun t => t.serial.conn == conn) = some t)
    (hget : s.getBridgeBySession t.sessionId = some (p, b)) (bytes : List UInt8) :
    s.taken P now (.read conn (.data bytes)) =
      if s.seesEnd P now t b || bytes.isEmpty then none else some (t.sessionId, bytes) := by
  simp only [Server.taken, hfind, hget]

/-- The read of an iteration, after the lookup and the check. -/
theorem readSerial_iteration {t : Reader} {p : Place} {b : Bridge} {conn : Nat}
    {answer : ReadAnswer} {v : Server} (hv : ∀ q, v.bridge? q = s.bridge? q)
    (hfirst : v.firstPlace (fun b => b.sessionId == t.sessionId) = some (p, b))
    (htaken : ∀ bytes, s.taken P now (.read conn (.data bytes)) =
      if bytes.isEmpty then none else some (b.sessionId, bytes)) :
    Iteration P now s (.read conn answer) (v.readSerial P now t p b answer).1
      (v.readSerial P now t p b answer).2 := by
  have hlose := (Back.of_eq hv).trans (back_loseBridge t.serial hfirst)
  cases answer with
  | nothing => exact .idle rfl (Back.of_eq hv) fun o ho => absurd ho List.not_mem_nil
  | serialError text =>
      refine .idle rfl hlose fun o ho => ?_
      obtain ⟨sid, -, rfl⟩ := List.mem_map.mp ho
      exact ⟨_, _, rfl⟩
  | exception => exact .idle rfl hlose fun o ho => absurd ho List.not_mem_nil
  | data bytes =>
      have htook := htaken bytes
      simp only [Server.readSerial]
      cases hempty : bytes.isEmpty with
      | true =>
          rw [hempty] at htook
          exact .idle htook (Back.of_eq hv) fun o ho => absurd ho List.not_mem_nil
      | false =>
          rw [hempty] at htook
          have hb : v.bridge? p = some b := (Server.firstPlace_some hfirst).1
          refine .took rfl htook ((hv p).symm.trans hb) (fun q => ?_) rfl
          have hmod := v.bridge?_modifyAt p (Bridge.receive now
            ((P.decode bytes).map (t.serial, ·)) bytes.length) (fun _ => rfl) q
          refine hmod.trans ?_
          rw [hv]
          split
          · rename_i hq
            rw [hq, ← hv, hb]
            rfl
          · rfl

/-- **Every iteration is one.** -/
theorem read_iteration (h : s.Tidy) (conn : Nat) (answer : ReadAnswer) :
    Iteration P now s (.read conn answer) (exec P now s (.read conn answer)).1
      (exec P now s (.read conn answer)).2 := by
  have hnone : ∀ {w : Server}, Back s w →
      (∀ bytes, s.taken P now (.read conn (.data bytes)) = none) →
      Iteration P now s (.read conn answer) w [] := by
    intro w hback htaken
    refine .idle ?_ hback fun o ho => absurd ho List.not_mem_nil
    cases answer with
    | data bytes => exact htaken bytes
    | nothing => rfl
    | serialError text => rfl
    | exception => rfl
  cases hfind : s.readers.find? fun t => t.serial.conn == conn with
  | none =>
      rw [exec, hfind]
      exact hnone .refl fun bytes => by simp only [Server.taken, hfind]
  | some t =>
      rw [exec, hfind]
      dsimp only
      rw [Server.serialReader]
      cases hget : s.getBridgeBySession t.sessionId with
      | none =>
          refine hnone (fun q b hb => hb) fun bytes => ?_
          simp only [Server.taken, hfind, hget]
      | some found =>
          obtain ⟨p, b⟩ := found
          have hfirst : s.firstPlace (fun b => b.sessionId == t.sessionId) = some (p, b) :=
            (h.firstPlace t.sessionId).symm.trans hget
          have hid : b.sessionId = t.sessionId := beq_iff_eq.mp (Server.firstPlace_some hfirst).2
          -- the thread goes on to the read unless it finds its session over
          have hgo : s.seesEnd P now t b = false →
              ∀ bytes, s.taken P now (.read conn (.data bytes)) =
                if bytes.isEmpty then none else some (b.sessionId, bytes) := by
            intro hends bytes
            rw [taken_read hfind hget, hends, Bool.false_or, hid]
          dsimp only
          by_cases hdue : seconds bridgeHeartbeatSeconds ≤ now - t.lastHeartbeat
          · rw [if_pos hdue]
            cases hactive : s.sessionStillActiveInDb P b.sessionId with
            | true =>
                refine readSerial_iteration (fun _ => rfl) hfirst (hgo ?_)
                rw [Server.seesEnd, hactive, Bool.not_true, Bool.and_false]
            | false =>
                refine hnone (back_loseBridge t.serial hfirst) fun bytes => ?_
                rw [taken_read hfind hget, Server.seesEnd, decide_eq_true hdue, hactive]
                rfl
          · rw [if_neg hdue]
            refine readSerial_iteration (fun _ => rfl) hfirst (hgo ?_)
            rw [Server.seesEnd, decide_eq_false hdue, Bool.false_and]

theorem read_course (h : s.Tidy) (conn : Nat) (answer : ReadAnswer) :
    Courses P now s (.read conn answer) (exec P now s (.read conn answer)).1 := by
  cases @read_iteration P now s h conn answer with
  | idle htaken hback houts => exact hback.courses
  | @took conn bytes ser p b hop htaken hb hafter houts =>
      intro q b' hb'
      rw [hafter] at hb'
      split at hb'
      · rename_i hq
        cases hb'
        rw [hq]
        exact Or.inl ⟨_, p, b, hb, .read hop htaken⟩
      · exact Or.inl ⟨_, q, b', hb', .same⟩

/-! ### request_session -/

/-- A session is opened, and its bridge with it; every other bridge stays. -/
theorem openSession_course {sid : Sid} {deviceId : Nat} {user : User} {device : Device}
    {env : RequestEnv} {v : Server} (hrows : v.LeaseRows)
    (hold : ∀ i r, s.sessions.get? i = some r → ∃ r', v.sessions.get? i = some r')
    (hback : ∀ q b', v.bridge? q = some b' → ∃ fate p b, s.bridge? p = some b ∧
      Course P now s (.request sid deviceId env) fate p b q b') :
    Courses P now s (.request sid deviceId env) (v.openSession P now sid user device env).1 := by
  have hkeep : ∀ w : Server, (∀ q, w.bridge? q = v.bridge? q) →
      Courses P now s (.request sid deviceId env) w := by
    intro w hw q b' hb'
    rw [hw q] at hb'
    exact Or.inl (hback q b' hb')
  have hends := opening P now sid user device env hrows
  generalize v.openSession P now sid user device env = out at hends ⊢
  cases hends with
  | exceeded => exact hkeep v fun _ => rfl
  | portless => exact hkeep v fun _ => rfl
  | taken => exact hkeep _ fun _ => rfl
  | refused => exact hkeep _ fun _ => rfl
  | stranded => exact hkeep _ fun _ => rfl
  | @started port =>
      intro q b' hb'
      change (v.opened P now sid user.id device.id port).bridge? q = some b' at hb'
      rw [bridge?_opened] at hb'
      split at hb'
      · rename_i hq
        cases hb'
        refine Or.inr ⟨⟨sid, deviceId, env, rfl, hq⟩, ⟨_, sid, _, port, hq, rfl⟩, ?_⟩
        show s.sessions.get? v.sessions.nextKey = none
        cases hs : s.sessions.get? v.sessions.nextKey with
        | none => rfl
        | some r =>
            obtain ⟨r', hr'⟩ := hold _ r hs
            rw [Table.get?_nextKey] at hr'
            cases hr'
      · exact Or.inl (hback q b' hb')

/-- The bridge a resume puts under its new socket. -/
theorem flushWaiting_bridge {sid : Sid} {b : Bridge} {waiting : List UInt8} {v : Server}
    (hb : v.bridge? (.active sid) = some b) (q : Place) :
    (v.flushWaiting P sid b.serial waiting).1.bridge? q =
      if q = .active sid then
        some { b with bytesReceived := b.bytesReceived +
          (if v.isOpen b.serial && !waiting.isEmpty then waiting.length else 0) }
      else v.bridge? q := by
  unfold Server.flushWaiting
  split
  · rename_i hflush
    have hmod := v.bridge?_modifyAt (.active sid)
      (fun b => { b with bytesReceived := b.bytesReceived + waiting.length }) (fun _ => rfl) q
    refine hmod.trans ?_
    by_cases hq : q = .active sid
    · rw [if_pos hq, if_pos hq, hq, hb]
      rfl
    · rw [if_neg hq, if_neg hq]
  · rename_i hflush
    by_cases hq : q = .active sid
    · rw [if_pos hq, hq]
      exact hb
    · rw [if_neg hq]

/-- A request that resumes: who asks, for which session, and the suspended bridge. -/
theorem resumed?_cases {sid : Sid} {deviceId : Nat} {env : RequestEnv} {c : Bridge}
    (h : s.resumed? P now sid deviceId env = some c) :
    ∃ user device r b, s.gates P sid deviceId env = .inl (user, device) ∧
      s.existingSession user.id deviceId = some r ∧ s.suspended.dict.get? r.id = some b ∧
      s.isBridgeActiveRemotely P now r.id = false ∧ b.graceOver now = false ∧
      c = b.resume now sid := by
  unfold Server.resumed? at h
  split at h
  · cases h
  · rename_i user device hgates
    split at h
    · cases h
    · rename_i r hr
      split at h
      · cases h
      · rename_i b hb
        split at h
        · cases h
        · rename_i hstays
          obtain ⟨hremote, hgrace⟩ := Bool.or_eq_false_iff.mp (Bool.eq_false_iff.mpr hstays)
          exact ⟨user, device, r, b, hgates, hr, hb, hremote, hgrace, (Option.some.inj h).symm⟩

/-- **What is resumed was suspended.** -/
theorem resumed?_some {sid : Sid} {deviceId : Nat} {env : RequestEnv} {c : Bridge}
    (h : s.resumed? P now sid deviceId env = some c) :
    ∃ b, s.bridge? (.suspended b.sessionId) = some b ∧ c = b.resume now sid := by
  obtain ⟨-, -, r, b, -, -, hb, -, -, hc⟩ := resumed?_cases h
  have hkey : b.sessionId = r.id := s.suspended.keyed r.id b hb
  refine ⟨b, ?_, hc⟩
  rw [hkey]
  exact hb

/-- The bridge that a resume returns. -/
theorem resumeBridge_bridge (sid : Sid) (i : Nat) (waiting : List UInt8) :
    (s.resumeBridge P now sid i waiting).2.1 =
      match s.suspended.dict.get? i with
      | none => none
      | some b =>
        if s.isBridgeActiveRemotely P now i || b.graceOver now then none
        else some (b.resume now sid) := by
  have hends := resumption P now s sid i waiting
  generalize s.resumeBridge P now sid i waiting = out at hends ⊢
  cases hends with
  | unknown hb => rw [hb]
  | elsewhere hb hremote =>
      rw [hb, hremote]
      rfl
  | expired hb hremote hgrace =>
      rw [hb]
      dsimp only
      rw [hremote, hgrace]
      rfl
  | resumed hb hremote hgrace =>
      rw [hb]
      dsimp only
      rw [hremote, hgrace]
      rfl

/-- **A resume that fails** adds no bridge and moves none. -/
theorem resumeBridge_back {sid : Sid} {i : Nat} {waiting : List UInt8}
    (h : (s.resumeBridge P now sid i waiting).2.1 = none) :
    Back s (s.resumeBridge P now sid i waiting).1 := by
  have hends := resumption P now s sid i waiting
  generalize s.resumeBridge P now sid i waiting = out at hends h ⊢
  cases hends with
  | unknown => exact .refl
  | @elsewhere b hb =>
      intro q c hc
      rw [Server.bridge?_putSuspended, s.suspended.keyed i b hb] at hc
      split at hc
      · rename_i hq
        rw [hq, ← hc]
        exact hb
      · exact back_removeAt _ q c hc
  | expired => exact fun q c hc => @back_removeAt s (.suspended i) q c hc
  | resumed => cases h

/-- What a request that resumes a bridge reads. -/
theorem taken_request {sid : Sid} {deviceId : Nat} {env : RequestEnv} {b : Bridge}
    (h : s.resumed? P now sid deviceId env = some b) :
    s.taken P now (.request sid deviceId env) =
      if s.isOpen b.serial && !env.waiting.isEmpty then some (b.sessionId, env.waiting)
      else none := by
  show (match s.resumed? P now sid deviceId env with
    | none => none
    | some b => if s.isOpen b.serial && !env.waiting.isEmpty then some (b.sessionId, env.waiting)
      else none) = _
  rw [h]

theorem takenLength_request {sid : Sid} {deviceId : Nat} {env : RequestEnv} {b : Bridge}
    (h : s.resumed? P now sid deviceId env = some b) :
    s.takenLength P now (.request sid deviceId env) =
      if s.isOpen b.serial && !env.waiting.isEmpty then env.waiting.length else 0 := by
  rw [Server.takenLength, taken_request h]
  split_ifs <;> rfl

/-- **A resume**: the suspended bridge of the session goes under its new socket. -/
theorem resumeBridge_course {sid : Sid} {deviceId i : Nat} {env : RequestEnv}
    (hresumed : s.resumed? P now sid deviceId env =
      (s.resumeBridge P now sid i env.waiting).2.1) :
    ∀ q b', (s.resumeBridge P now sid i env.waiting).1.bridge? q = some b' →
      ∃ fate p b, s.bridge? p = some b ∧
        Course P now s (.request sid deviceId env) fate p b q b' := by
  by_cases hnone : (s.resumeBridge P now sid i env.waiting).2.1 = none
  · exact fun q b' hb' => ⟨_, q, b', resumeBridge_back hnone q b' hb', .same⟩
  have hends := resumption P now s sid i env.waiting
  generalize s.resumeBridge P now sid i env.waiting = out at hends hresumed hnone ⊢
  cases hends with
  | unknown => exact absurd rfl hnone
  | elsewhere => exact absurd rfl hnone
  | expired => exact absurd rfl hnone
  | @resumed b hb =>
      intro q b' hb'
      have hplace : s.bridge? (.suspended b.sessionId) = some b := by
        rw [s.suspended.keyed i b hb]
        exact hb
      have hflush := @flushWaiting_bridge P sid (b.resume now sid) env.waiting _
        (@rebind_active P now s sid i b) q
      have hafter := hflush.symm.trans hb'
      split at hafter
      · rename_i hq
        cases hafter
        refine ⟨.resumes, .suspended b.sessionId, b, hplace, ?_⟩
        have hcourse := @Course.resume P now s (.request sid deviceId env) sid deviceId env b rfl
          hresumed
        rw [takenLength_request hresumed] at hcourse
        rw [hq]
        exact hcourse
      · rename_i hq
        rw [bridge?_rebind, if_neg hq] at hafter
        split at hafter
        · cases hafter
        · exact ⟨_, q, b', hafter, .same⟩

variable (P now s) in
/-- The state a request leaves up to the port loop: the one it finds, or that of a resume. -/
theorem admitOrResume_state (sid : Sid) (deviceId : Nat) (env : RequestEnv) :
    (s.admitOrResume P now sid deviceId env).1 = s ∨
      ∃ i, (s.admitOrResume P now sid deviceId env).1 =
          (s.resumeBridge P now sid i env.waiting).1 ∧
        s.resumed? P now sid deviceId env = (s.resumeBridge P now sid i env.waiting).2.1 := by
  unfold Server.admitOrResume
  cases hgates : s.gates P sid deviceId env with
  | inr reason => exact .inl rfl
  | inl who =>
      obtain ⟨user, device⟩ := who
      dsimp only
      cases hr : s.existingSession user.id deviceId with
      | none => exact .inl rfl
      | some r =>
          refine .inr ⟨r.id, ?_, ?_⟩
          · dsimp only
            split
            · rfl
            · split <;> rfl
          · rw [resumeBridge_bridge, Server.resumed?, hgates]
            dsimp only
            rw [hr]

/-- **The request up to the resume.** -/
theorem admitOrResume_course (sid : Sid) (deviceId : Nat) (env : RequestEnv) :
    ∀ q b', (s.admitOrResume P now sid deviceId env).1.bridge? q = some b' →
      ∃ fate p b, s.bridge? p = some b ∧
        Course P now s (.request sid deviceId env) fate p b q b' := by
  rcases admitOrResume_state P now s sid deviceId env with hsame | ⟨i, hafter, hresumed⟩
  · rw [hsame]
    exact fun q b hb => ⟨_, q, b, hb, .same⟩
  · rw [hafter]
    exact resumeBridge_course hresumed

theorem handleRequestSession_course (h : s.Tidy) (sid : Sid) (deviceId : Nat) (env : RequestEnv) :
    Courses P now s (.request sid deviceId env)
      (s.handleRequestSession P now sid deviceId env).1 := by
  obtain ⟨hmoves, -⟩ := admitOrResume_moves P now s (.request sid deviceId env) sid deviceId env h
  have hcourse := @admitOrResume_course P now s sid deviceId env
  unfold Server.handleRequestSession
  dsimp only
  split
  · exact fun q b' hb' => Or.inl (hcourse q b' hb')
  · refine openSession_course (hmoves.invariant h fun h m => m.tidy h).leaseRows ?_ hcourse
    intro i r hr
    exact hmoves.invariant (I := fun v => ∃ r', v.sessions.get? i = some r') ⟨r, hr⟩
      fun h m => h.elim fun r' hr' => m.row_stays rfl hr'

/-! ## 3. The whole process -/

theorem deleteCascade_bridge (site : Site) (gone : TerminalSession → Bool) (port : Nat → Bool)
    (q : Place) : (s.deleteCascade site gone port).bridge? q = s.bridge? q := by
  unfold Server.deleteCascade
  split <;> rfl

theorem acquirePortLease_bridge (portId sessionId : Nat) (q : Place) :
    (s.acquirePortLease P now portId sessionId).1.bridge? q = s.bridge? q := by
  unfold Server.acquirePortLease
  dsimp only
  split <;> rfl

/-- **Where every bridge after an operation comes from.** -/
theorem exec_course (h : s.Tidy) (op : Op) : Courses P now s op (exec P now s op).1 := by
  cases op with
  | request sid deviceId env => exact handleRequestSession_course h sid deviceId env
  | disconnect sid => exact suspendBridge_course sid
  | clientDisconnect sid => exact (back_stopBridge sid "user_disconnect").courses
  | input sid data ok => exact writeToSerial_course sid data ok
  | heartbeat sid => exact handleHeartbeat_course sid
  | acquire portId sessionId =>
      exact (Back.of_eq (acquirePortLease_bridge portId sessionId)).courses
  | cleanup => exact (back_cleanup _).courses
  | timeouts => exact (back_stopAll _).courses
  | force sessionId => exact (back_forceDisconnectSession h sessionId).courses
  | read conn answer => exact read_course h conn answer
  | deleteUser u => exact (Back.of_eq (deleteCascade_bridge _ _ _)).courses
  | deleteDevice d => exact (Back.of_eq (deleteCascade_bridge _ _ _)).courses
  | deletePort p => exact (Back.of_eq (deleteCascade_bridge _ _ _)).courses

theorem Step.course {l : Label} (hs : Step P s l s') (h : s.Tidy) :
    Courses P l.now (s.at l.now) l.op s' := by
  have hcourse : Courses P l.now (s.at l.now) l.op (exec P l.now (s.at l.now) l.op).1 :=
    exec_course (tidy_at h l.now) l.op
  rw [hs.2] at hcourse
  exact hcourse

/-- A bridge keeps its session. -/
theorem Course.sessionId {fate : Fate} {p q : Place} {b b' : Bridge}
    (h : Course P now s op fate p b q b') : b'.sessionId = b.sessionId := by cases h <;> rfl

/-! ### Seats -/

/-- **Seated**: an active bridge has the socket it is registered under, a suspended one has none. -/
structure Seated (s : Server) : Prop where
  active : ∀ sid b, s.bridge? (.active sid) = some b → b.sid = some sid
  suspended : ∀ k b, s.bridge? (.suspended k) = some b → b.sid = none

theorem Step.seated {l : Label} (hs : Step P s l s') (ht : s.Tidy) (h : Seated s) : Seated s' := by
  have hcourse := hs.course ht
  refine ⟨fun sid b' hb' => ?_, fun k b' hb' => ?_⟩
  · obtain ⟨fate, p, b, hb, hc⟩ | hnew := hcourse _ b' hb'
    · generalize hq : Place.active sid = q at hc
      cases hc with
      | same =>
          subst hq
          exact h.active sid b' hb
      | wrote =>
          cases hq
          exact h.active sid b hb
      | beat =>
          cases hq
          exact h.active sid b hb
      | read =>
          subst hq
          exact h.active sid b hb
      | suspend => cases hq
      | resume =>
          cases hq
          rfl
    · obtain ⟨ser, sid', session, port, hq, rfl⟩ := hnew.bridge
      cases hq
      rfl
  · obtain ⟨fate, p, b, hb, hc⟩ | hnew := hcourse _ b' hb'
    · generalize hq : Place.suspended k = q at hc
      cases hc with
      | same =>
          subst hq
          exact h.suspended k b' hb
      | wrote => cases hq
      | beat => cases hq
      | read =>
          subst hq
          exact h.suspended k b hb
      | suspend => rfl
      | resume => cases hq
    · obtain ⟨ser, sid', session, port, hq, rfl⟩ := hnew.bridge
      cases hq

/-! ### Runs -/

theorem tidy_run {s₀ : Server} {ls : List Label} (h0 : s₀.Started) (hrows : s₀.LeaseRows)
    (h : Run (Step P) s₀ ls s) : s.Tidy :=
  h.invariant ⟨fun _ _ hb => absurd hb h0.no_bridge, hrows⟩ fun _ l _ ht hs =>
    (hs.moves ht).invariant (tidy_at ht l.now) fun ht m => m.tidy ht

/-- What the runs of this process keep: running bridges with their rows, one a session, each in its
    seat. -/
structure InOrder (s : Server) : Prop where
  tidy : s.Tidy
  distinct : Distinct s
  seated : Seated s

/-- No deletion of the admin. -/
def NoDeletion (_ : Server) (l : Label) : Prop := l.op.deletes = false

theorem Step.inOrder {l : Label} (hs : Step P s l s') (hop : NoDeletion s l) (h : InOrder s) :
    InOrder s' where
  tidy := (hs.moves h.tidy).invariant (tidy_at h.tidy l.now) fun ht m => m.tidy ht
  distinct := (hs.moves h.tidy).invariant (h.distinct.at l.now) fun hd m => m.distinct hop hd
  seated := hs.seated h.tidy h.seated

theorem InOrder.at (h : InOrder s) (now : Time) : InOrder (s.at now) :=
  ⟨tidy_at h.tidy now, h.distinct.at now, h.seated.active, h.seated.suspended⟩

theorem Server.Started.inOrder (h : s.Started) (hrows : s.LeaseRows) : InOrder s where
  tidy := ⟨fun _ _ hb => absurd hb h.no_bridge, hrows⟩
  distinct := ⟨fun _ _ _ _ hb => absurd hb h.no_bridge, fun _ _ hb => absurd hb h.no_bridge⟩
  seated := ⟨fun _ _ hb => absurd hb h.no_bridge, fun _ _ hb => absurd hb h.no_bridge⟩

/-! ## 4. The tape of a run -/

/-- The process after a label. -/
def after (P : Process) (s : Server) (l : Label) : Server := (exec P l.now (s.at l.now) l.op).1

theorem Step.after_eq {l : Label} (hs : Step P s l s') : after P s l = s' := congrArg Prod.fst hs.2

/-- The label of an operation, with what it sends. -/
def label (P : Process) (s : Server) (now : Time) (op : Op) : Label :=
  ⟨now, op, (exec P now (s.at now) op).2⟩

/-- An operation at a time that the clock allows. -/
theorem step_label (hnow : s.clock ≤ now) :
    Step P s (label P s now op) (after P s (label P s now op)) :=
  ⟨hnow, rfl⟩

/-- **What a run reads**, in order, each read with its session. -/
def tape (P : Process) : Server → List Label → List (Nat × List UInt8) :=
  observe (after P) (fun read s l => read ++ ((s.at l.now).taken P l.now l.op).toList) []

theorem tape_concat {s₀ : Server} {ls : List Label} (h : Run (Step P) s₀ ls s) (l : Label) :
    tape P s₀ (ls ++ [l]) = tape P s₀ ls ++ ((s.at l.now).taken P l.now l.op).toList := by
  rw [tape, observe_concat, h.foldl_next fun _ _ _ hs => hs.after_eq]

/-- The reads of one session. -/
def chunks (i : Nat) (read : List (Nat × List UInt8)) : List (List UInt8) :=
  (read.filter fun e => e.1 == i).map Prod.snd

/-- The text of the reads that are for the session. -/
def heardText (P : Process) (i : Nat) (read : List (Nat × List UInt8)) : List Char :=
  (chunks i read).flatMap P.decode

@[simp] theorem chunks_nil (i : Nat) : chunks i [] = [] := rfl

theorem chunks_append (i : Nat) (read read' : List (Nat × List UInt8)) :
    chunks i (read ++ read') = chunks i read ++ chunks i read' := by
  rw [chunks, chunks, chunks, List.filter_append, List.map_append]

theorem chunks_other {i j : Nat} {bytes : List UInt8} (hne : j ≠ i) :
    chunks i [(j, bytes)] = [] := by
  rw [chunks, List.filter_cons, beq_false_of_ne hne]
  rfl

theorem chunks_own (i : Nat) (bytes : List UInt8) : chunks i [(i, bytes)] = [bytes] := by
  rw [chunks, List.filter_cons, if_pos (beq_self_eq_true i)]
  rfl

theorem heardText_append (i : Nat) (read read' : List (Nat × List UInt8)) :
    heardText P i (read ++ read') = heardText P i read ++ heardText P i read' := by
  rw [heardText, heardText, heardText, chunks_append, List.flatMap_append]

theorem heardText_other {i j : Nat} {bytes : List UInt8} (hne : j ≠ i) :
    heardText P i [(j, bytes)] = [] := by
  rw [heardText, chunks_other hne, List.flatMap_nil]

theorem heardText_own (i : Nat) (bytes : List UInt8) :
    heardText P i [(i, bytes)] = P.decode bytes := by
  rw [heardText, chunks_own, List.flatMap_singleton]

end Course

end RetroBridge.Terminal
