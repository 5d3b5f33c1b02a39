/-
  File:      RetroBridge/Terminal/Sends.lean
  Subject:   WHAT AN OPERATION CAN SEND, SAID ONCE: where its terminal output comes from and goes
             to, which connection an input is written to, and what a granted session has.

  * `Bridge.Hears` -- the characters a bridge can pass on: its buffer, its connection, and what a
    thread of its session reads;
  * `Bridge.Reaches` -- the sockets it can pass them on to: its own, or the one that resumes it;
  * `Out.Sent` -- what holds of each event when it is sent;
  * `exec_sends` -- **every event of every operation is sent so**.
-/
import RetroBridge.Terminal.Operations

namespace RetroBridge.Terminal

open Relational Ordered

/-! ## 1. Events and their bridges -/

/-- A character that the bridge can pass on. -/
def Bridge.Hears (s : Server) (b : Bridge) (x : Heard) : Prop :=
  x ∈ b.outputBuffer ∨ x.1 = b.serial ∨ ∃ t ∈ s.readers, t.serial = x.1 ∧ t.sessionId = b.sessionId

/-- A socket that the bridge can send to. -/
inductive Bridge.Reaches (P : Process) (s : Server) (b : Bridge) (sid : Sid) : Prop where
  | own (h : b.sid = some sid)
  /-- The socket of the user whose suspended session it resumes. -/
  | resumed {r : TerminalSession} (hrow : s.sessions.get? r.id = some r)
      (huser : P.currentUser sid = some r.userId) (hid : b.sessionId = r.id)

/-- What holds of an event that an operation sends on its way from `s` to `s'`. -/
def Out.Sent (P : Process) (s s' : Server) : Out → Prop
  | .terminalOutput sid data =>
    ∃ q b, s.bridge? q = some b ∧ b.Reaches P s sid ∧ ∀ x ∈ data, b.Hears s x
  | .written sid serial _ => ∃ b, s.bridge? (.active sid) = some b ∧ b.serial = serial
  | .sessionGranted sid i _ _ _ => ∃ b, s'.bridge? (.active sid) = some b ∧ b.sessionId = i
  | .sessionDenied _ _ | .sessionClosed _ _ | .heartbeatAck _ _ => True

/-- Every event of a list is sent so. -/
def AllSent (P : Process) (s s' : Server) (outs : List Out) : Prop := ∀ o ∈ outs, o.Sent P s s'

section Sends

variable {P : Process} {now : Time} {s s' : Server}

theorem AllSent.nil : AllSent P s s' [] := fun _ h => absurd h List.not_mem_nil

theorem AllSent.one {o : Out} (h : o.Sent P s s') : AllSent P s s' [o] := fun o' ho' => by
  rw [List.mem_singleton.mp ho']
  exact h

theorem AllSent.append {outs outs' : List Out} (h : AllSent P s s' outs)
    (h' : AllSent P s s' outs') : AllSent P s s' (outs ++ outs') := fun o ho =>
  (List.mem_append.mp ho).elim (h o) (h' o)

/-- Closing events say nothing of a bridge. -/
theorem AllSent.closed {outs : List Out}
    (h : ∀ o ∈ outs, ∃ sid reason, o = .sessionClosed sid reason) :
    AllSent P s s' outs := by
  intro o ho
  obtain ⟨sid, reason, rfl⟩ := h o ho
  exact trivial

/-! ## 2. Operation by operation -/

theorem stopBridge_closed (sid : Sid) (reason : String) :
    ∀ o ∈ (s.stopBridge now sid reason).2, ∃ sid reason, o = .sessionClosed sid reason := by
  intro o ho
  unfold Server.stopBridge at ho
  split at ho
  · exact absurd ho List.not_mem_nil
  · exact ⟨sid, reason, List.mem_singleton.mp ho⟩

theorem stopAll_closed (ended : List (Sid × String)) :
    ∀ {s : Server}, ∀ o ∈ (Server.stopAll now ended s).2,
      ∃ sid reason, o = .sessionClosed sid reason := by
  induction ended with
  | nil => intro s o ho; exact absurd ho List.not_mem_nil
  | cons e rest ih =>
      intro s o ho
      rcases List.mem_append.mp ho with ho | ho
      · exact stopBridge_closed e.1 e.2 o ho
      · exact ih o ho

theorem forceDisconnectSession_closed (i : Nat) :
    ∀ o ∈ (s.forceDisconnectSession now i).2, ∃ sid reason, o = .sessionClosed sid reason := by
  intro o ho
  unfold Server.forceDisconnectSession at ho
  split at ho
  · exact stopBridge_closed _ _ o ho
  · split at ho
    · exact absurd ho List.not_mem_nil
    · exact absurd ho List.not_mem_nil

theorem writeToSerial_sends (sid : Sid) (data : String) (ok : Bool) :
    AllSent P s s' (s.writeToSerial now sid data ok).2 := by
  unfold Server.writeToSerial
  split
  · exact .nil
  · rename_i b hb
    split
    · exact .one ⟨b, hb, rfl⟩
    · exact .nil

theorem handleHeartbeat_sends (sid : Sid) : AllSent P s s' (s.handleHeartbeat now sid).2 := by
  unfold Server.handleHeartbeat
  split
  · exact .one trivial
  · split
    · exact .one trivial
    · exact .one trivial

/-- The read of an iteration sends what it reads to the socket of the bridge it has found. -/
theorem readSerial_sends {t : Reader} {p : Place} {b : Bridge} {answer : ReadAnswer} (v : Server)
    (hb : s.bridge? p = some b) (hid : b.sessionId = t.sessionId) (ht : t ∈ s.readers) :
    AllSent P s s' (v.readSerial P now t p b answer).2 := by
  cases answer with
  | nothing => exact .nil
  | data bytes =>
      simp only [Server.readSerial]
      split
      · exact .nil
      · intro o ho
        obtain ⟨sid, hsid', rfl⟩ := List.mem_map.mp ho
        refine ⟨p, b, hb, .own (Option.mem_toList.mp hsid'), fun x hx => ?_⟩
        obtain ⟨c, -, rfl⟩ := List.mem_map.mp hx
        exact Or.inr (Or.inr ⟨t, ht, rfl, hid.symm⟩)
  | serialError text =>
      refine .closed fun o ho => ?_
      obtain ⟨sid, -, rfl⟩ := List.mem_map.mp ho
      exact ⟨_, _, rfl⟩
  | exception => exact .nil

theorem serialReader_sends {t : Reader} {answer : ReadAnswer} (ht : t ∈ s.readers) :
    AllSent P s s' (s.serialReader P now t answer).2 := by
  unfold Server.serialReader
  split
  · exact .nil
  · rename_i p b hget
    obtain ⟨hb, hp⟩ := Server.firstPlace_some hget
    have hid : b.sessionId = t.sessionId := by
      simp only [Bool.and_eq_true, beq_iff_eq] at hp
      exact hp.1
    split
    · split
      · exact readSerial_sends _ hb hid ht
      · exact .nil
    · exact readSerial_sends _ hb hid ht

/-! ## 3. request_session -/

variable (P) in
theorem flushWaiting_spec {sid : Sid} {b : Bridge} (ser : Serial) (waiting : List UInt8)
    (hb : s.bridge? (.active sid) = some b) :
    (∃ c, (s.flushWaiting P sid ser waiting).1.bridge? (.active sid) = some c ∧
        c.sessionId = b.sessionId) ∧
      ∀ o ∈ (s.flushWaiting P sid ser waiting).2,
        ∃ data, o = .terminalOutput sid data ∧ ∀ x ∈ data, x.1 = ser := by
  unfold Server.flushWaiting
  split
  · refine ⟨?_, fun o ho => ⟨_, List.mem_singleton.mp ho, fun x hx => ?_⟩⟩
    · rw [Server.bridge?_modifyAt, if_pos rfl, hb]
      exact ⟨_, rfl, rfl⟩
    · obtain ⟨c, -, rfl⟩ := List.mem_map.mp hx
      rfl
  · exact ⟨⟨b, hb, rfl⟩, fun o ho => absurd ho List.not_mem_nil⟩

variable (P now s') in
/-- **A resume** sends what the suspended bridge has heard, and what waits on its connection. -/
theorem resumeBridge_sends {sid : Sid} {r : TerminalSession} (waiting : List UInt8)
    (hrow : s.sessions.get? r.id = some r) (huser : P.currentUser sid = some r.userId) :
    AllSent P s s' (s.resumeBridge P now sid r.id waiting).2.2 ∧
      ∀ c, (s.resumeBridge P now sid r.id waiting).2.1 = some c →
        ∃ b, (s.resumeBridge P now sid r.id waiting).1.bridge? (.active sid) = some b ∧
          b.sessionId = r.id := by
  have hends := resumption P now s sid r.id waiting
  generalize s.resumeBridge P now sid r.id waiting = out at hends ⊢
  cases hends with
  | unknown => exact ⟨.nil, nofun⟩
  | elsewhere => exact ⟨.nil, nofun⟩
  | expired => exact ⟨.nil, nofun⟩
  | @resumed b hb =>
      have hkey : b.sessionId = r.id := s.suspended.keyed r.id b hb
      have hplace : s.bridge? (.suspended r.id) = some b := hb
      obtain ⟨⟨c, hc, hcid⟩, hflush⟩ :=
        flushWaiting_spec P b.serial waiting (@rebind_active P now s sid r.id b)
      refine ⟨.append ?_ fun o ho => ?_, fun _ _ => ⟨c, hc, hcid.trans hkey⟩⟩
      · split
        · exact .nil
        · exact .one ⟨_, b, hplace, .resumed hrow huser hkey, fun x hx => .inl hx⟩
      · obtain ⟨data, rfl, hdata⟩ := hflush o ho
        exact ⟨_, b, hplace, .resumed hrow huser hkey, fun x hx => .inr (.inl (hdata x hx))⟩

/-- **What is granted has its bridge.** -/
theorem openSession_sends {sid : Sid} {user : User} {device : Device} {env : RequestEnv}
    {v : Server} (hrows : v.LeaseRows) :
    AllSent P s (v.openSession P now sid user device env).1
      (v.openSession P now sid user device env).2 := by
  have hends := opening P now sid user device env hrows
  generalize v.openSession P now sid user device env = out at hends ⊢
  cases hends with
  | exceeded => exact .one trivial
  | portless => exact .one trivial
  | taken => exact .one trivial
  | refused => exact .one trivial
  | stranded => exact .nil
  | started => exact .one ⟨_, (bridge?_opened _).trans (if_pos rfl), rfl⟩

variable (s') in
theorem admitOrResume_sends (sid : Sid) (deviceId : Nat) (env : RequestEnv) :
    ((s.admitOrResume P now sid deviceId env).2.2 = none →
        AllSent P s (s.admitOrResume P now sid deviceId env).1
          (s.admitOrResume P now sid deviceId env).2.1) ∧
      ((s.admitOrResume P now sid deviceId env).2.2 ≠ none →
        AllSent P s s' (s.admitOrResume P now sid deviceId env).2.1) := by
  unfold Server.admitOrResume
  split
  · exact ⟨fun _ => .one trivial, fun h => absurd rfl h⟩
  · rename_i user device hgates
    obtain ⟨huser, -⟩ := gates_some hgates
    split
    · exact ⟨nofun, fun _ => .nil⟩
    · rename_i r hr
      obtain ⟨hrow, hru, -⟩ := existingSession_some hr
      have hsends := fun v => resumeBridge_sends P now v env.waiting hrow (hru ▸ huser)
      dsimp only
      split
      · rename_i c hc
        refine ⟨fun _ => .append (hsends _).1 (.one ?_), fun h => absurd rfl h⟩
        exact (hsends s).2 c hc
      · split
        · exact ⟨fun _ => .append (hsends _).1 (.one trivial), fun h => absurd rfl h⟩
        · exact ⟨nofun, fun _ => (hsends _).1⟩

theorem handleRequestSession_sends {sid : Sid} {deviceId : Nat} {env : RequestEnv} (h : s.Tidy) :
    AllSent P s (s.handleRequestSession P now sid deviceId env).1
      (s.handleRequestSession P now sid deviceId env).2 := by
  obtain ⟨hmoves, -⟩ := admitOrResume_moves P now s (.request sid deviceId env) sid deviceId env h
  have hrows := (hmoves.invariant h fun h m => m.tidy h).leaseRows
  unfold Server.handleRequestSession
  dsimp only
  split
  · rename_i hnone
    exact (admitOrResume_sends s sid deviceId env).1 hnone
  · rename_i user device hud
    refine .append ((admitOrResume_sends _ sid deviceId env).2 (by rw [hud]; nofun)) ?_
    exact openSession_sends hrows

/-! ## 4. The whole process -/

/-- **Every event of every operation is sent so.** -/
theorem exec_sends (h : s.Tidy) (op : Op) :
    AllSent P s (exec P now s op).1 (exec P now s op).2 := by
  cases op with
  | request sid deviceId env => exact handleRequestSession_sends h
  | disconnect sid => exact .nil
  | clientDisconnect sid => exact .closed (stopBridge_closed sid "user_disconnect")
  | input sid data ok => exact writeToSerial_sends sid data ok
  | heartbeat sid => exact handleHeartbeat_sends sid
  | acquire portId sessionId => exact .nil
  | cleanup => exact .nil
  | timeouts => exact .closed (stopAll_closed _)
  | force sessionId => exact .closed (forceDisconnectSession_closed sessionId)
  | read conn answer =>
      simp only [exec]
      split
      · rename_i t ht
        exact serialReader_sends (List.mem_of_find?_eq_some ht)
      · exact .nil
  | deleteUser u => exact .nil
  | deleteDevice d => exact .nil
  | deletePort p => exact .nil

theorem Step.sends {l : Label} (hs : Step P s l s') (h : s.Tidy) :
    AllSent P (s.at l.now) s' l.outs := by
  have hsends : AllSent P (s.at l.now) (exec P l.now (s.at l.now) l.op).1
      (exec P l.now (s.at l.now) l.op).2 := exec_sends (tidy_at h l.now) l.op
  rw [hs.2] at hsends
  exact hsends

end Sends

end RetroBridge.Terminal
