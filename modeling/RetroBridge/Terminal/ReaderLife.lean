/-
  File:      RetroBridge/Terminal/ReaderLife.lean
  Subject:   THE READING THREAD ACROSS SUSPEND AND RESUME (retrobridge/terminal/utils.py:
             `_serial_reader`, `suspend_bridge`, `resume_bridge`).

  * `Attends` -- a session's bridges in a process: all over one connection, all running, with the
    thread that reads it;
  * `SuspendResume` -- the steps of the session's suspends and resumes and of its reading thread,
    with its row active and owned and no error of the device;
  * `Unpopped` -- no iteration of the reading thread falls between the two lock sections of a
    resume, where the bridge is in neither registry;
  * `reader_life_run` -- **in a run of such steps the reading thread does not exit**, so that a
    bridge of the session always has it;
  * `reader_exits` -- an iteration between the two sections: the bridge is active again, unread.
-/
import RetroBridge.Terminal.Cluster

namespace RetroBridge.Terminal

open Relational Ordered Transition Interleaved

/-! ## 1. The property -/

/-- The thread that reads connection `ser` for session `i` is in its loop. -/
def HasReader (i : Nat) (ser : Serial) (s : Server) : Prop :=
  ∃ t ∈ s.readers, t.serial = ser ∧ t.sessionId = i

/-- **A session is attended**: its thread is in its loop, and whatever bridge of it is registered
    runs over the connection that the thread reads. -/
structure Attends (i : Nat) (ser : Serial) (s : Server) : Prop where
  reader : HasReader i ser s
  own : ∀ t ∈ s.readers, t.serial = ser → t.sessionId = i
  bridge : ∀ q b, s.bridge? q = some b → b.sessionId = i → b.serial = ser ∧ b.running = true

/-- A bridge of the session is registered. -/
def Registered (i : Nat) (s : Server) : Prop := ∃ q b, s.bridge? q = some b ∧ b.sessionId = i

/-- The bridge that a resume has popped and not yet put anywhere. -/
def Phase.held? : Phase → Option Held
  | .resuming h | .putting h | .reattaching h => some h
  | _ => none

/-- The handlers of a suspend, and of a resume of session `i`. -/
def Phase.suspendsOrResumes (i : Nat) : Phase → Bool
  | .idle | .requested _ _ | .gated _ | .unresumed _ _ | .flushing _ _ => true
  | .found _ r => r.id == i
  | .resuming h | .putting h | .reattaching h | .resumed h => h.id == i
  | .disconnecting _ | .suspending _ => true
  | _ => false

/-- The thread that reads connection `conn` does so for session `i`. -/
def Server.readsFor (s : Server) (conn i : Nat) : Bool :=
  (s.readers.find? fun t => t.serial.conn == conn).any fun t => t.sessionId == i

/-- **The steps in question**: the row of session `i` is active and owned by worker `w`, and in that
    worker handlers suspend, or resume session `i`, and its device raises no error. -/
def SuspendResume (D : Deployment) (w : String) (i : Nat) (c : Cluster) (l : Thread × Event) :
    Bool :=
  (D.view c.shared w l.2.now).sessionStillActiveInDb (D.process w) i &&
    (l.1.worker != w ||
      match l.2.act with
      | .call _ => true
      | .step _ => (c.phase l.1).suspendsOrResumes i
      | .read conn answer => !(answer.raises && (D.view c.shared w l.2.now).readsFor conn i)
      | .input _ _ _ => true)

/-- **No iteration between the two lock sections of a resume**: when the session's thread looks for
    its bridge, no handler holds it. -/
def Unpopped (D : Deployment) (w : String) (i : Nat) (c : Cluster) (l : Thread × Event) : Prop :=
  ∀ conn answer, l.1.worker = w → l.2.act = .read conn answer →
    (D.view c.shared w l.2.now).readsFor conn i = true →
    ∀ t, t.worker = w → ∀ h, (c.phase t).held? = some h → h.id ≠ i

/-! ## 2. Changes of one process -/

section Server

variable {P : Process} {now : Time} {s s' : Server} {i : Nat} {ser : Serial}

/-- The same threads, and no bridge of the session but over the connection that is read. -/
theorem Attends.of (h : Attends i ser s) (hr : s'.readers = s.readers)
    (hb : ∀ q b, s'.bridge? q = some b → s.bridge? q = some b ∨
      (b.sessionId = i → b.serial = ser ∧ b.running = true)) : Attends i ser s' where
  reader := by
    obtain ⟨t, ht, hts⟩ := h.reader
    exact ⟨t, by rw [hr]; exact ht, hts⟩
  own t ht := h.own t (by rw [← hr]; exact ht)
  bridge q b hq hid := by
    obtain hold | hnew := hb q b hq
    · exact h.bridge q b hold hid
    · exact hnew hid

theorem Attends.of_eq (h : Attends i ser s) (hb : ∀ q, s'.bridge? q = s.bridge? q)
    (hr : s'.readers = s.readers) : Attends i ser s' :=
  h.of hr fun q b hq => .inl (by rw [← hb]; exact hq)

theorem Registered.of_eq (h : Registered i s) (hb : ∀ q, s'.bridge? q = s.bridge? q) :
    Registered i s' := by
  obtain ⟨q, b, hq, hid⟩ := h
  exact ⟨q, b, by rw [hb]; exact hq, hid⟩

theorem readers_modifyAt (s : Server) (p : Place) (f : Bridge → Bridge)
    (hf : ∀ b, (f b).sessionId = b.sessionId) : (s.modifyAt p f hf).readers = s.readers := by
  cases p <;> rfl

/-- An update in place that keeps a bridge's connection and that it runs. -/
theorem Attends.modifyAt {p : Place} {f : Bridge → Bridge} {hf : ∀ b, (f b).sessionId = b.sessionId}
    (h : Attends i ser s) (hsame : ∀ b, (f b).serial = b.serial ∧ (f b).running = b.running) :
    Attends i ser (s.modifyAt p f hf) := by
  refine h.of (readers_modifyAt s p f hf) fun q c hc => ?_
  rw [Server.bridge?_modifyAt] at hc
  split at hc
  · obtain ⟨b, hb, rfl⟩ := Option.map_eq_some_iff.mp hc
    rw [(hsame b).1, (hsame b).2]
    exact .inr fun hid => h.bridge q b hb ((hf b).symm.trans hid)
  · exact .inl hc

theorem Registered.modifyAt {p : Place} {f : Bridge → Bridge}
    {hf : ∀ b, (f b).sessionId = b.sessionId} (h : Registered i s) :
    Registered i (s.modifyAt p f hf) := by
  obtain ⟨q, b, hb, hid⟩ := h
  by_cases hq : q = p
  · exact ⟨q, f b, by rw [Server.bridge?_modifyAt, if_pos hq, hb]; rfl, (hf b).trans hid⟩
  · exact ⟨q, b, by rw [Server.bridge?_modifyAt, if_neg hq]; exact hb, hid⟩

/-- A place is emptied whose bridge is of another session. -/
theorem Registered.removeAt {p : Place} (h : Registered i s)
    (hp : ∀ b, s.bridge? p = some b → b.sessionId ≠ i) : Registered i (s.removeAt p) := by
  obtain ⟨q, b, hb, hid⟩ := h
  refine ⟨q, b, ?_, hid⟩
  rw [Server.bridge?_removeAt, if_neg fun hq => hp b (by rw [← hq]; exact hb) hid]
  exact hb

theorem Attends.removeAt {p : Place} (h : Attends i ser s) : Attends i ser (s.removeAt p) := by
  refine h.of (by cases p <;> rfl) fun q b hb => .inl ?_
  rw [Server.bridge?_removeAt] at hb
  split at hb
  · cases hb
  · exact hb

/-! ### Suspend and resume -/

/-- The session's bridge is in a registry, or in the hands of the handler. -/
def Somewhere (i : Nat) (s : Server) (ph : Phase) : Prop :=
  Registered i s ∨ ∃ h, ph.held? = some h ∧ h.id = i

/-- What a handler holds of the session is the bridge over the connection that is read. -/
def GoodHold (i : Nat) (ser : Serial) (ph : Phase) : Prop :=
  ∀ h, ph.held? = some h → h.id = i →
    h.bridge.sessionId = i ∧ h.bridge.serial = ser ∧ h.bridge.running = true

theorem GoodHold.none {ph : Phase} (h : ph.held? = none) : GoodHold i ser ph := fun hd hhd => by
  rw [h] at hhd
  cases hhd

/-- What a step of a suspend or of a resume leaves. -/
structure Handled (i : Nat) (ser : Serial) (s : Server) (ph : Phase) (s' : Server) (ph' : Phase) :
    Prop where
  attends : Attends i ser s'
  hold : GoodHold i ser ph'
  somewhere : Somewhere i s ph → Somewhere i s' ph' ∨ s'.activeInDb i = false

/-- A step that leaves the registries alone, of a handler that holds nothing. -/
theorem Handled.plain {ph ph' : Phase} (h : Attends i ser s) (hb : ∀ q, s'.bridge? q = s.bridge? q)
    (hr : s'.readers = s.readers) (hph : ph.held? = none) (hph' : ph'.held? = none) :
    Handled i ser s ph s' ph' where
  attends := h.of_eq hb hr
  hold := .none hph'
  somewhere hs := by
    obtain hs | ⟨hd, hhd, -⟩ := hs
    · exact .inl (.inl (hs.of_eq hb))
    · rw [hph] at hhd
      cases hhd

theorem activeInDb_endSession (s : Server) (now : Time) (i : Nat) (reason : String) :
    (s.endSession now i reason).activeInDb i = false := by
  unfold Server.activeInDb
  rw [Server.session?_endSession, if_pos rfl]
  cases s.sessions.get? i <;> rfl

/-- The pop of a resume: the handler has the bridge now. -/
theorem Attends.popped {q : Request} {r : TerminalSession} {b : Bridge} (h : Attends i ser s)
    (hr : r.id = i) (hb : s.bridge? (.suspended r.id) = some b) {ph : Phase} :
    Handled i ser s ph (s.removeAt (.suspended r.id)) (.resuming ⟨q, r.id, b⟩) := by
  have hkey : b.sessionId = i := (Server.sessionId_of_suspended hb).trans hr
  refine ⟨h.removeAt (p := .suspended r.id), ?_, fun _ => .inl (.inr ⟨_, rfl, hr⟩)⟩
  rintro hd hhd -
  cases hhd
  exact ⟨hkey, h.bridge _ b hb hkey⟩

/-- The second section of a refused resume: the bridge is suspended again. -/
theorem Attends.putBack {hd : Held} {ph' : Phase} (h : Attends i ser s)
    (hgood : GoodHold i ser (.putting hd)) (hid : hd.id = i) (hph' : ph'.held? = none) :
    Handled i ser s (.putting hd) (s.putSuspended hd.bridge) ph' := by
  obtain ⟨hsession, hserial, hrun⟩ := hgood hd rfl hid
  refine ⟨h.of rfl fun q b hb => ?_, GoodHold.none hph', fun _ => .inl (.inl ?_)⟩
  · rw [Server.bridge?_putSuspended] at hb
    split at hb
    · cases hb
      exact .inr fun _ => ⟨hserial, hrun⟩
    · exact .inl hb
  · refine ⟨.suspended hd.bridge.sessionId, hd.bridge, ?_, hsession⟩
    rw [Server.bridge?_putSuspended, if_pos rfl]

/-- The second section of a resume: the bridge is active under the new socket. -/
theorem Attends.reattached {hd : Held} (h : Attends i ser s)
    (hgood : GoodHold i ser (.reattaching hd)) (hid : hd.id = i) :
    Handled i ser s (.reattaching hd) (s.putActive hd.req.sid (hd.bridge.resume now hd.req.sid))
      (.resumed hd) := by
  obtain ⟨hsession, hserial, hrun⟩ := hgood hd rfl hid
  refine ⟨h.of rfl fun q b hb => ?_, GoodHold.none rfl, fun _ => .inl (.inl ?_)⟩
  · rw [Server.bridge?_putActive] at hb
    split at hb
    · cases hb
      exact .inr fun _ => ⟨hserial, hrun⟩
    · exact .inl hb
  · refine ⟨.active hd.req.sid, hd.bridge.resume now hd.req.sid, ?_, hsession⟩
    rw [Server.bridge?_putActive, if_pos rfl]

/-- The section of a suspend: the session's bridge has moved, or another one has. -/
theorem Attends.suspended {sid : Sid} {b : Bridge} (h : Attends i ser s)
    (hb : s.bridge? (.active sid) = some b) :
    Handled i ser s (.disconnecting sid) ((s.removeAt (.active sid)).putSuspended (b.suspend now))
      (.suspending b.sessionId) := by
  refine ⟨(h.removeAt (p := .active sid)).of rfl fun q c hc => ?_, GoodHold.none rfl,
    fun hs => .inl (.inl ?_)⟩
  · rw [Server.bridge?_putSuspended] at hc
    split at hc
    · cases hc
      exact .inr fun hid => ⟨(h.bridge _ b hb hid).1, rfl⟩
    · exact .inl hc
  · obtain ⟨q, c, hc, hid⟩ | ⟨hd, hhd, -⟩ := hs
    · by_cases hq : q = .suspended b.sessionId ∨ q = .active sid
      · refine ⟨.suspended b.sessionId, b.suspend now, ?_, ?_⟩
        · rw [Server.bridge?_putSuspended]
          exact if_pos rfl
        · obtain rfl | rfl := hq
          · exact (Server.sessionId_of_suspended hc).symm.trans hid
          · rw [hb] at hc
            cases hc
            exact hid
      · obtain ⟨hq1, hq2⟩ := not_or.mp hq
        refine ⟨q, c, ?_, hid⟩
        rw [Server.bridge?_putSuspended, if_neg (show q ≠ .suspended (b.suspend now).sessionId
          from hq1), Server.bridge?_removeAt, if_neg hq2]
        exact hc
    · cases hhd

/-- **A step of a suspend, or of a resume of the session**, keeps the session attended and its
    bridge somewhere. -/
theorem advance_attends (P : Process) (now : Time) (env : RequestEnv) {ph : Phase}
    (h : Attends i ser s) (hgood : GoodHold i ser ph) (hph : ph.suspendsOrResumes i = true) :
    Handled i ser s ph (s.advance P now env ph).1 (s.advance P now env ph).2 := by
  cases ph with
  | idle => exact .plain h (fun _ => rfl) rfl rfl rfl
  | requested | gated | unresumed =>
      simp only [Server.advance]
      split <;> exact .plain h (fun _ => rfl) rfl rfl rfl
  | found q r =>
      have hr : r.id = i := by simpa [Phase.suspendsOrResumes] using hph
      simp only [Server.advance]
      split
      · exact .plain h (fun _ => rfl) rfl rfl rfl
      · rename_i b hb
        exact h.popped hr hb
  | resuming hd =>
      have hheld : ∀ ph' : Phase, ph'.held? = some hd →
          Handled i ser s (.resuming hd) s ph' := fun ph' hph' =>
        ⟨h, fun hd' hhd' => hgood hd' (by rw [hph'] at hhd'; exact hhd'), fun hs =>
          .inl (hs.imp_right fun hex => hex.imp fun hd' hheld => ⟨by rw [hph']; exact hheld.1,
            hheld.2⟩)⟩
      simp only [Server.advance]
      split <;> exact hheld _ rfl
  | putting hd =>
      have hid : hd.id = i := by simpa [Phase.suspendsOrResumes] using hph
      exact h.putBack hgood hid rfl
  | reattaching hd =>
      have hid : hd.id = i := by simpa [Phase.suspendsOrResumes] using hph
      simp only [Server.advance]
      split
      · refine ⟨h.of_eq (fun _ => rfl) rfl, GoodHold.none rfl, fun _ => .inr ?_⟩
        rw [← hid]
        exact activeInDb_endSession _ _ _ _
      · exact h.reattached hgood hid
  | resumed | suspending => exact .plain h (fun _ => rfl) rfl rfl rfl
  | flushing sid conn =>
      simp only [Server.advance, Server.flushLine]
      split
      · split
        · exact ⟨h.modifyAt fun _ => ⟨rfl, rfl⟩, GoodHold.none rfl, fun hs =>
            .inl (hs.imp Registered.modifyAt id)⟩
        · exact .plain h (fun _ => rfl) rfl rfl rfl
      · exact .plain h (fun _ => rfl) rfl rfl rfl
  | disconnecting sid =>
      simp only [Server.advance]
      split
      · exact .plain h (fun _ => rfl) rfl rfl rfl
      · rename_i b hb
        exact h.suspended hb
  | _ => cases hph

/-! ### Iterations of the reading threads -/

theorem Attends.beatReader (h : Attends i ser s) (other : Serial) :
    Attends i ser (s.beatReader now other) where
  reader := by
    obtain ⟨t, ht, hser, hid⟩ := h.reader
    refine ⟨_, List.mem_map_of_mem ht, ?_, ?_⟩
    · split <;> exact hser
    · split <;> exact hid
  own t' ht' hser := by
    obtain ⟨t, ht, rfl⟩ := List.mem_map.mp ht'
    have hsame : (if t.serial = other then { t with lastHeartbeat := now } else t).sessionId =
        t.sessionId ∧ (if t.serial = other then { t with lastHeartbeat := now } else t).serial =
          t.serial := by
      split <;> exact ⟨rfl, rfl⟩
    rw [hsame.1]
    exact h.own t ht (by rw [← hsame.2]; exact hser)
  bridge := h.bridge

theorem Attends.dropReader (h : Attends i ser s) {other : Serial} (hne : other ≠ ser) :
    Attends i ser (s.dropReader other) where
  reader := by
    obtain ⟨t, ht, hser, hid⟩ := h.reader
    refine ⟨t, List.mem_filter.mpr ⟨ht, ?_⟩, hser, hid⟩
    simpa [hser] using hne.symm
  own t ht hser := h.own t (List.mem_of_mem_filter ht) hser
  bridge := h.bridge

/-- A bridge of another session is lost. -/
theorem Attends.loseBridge {p : Place} {b : Bridge} {j : Nat} (h : Attends i ser s)
    (hp : s.bridge? p = some b) (hb : b.sessionId ≠ i) (hj : j ≠ i) :
    Attends i ser (s.loseBridge p b j) ∧ (Registered i s → Registered i (s.loseBridge p b j)) := by
  have hhalt : Attends i ser ((s.modifyAt p Bridge.halt fun _ => rfl).closeSerial b.serial) := by
    refine h.of (readers_modifyAt s p _ _) fun q c hc => ?_
    have hq : (if q = p then (s.bridge? q).map Bridge.halt else s.bridge? q) = some c :=
      (Server.bridge?_modifyAt s p Bridge.halt (fun _ => rfl) q).symm.trans hc
    split at hq
    · rename_i hqp
      rw [hqp, hp] at hq
      cases hq
      exact .inr fun hid => absurd hid hb
    · exact .inl hq
  have hthere : Registered i s →
      Registered i ((s.modifyAt p Bridge.halt fun _ => rfl).closeSerial b.serial) :=
    fun hs => (Registered.modifyAt hs).of_eq fun _ => rfl
  unfold Server.loseBridge Server.removeBridgeBySession
  split
  · rename_i q c hfirst
    obtain ⟨hq, hid⟩ := Server.firstPlace_some hfirst
    refine ⟨hhalt.removeAt, fun hs => (hthere hs).removeAt fun d hd => ?_⟩
    rw [hq] at hd
    cases hd
    rw [beq_iff_eq.mp hid]
    exact hj
  · exact ⟨hhalt, hthere⟩

/-- With a bridge registered the session's thread finds one. -/
theorem Attends.found (h : Attends i ser s) (hs : Registered i s) :
    ∃ p b, s.getBridgeBySession i = some (p, b) ∧ b.sessionId = i := by
  cases hf : s.getBridgeBySession i with
  | none =>
      obtain ⟨q, b, hb, hid⟩ := hs
      have hno := Server.firstPlace_none hf hb
      simp [hid, (h.bridge q b hb hid).2] at hno
  | some e =>
      obtain ⟨p, b⟩ := e
      have hid := (Server.firstPlace_some hf).2
      simp only [Bool.and_eq_true, beq_iff_eq] at hid
      exact ⟨p, b, rfl, hid.1⟩

/-- A read that does not raise. -/
theorem Attends.readSerial {t : Reader} {p : Place} {b : Bridge} {answer : ReadAnswer}
    (h : Attends i ser s) (hraises : answer.raises = false) :
    Attends i ser (s.readSerial P now t p b answer).1 ∧
      (Registered i s → Registered i (s.readSerial P now t p b answer).1) := by
  cases answer with
  | nothing => exact ⟨h, id⟩
  | data bytes =>
      simp only [Server.readSerial]
      split
      · exact ⟨h, id⟩
      · exact ⟨h.modifyAt fun _ => ⟨rfl, rfl⟩, Registered.modifyAt⟩
  | serialError text => cases hraises
  | exception => cases hraises

/-- **An iteration of a reading thread**: the session's own, with its bridge registered, its row
    active and no error, or the thread of another session. -/
theorem readConn_attends {conn : Nat} {answer : ReadAnswer} (h : Attends i ser s)
    (hreads : s.readsFor conn i = true →
      Registered i s ∧ s.sessionStillActiveInDb P i = true ∧ answer.raises = false) :
    Attends i ser (s.readConn P now conn answer) ∧
      (Registered i s → Registered i (s.readConn P now conn answer)) := by
  unfold Server.readConn
  split
  · rename_i t hfind
    have ht : t ∈ s.readers := List.mem_of_find?_eq_some hfind
    by_cases hti : t.sessionId = i
    · obtain ⟨hs, hactive, hraises⟩ := hreads (by simp [Server.readsFor, hfind, hti])
      obtain ⟨p, b, hget, hid⟩ := h.found hs
      unfold Server.serialReader
      rw [hti, hget]
      simp only [hid, hactive, if_true]
      split
      · have hbeat : Attends i ser (s.heartbeatBridgeInThread P now i) := h.of_eq (fun _ => rfl) rfl
        obtain ⟨hattends, hreg⟩ := (hbeat.beatReader t.serial).readSerial hraises
        exact ⟨hattends, hreg⟩
      · exact h.readSerial hraises
    · have hne : t.serial ≠ ser := fun e => hti (h.own t ht e)
      have hlose : ∀ {s₁ : Server} {p : Place} {b : Bridge}, Attends i ser s₁ →
          s₁.bridge? p = some b → b.sessionId = t.sessionId →
          Attends i ser ((s₁.loseBridge p b t.sessionId).dropReader t.serial) ∧
            (Registered i s₁ →
              Registered i ((s₁.loseBridge p b t.sessionId).dropReader t.serial)) := by
        intro s₁ p b h₁ hp hb
        obtain ⟨hattends, hreg⟩ := h₁.loseBridge hp (by rw [hb]; exact hti) hti
        exact ⟨hattends.dropReader hne, hreg⟩
      have hread : ∀ {s₁ : Server} {p : Place} {b : Bridge}, Attends i ser s₁ →
          s₁.bridge? p = some b → b.sessionId = t.sessionId →
          Attends i ser (s₁.readSerial P now t p b answer).1 ∧
            (Registered i s₁ → Registered i (s₁.readSerial P now t p b answer).1) := by
        intro s₁ p b h₁ hp hb
        cases answer with
        | nothing | data => exact h₁.readSerial rfl
        | serialError text => exact hlose h₁ hp hb
        | exception => exact hlose h₁ hp hb
      unfold Server.serialReader
      split
      · exact ⟨h.dropReader hne, id⟩
      · rename_i p b hget
        obtain ⟨hp, hid⟩ := Server.firstPlace_some hget
        simp only [Bool.and_eq_true, beq_iff_eq] at hid
        split
        · split
          · have hbeat : Attends i ser (s.heartbeatBridgeInThread P now b.sessionId) :=
              h.of_eq (fun _ => rfl) rfl
            exact hread (hbeat.beatReader t.serial) hp hid.1
          · exact hlose h hp hid.1
        · exact hread h hp hid.1
  · exact ⟨h, id⟩

theorem writeToSerial_attends {sid : Sid} {data : String} {ok : Bool} (h : Attends i ser s) :
    Attends i ser (s.writeToSerial now sid data ok).1 ∧
      (Registered i s → Registered i (s.writeToSerial now sid data ok).1) := by
  unfold Server.writeToSerial
  split
  · exact ⟨h, id⟩
  · split
    · dsimp only
      exact ⟨h.modifyAt fun _ => ⟨rfl, rfl⟩, Registered.modifyAt⟩
    · exact ⟨h, id⟩

end Server

/-! ## 3. Runs -/

section Runs

variable {D : Deployment} {w : String} {i : Nat} {ser : Serial} {c c' : Cluster}
  {l : Thread × Event}

/-- **The session is attended in worker `w`**, its bridge registered or held by a handler there,
    unless it is over. -/
structure Attended (D : Deployment) (w : String) (i : Nat) (ser : Serial) (c : Cluster) : Prop where
  attends : Attends i ser (D.view c.shared w c.shared.clock)
  hold : ∀ t, t.worker = w → GoodHold i ser (c.phase t)
  somewhere : (∃ t, t.worker = w ∧ Somewhere i (D.view c.shared w c.shared.clock) (c.phase t)) ∨
    (D.view c.shared w c.shared.clock).activeInDb i = false

/-- What a process sees of its memory is the same at any time. -/
theorem bridge?_view (D : Deployment) (c : Shared) (w : String) (now now' : Time) (q : Place) :
    (D.view c w now).bridge? q = (D.view c w now').bridge? q := by
  cases q <;> rfl

theorem Attends.view {c : Shared} {now : Time} (h : Attends i ser (D.view c w now)) (now' : Time) :
    Attends i ser (D.view c w now') := h.of_eq (fun q => bridge?_view D c w now' now q) rfl

/-- What a process sees after its own step is what the step left. -/
theorem bridge?_store_self (c : Shared) (s : Server) (now now' : Time) (q : Place) :
    (D.view (c.store w now s) w now').bridge? q = s.bridge? q := by
  cases q <;> simp [Server.bridge?, Deployment.view, Shared.store]

theorem readers_store_self (c : Shared) (s : Server) (now now' : Time) :
    (D.view (c.store w now s) w now').readers = s.readers := by
  simp [Deployment.view, Shared.store]

/-- A step of another process leaves the memory alone. -/
theorem memory_store_other {c : Shared} {v : String} (h : w ≠ v) (s : Server) (now : Time) :
    (c.store v now s).memory w = c.memory w := if_neg h

/-- **A step of the worker's own threads.** -/
theorem perform_attends {P : Process} {s s' : Server} {e : Event} {ph ph' : Phase}
    (h : Attends i ser s) (hgood : GoodHold i ser ph)
    (hstep : ∀ env, e.act = .step env → ph.suspendsOrResumes i = true)
    (hread : ∀ conn answer, e.act = .read conn answer → s.readsFor conn i = true →
      Registered i s ∧ s.sessionStillActiveInDb P i = true ∧ answer.raises = false)
    (hs : s.perform P e.now ph e.act = some (s', ph')) : Handled i ser s ph s' ph' := by
  have hkeep : ∀ {s'}, Attends i ser s' ∧ (Registered i s → Registered i s') →
      Handled i ser s ph s' ph := fun h =>
    ⟨h.1, hgood, fun hsome => .inl (hsome.imp_left h.2)⟩
  obtain ⟨now, act⟩ := e
  cases act with
  | call k =>
      cases ph with
      | idle =>
          cases hs
          exact .plain h (fun _ => rfl) rfl rfl (by cases k <;> rfl)
      | _ => cases hs
  | step env =>
      have hadvance : s.advance P now env ph = (s', ph') := Option.some.inj hs
      have hhandled := advance_attends P now env h hgood (hstep env rfl)
      rw [hadvance] at hhandled
      exact hhandled
  | read conn answer =>
      cases hs
      exact hkeep (readConn_attends h (hread conn answer rfl))
  | input sid data ok =>
      cases hs
      exact hkeep (writeToSerial_attends h)

/-- A row that is still active for its process is active. -/
theorem activeInDb_of_still {P : Process} {s : Server} (h : s.sessionStillActiveInDb P i = true) :
    s.activeInDb i = true := by
  unfold Server.sessionStillActiveInDb at h
  unfold Server.activeInDb
  split at h
  · cases h
  · rename_i r hr
    rw [hr]
    exact (Bool.and_eq_true_iff.mp h).1

/-- **One step keeps the session attended.** -/
theorem Attended.turn (h : Attended D w i ser c) (hsteps : SuspendResume D w i c l = true)
    (hunpopped : Unpopped D w i c l) (hs : Turn (program D) c l c') : Attended D w i ser c' := by
  obtain ⟨shared', ph', hprog, rfl⟩ := turn_some.mp hs
  obtain ⟨-, s', hperform, rfl⟩ := program_some hprog
  obtain ⟨hstill, hkind⟩ := Bool.and_eq_true_iff.mp hsteps
  -- the row is active, so the bridge is somewhere
  have hactive : (D.view c.shared w c.shared.clock).activeInDb i = true :=
    activeInDb_of_still hstill
  obtain ⟨t, ht, hsome⟩ := h.somewhere.resolve_right (by rw [hactive]; exact Bool.noConfusion)
  have hsome' : Somewhere i (D.view c.shared w l.2.now) (c.phase t) :=
    hsome.imp_left fun hreg => hreg.of_eq fun q => bridge?_view D c.shared w _ _ q
  by_cases hw : l.1.worker = w
  · subst hw
    have hkind' := (Bool.or_eq_true_iff.mp hkind).resolve_left (by simp)
    have hhandled : Handled i ser (D.view c.shared l.1.worker l.2.now) (c.phase l.1) s' ph' := by
      refine perform_attends (h.attends.view _) (h.hold l.1 rfl) (fun env henv => ?_)
        (fun conn answer hact hreads => ⟨?_, hstill, ?_⟩) hperform
      · rw [henv] at hkind'
        exact hkind'
      · refine hsome'.resolve_right ?_
        rintro ⟨hd, hhd, hid⟩
        exact hunpopped conn answer rfl hact hreads t ht hd hhd hid
      · rw [hact] at hkind'
        simpa [hreads] using hkind'
    refine ⟨hhandled.attends.of_eq (fun q => bridge?_store_self _ _ _ _ q)
      (readers_store_self _ _ _ _), fun u hu => ?_, ?_⟩
    · by_cases hul : u = l.1
      · rw [hul, World.move_phase_self]
        exact hhandled.hold
      · rw [World.move_phase_other hul]
        exact h.hold u hu
    · have hafter : ∀ {ph : Phase}, Somewhere i s' ph → Somewhere i
          (D.view (c.shared.store l.1.worker l.2.now s') l.1.worker l.2.now) ph := fun hsome =>
        hsome.imp_left fun hreg => hreg.of_eq fun q => bridge?_store_self _ _ _ _ q
      by_cases hul : t = l.1
      · rw [hul] at hsome'
        obtain hthere | hover := hhandled.somewhere hsome'
        · exact .inl ⟨l.1, rfl, by rw [World.move_phase_self]; exact hafter hthere⟩
        · exact .inr hover
      · obtain hreg | hheld := hsome'
        · obtain hthere | hover := hhandled.somewhere (.inl hreg)
          · exact .inl ⟨l.1, rfl, by rw [World.move_phase_self]; exact hafter hthere⟩
          · exact .inr hover
        · exact .inl ⟨t, ht, by rw [World.move_phase_other hul]; exact .inr hheld⟩
  · have hmemory : (c.shared.store l.1.worker l.2.now s').memory w = c.shared.memory w :=
      memory_store_other (fun e => hw e.symm) s' l.2.now
    have hbridge : ∀ q, (D.view (c.shared.store l.1.worker l.2.now s') w l.2.now).bridge? q =
        (D.view c.shared w c.shared.clock).bridge? q := by
      intro q
      cases q <;> simp [Server.bridge?, Deployment.view, hmemory]
    have hother : ∀ u : Thread, u.worker = w → u ≠ l.1 := fun u hu e => hw (e ▸ hu)
    refine ⟨h.attends.of_eq hbridge (by simp [Deployment.view, hmemory]), fun u hu => ?_,
      .inl ⟨t, ht, ?_⟩⟩
    · rw [World.move_phase_other (hother u hu)]
      exact h.hold u hu
    · rw [World.move_phase_other (hother t ht)]
      exact hsome.imp_left fun hreg => hreg.of_eq hbridge

/-- **The reader survives suspend and resume**: in every run of such steps in which no iteration of
    the session's thread falls between the two lock sections of a resume, the thread stays in its
    loop, and every registered bridge of the session has it. -/
theorem reader_life_run {c₀ : Cluster} {ls : List (Thread × Event)} (h0 : Attended D w i ser c₀)
    (h : Run (guarded (Turn (program D)) fun c l =>
      SuspendResume D w i c l = true ∧ Unpopped D w i c l) c₀ ls c) :
    HasReader i ser (D.view c.shared w c.shared.clock) ∧
      ∀ q b, (D.view c.shared w c.shared.clock).bridge? q = some b → b.sessionId = i →
        HasReader i b.serial (D.view c.shared w c.shared.clock) := by
  have hattended : Attended D w i ser c :=
    h.invariant h0 fun _ _ _ h hs => h.turn hs.1.1 hs.1.2 hs.2
  refine ⟨hattended.attends.reader, fun q b hb hid => ?_⟩
  rw [(hattended.attends.bridge q b hb hid).1]
  exact hattended.attends.reader

end Runs

/-! ## 4. Small runs -/

/-- User 1's session on device 1, as `request_session` leaves it in worker `a`. -/
def officeOpened : Cluster where
  shared := officeStart.shared.store "a" 0 ((office.view officeStart.shared "a" 0).opened
    (office.process "a") 0 "alice" 1 1 (deskSite.deskPort 1 1))
  phase _ := .idle

theorem officeOpened_attended : Attended office "a" 1 ⟨0, 1⟩ officeOpened := by
  have hbridge : ∀ q b, (office.view officeOpened.shared "a" 0).bridge? q = some b →
      q = .active "alice" ∧ b.serial = ⟨0, 1⟩ ∧ b.running = true := by
    intro q b hb
    replace hb := (bridge?_store_self (D := office) officeStart.shared _ 0 0 q).symm.trans hb
    cases q with
    | suspended k => cases hb
    | active sid =>
        by_cases hsid : sid = "alice"
        · subst hsid
          cases hb
          exact ⟨rfl, rfl, rfl⟩
        · have hnone : (Dict.empty.set "alice" _ : Dict Sid Bridge).get? sid = some b := hb
          rw [Dict.get?_set, if_neg hsid] at hnone
          cases hnone
  refine ⟨⟨⟨⟨⟨0, 1⟩, 1, 0⟩, List.mem_singleton_self _, rfl, rfl⟩, fun t ht _ => ?_,
    fun q b hb _ => (hbridge q b hb).2⟩, fun _ _ => .none rfl, .inl ⟨⟨"a", 0⟩, rfl, .inl ?_⟩⟩
  · rw [List.mem_singleton.mp ht]
    rfl
  · exact ⟨.active "alice", _, rfl, rfl⟩

/-- `Unpopped`, decided from the phases of the threads `ts`. -/
def unpopped (D : Deployment) (w : String) (i : Nat) (ts : List Thread) (c : Cluster)
    (l : Thread × Event) : Bool :=
  match l.2.act with
  | .read conn _ =>
    !(l.1.worker == w && (D.view c.shared w l.2.now).readsFor conn i) ||
      ts.all fun t => ((c.phase t).held?).all fun h => h.id != i
  | _ => true

theorem unpopped_of {D : Deployment} {w : String} {i : Nat} {ts : List Thread} (c : Cluster)
    (l : Thread × Event) (hothers : ∀ t, t ∉ ts → c.phase t = .idle)
    (h : unpopped D w i ts c l = true) : Unpopped D w i c l := by
  intro conn answer hw hact hreads t ht hd hhd
  have hts : t ∈ ts := by
    by_contra hts
    rw [hothers t hts] at hhd
    cases hhd
  simp only [unpopped, hact, hw, hreads, beq_self_eq_true, Bool.and_self, Bool.not_true,
    Bool.false_or, List.all_eq_true] at h
  have hok := h t hts
  rw [hhd] at hok
  simpa using hok

/-- The line is read, and nothing waits. -/
def officeRead (now : Time) : Thread × Event := (⟨"a", 0⟩, ⟨now, .read 0 .nothing⟩)

/-- User 1 leaves and comes back on another socket; the line is read before and after. -/
theorem reader_life_run_small : ∃ ls c, Run (Turn (program office)) officeOpened ls c ∧
    ((office.view c.shared "a" c.shared.clock).active.get? "alice2").isSome = true ∧
    HasReader 1 ⟨0, 1⟩ (office.view c.shared "a" c.shared.clock) := by
  have h : (execAll (execWhen (fun c l => decide (l.1 ∈ [⟨"a", 0⟩, ⟨"a", 1⟩]) &&
      (SuspendResume office "a" 1 c l && unpopped office "a" 1 [⟨"a", 0⟩, ⟨"a", 1⟩] c l))
        (turn (program office))) officeOpened
      ([officeRead 1] ++ officeCall "a" 0 2 (.disconnect "alice") 2 ++ [officeRead 3] ++
        officeCall "a" 1 4 (.request "alice2" 1) 7 ++ [officeRead 5])).any
      (fun c => ((office.view c.shared "a" c.shared.clock).active.get? "alice2").isSome) =
      true := by
    decide
  have hok : ∀ (c : Cluster) (l : Thread × Event),
      (∀ t, t ∉ [⟨"a", 0⟩, ⟨"a", 1⟩] → c.phase t = officeOpened.phase t) →
      (SuspendResume office "a" 1 c l && unpopped office "a" 1 [⟨"a", 0⟩, ⟨"a", 1⟩] c l) = true →
      SuspendResume office "a" 1 c l = true ∧ Unpopped office "a" 1 c l := by
    intro c l hothers hboth
    obtain ⟨hsteps, hunpopped⟩ := Bool.and_eq_true_iff.mp hboth
    exact ⟨hsteps, unpopped_of c l hothers hunpopped⟩
  obtain ⟨c, hr, hp⟩ := exists_run_of_turns _ hok h
  exact ⟨_, c, hr.of_guarded, hp, (reader_life_run officeOpened_attended hr).1⟩

/-- **The reader exits** where it looks for the bridge between the two lock sections of the resume:
    the session is active again, its row active and owned, and nothing reads its line. -/
theorem reader_exits : Attended office "a" 1 ⟨0, 1⟩ officeOpened ∧ ∃ ls c,
    Run (guarded (Turn (program office)) fun c l => SuspendResume office "a" 1 c l = true)
      officeOpened ls c ∧
    (∃ b, (office.view c.shared "a" c.shared.clock).bridge? (.active "alice2") = some b ∧
      b.sessionId = 1) ∧
    (office.view c.shared "a" c.shared.clock).sessionStillActiveInDb (office.process "a") 1 = true ∧
    ¬ HasReader 1 ⟨0, 1⟩ (office.view c.shared "a" c.shared.clock) := by
  refine ⟨officeOpened_attended, ?_⟩
  have h : (execAll (execWhen (SuspendResume office "a" 1) (turn (program office))) officeOpened
      (officeCall "a" 0 2 (.disconnect "alice") 2 ++ officeCall "a" 1 4 (.request "alice2" 1) 3 ++
        [officeRead 5] ++ List.replicate 4 (officeStep "a" 1 6))).any
      (fun c => ((office.view c.shared "a" c.shared.clock).active.get? "alice2").any
          (fun b => b.sessionId == 1) &&
        ((office.view c.shared "a" c.shared.clock).sessionStillActiveInDb (office.process "a") 1 &&
          (office.view c.shared "a" c.shared.clock).readers.isEmpty)) = true := by decide
  obtain ⟨c, hr, hp⟩ := exists_guarded_run (fun _ _ hok => hok) h
  simp only [Bool.and_eq_true, List.isEmpty_iff] at hp
  obtain ⟨hbridge, hstill, hreaders⟩ := hp
  obtain ⟨b, hb, hid⟩ := (Option.any_eq_true _ _).mp hbridge
  refine ⟨_, c, hr, ⟨b, hb, beq_iff_eq.mp hid⟩, hstill, ?_⟩
  rintro ⟨t, ht, -⟩
  rw [hreaders] at ht
  cases ht

end RetroBridge.Terminal
