/-
  File:      RetroBridge/Terminal/History.lean
  Subject:   THE HISTORY OF ONE BRIDGE in a run of the server: from the request that starts it, step
             after step, through suspends and resumes.

  * `Stay`, `Life` -- one step of a bridge: where it was, from when to when, and what became of it;
    its steps since its start;
  * `History` -- the bridge at a place has this life behind it;
  * `Life.activeTime` -- the time it has spent active;
  * `exists_history` -- **every bridge of every run has a history**;
  * `Steady`, `Step.clock_eq`, `Step.site_eq` -- after a step the clock shows the step's time, and
    the site's rows are as they were, unless it is a deletion.
-/
import RetroBridge.Terminal.Course
import Mathlib.Algebra.Ring.Int.Defs

namespace RetroBridge.Terminal

open Relational Transition

/-! ## 1. Lives -/

/-- One step of a bridge's life. -/
structure Stay where
  place : Place
  since : Time
  till : Time
  fate : Fate

/-- **The life of a bridge**: when it started, and what happened to it at every step since. -/
structure Life where
  born : Time
  stays : List Stay

/-- One step more. -/
def Life.add (life : Life) (stay : Stay) : Life := { life with stays := life.stays ++ [stay] }

/-- The time of a step that the bridge was active for. -/
def Stay.active (stay : Stay) : Time :=
  match stay.place with
  | .active _ => stay.till - stay.since
  | .suspended _ => 0

/-- **The time the bridge has spent active.** -/
def Life.activeTime (life : Life) : Time := (life.stays.map Stay.active).sum

@[simp] theorem Life.activeTime_new (born : Time) : Life.activeTime ⟨born, []⟩ = 0 := rfl

@[simp] theorem Life.activeTime_add (life : Life) (stay : Stay) :
    (life.add stay).activeTime = life.activeTime + stay.active := by
  rw [Life.activeTime, Life.add, List.map_append, List.sum_append, List.map_singleton,
    List.sum_singleton, ← Life.activeTime]

theorem Life.mem_add {life : Life} {stay stay' : Stay} :
    stay' ∈ (life.add stay).stays ↔ stay' ∈ life.stays ∨ stay' = stay := by
  rw [Life.add, List.mem_append, List.mem_singleton]

/-- **The bridge at the place has this life behind it**, in a run from `s₀`. -/
inductive History (P : Process) (s₀ : Server) :
    List Label → Server → Place → Bridge → Life → Prop where
  | start {ls : List Label} {s s' : Server} {q : Place} {b : Bridge} (l : Label)
      (h : Run (Step P) s₀ ls s) (hs : Step P s l s') (hnew : Enters l.now (s.at l.now) l.op q b)
      (hb : s'.bridge? q = some b) : History P s₀ (ls ++ [l]) s' q b ⟨l.now, []⟩
  | step {ls : List Label} {s s' : Server} {p q : Place} {b b' : Bridge} {life : Life} {fate : Fate}
      (l : Label) (h : History P s₀ ls s p b life) (hs : Step P s l s')
      (hc : Course P l.now (s.at l.now) l.op fate p b q b') (hb : s'.bridge? q = some b') :
      History P s₀ (ls ++ [l]) s' q b' (life.add ⟨p, s.clock, l.now, fate⟩)

section History

variable {P : Process} {now : Time} {s₀ s s' : Server} {ls : List Label} {q : Place} {b : Bridge}
  {life : Life}

theorem History.run (h : History P s₀ ls s q b life) : Run (Step P) s₀ ls s := by
  induction h with
  | start l h hs => exact .step l h hs
  | step l _ hs _ _ ih => exact .step l ih hs

theorem History.bridge (h : History P s₀ ls s q b life) : s.bridge? q = some b := by
  cases h with
  | start l h hs hnew hb => exact hb
  | step l h hs hc hb => exact hb

/-- **Every bridge of every run has a history.** -/
theorem exists_history (h0 : s₀.Started) (hrows : s₀.LeaseRows) (h : Run (Step P) s₀ ls s) :
    ∀ {q : Place} {b : Bridge}, s.bridge? q = some b → ∃ life, History P s₀ ls s q b life := by
  induction h with
  | start => exact fun hb => absurd hb h0.no_bridge
  | step l hr hs ih =>
      intro q b' hb'
      obtain ⟨fate, p, b, hb, hc⟩ | hnew := hs.course (tidy_run h0 hrows hr) q b' hb'
      · obtain ⟨life, hlife⟩ := ih hb
        exact ⟨_, .step l hlife hs hc hb'⟩
      · exact ⟨_, .start l hr hs hnew hb'⟩

/-! ## 2. The clock and the site -/

/-- **The clock stands and the site's rows stay.** -/
def Steady (s s' : Server) : Prop := s'.clock = s.clock ∧ s'.site = s.site

theorem Steady.self : Steady s s := ⟨rfl, rfl⟩

theorem Steady.trans {t : Server} (h : Steady s t) (h' : Steady t s') : Steady s s' :=
  ⟨h'.1.trans h.1, h'.2.trans h.2⟩

theorem steady_modifyAt (p : Place) (f : Bridge → Bridge)
    (hf : ∀ b, (f b).sessionId = b.sessionId) : Steady s (s.modifyAt p f hf) := by
  cases p <;> exact .self

theorem steady_removeAt (p : Place) : Steady s (s.removeAt p) := by cases p <;> exact .self

theorem steady_stopBridge (sid : Sid) (reason : String) :
    Steady s (s.stopBridge now sid reason).1 := by
  unfold Server.stopBridge
  split <;> exact .self

theorem steady_stopAll (ended : List (Sid × String)) :
    ∀ {s : Server}, Steady s (Server.stopAll now ended s).1 := by
  induction ended with
  | nil => exact .self
  | cons e rest ih => exact (steady_stopBridge e.1 e.2).trans ih

theorem steady_cleanup (ks : List Nat) :
    ∀ {s : Server}, Steady s (ks.foldl (fun s k => s.cleanupOne now k) s) := by
  induction ks with
  | nil => exact .self
  | cons k ks ih =>
      intro s
      have hone : Steady s (s.cleanupOne now k) := by
        unfold Server.cleanupOne
        split <;> exact .self
      exact hone.trans ih

theorem steady_loseBridge (p : Place) (b : Bridge) (i : Nat) : Steady s (s.loseBridge p b i) := by
  have hhalt : Steady s (s.modifyAt p Bridge.halt fun _ => rfl) := steady_modifyAt p _ _
  unfold Server.loseBridge Server.removeBridgeBySession
  split
  · exact hhalt.trans (steady_removeAt _)
  · exact hhalt

theorem steady_forceDisconnectSession (i : Nat) :
    Steady s (s.forceDisconnectSession now i).1 := by
  unfold Server.forceDisconnectSession
  split
  · exact steady_stopBridge _ _
  · split
    · exact steady_loseBridge _ _ i
    · exact .self

theorem steady_readSerial (t : Reader) (p : Place) (b : Bridge) (answer : ReadAnswer) :
    Steady s (s.readSerial P now t p b answer).1 := by
  cases answer with
  | nothing => exact .self
  | data bytes =>
      simp only [Server.readSerial]
      split
      · exact .self
      · exact steady_modifyAt p _ _
  | serialError text => exact steady_loseBridge p b _
  | exception => exact steady_loseBridge p b _

theorem steady_serialReader (t : Reader) (answer : ReadAnswer) :
    Steady s (s.serialReader P now t answer).1 := by
  unfold Server.serialReader
  split
  · exact .self
  · rename_i p b hget
    split
    · split
      · exact steady_readSerial t p b answer
      · exact steady_loseBridge p b _
    · exact steady_readSerial t p b answer

theorem steady_acquirePortLease (portId sessionId : Nat) :
    Steady s (s.acquirePortLease P now portId sessionId).1 := by
  unfold Server.acquirePortLease
  dsimp only
  split <;> exact .self

theorem steady_tryPorts (userId deviceId : Nat) (ports : List DevicePort) :
    ∀ {s : Server}, Steady s (Server.tryPorts P now userId deviceId ports s).1 := by
  induction ports with
  | nil => exact .self
  | cons p ps ih =>
      intro s
      unfold Server.tryPorts
      dsimp only
      split
      · exact steady_acquirePortLease _ _
      · -- the row of the attempt comes and goes
        have hone : Steady s (((s.addSession (s.newSession now userId deviceId
            p.id)).acquirePortLease P now p.id s.sessions.nextKey).1.deleteSession
              s.sessions.nextKey) := steady_acquirePortLease p.id _
        exact hone.trans ih

theorem steady_openSession (sid : Sid) (user : User) (device : Device) (env : RequestEnv) :
    Steady s (s.openSession P now sid user device env).1 := by
  have htried := @steady_tryPorts P now user.id device.id
    (enabledPorts s.site device.id .interactive) s
  have hstart : ∀ (v : Server) (r : TerminalSession) (port : DevicePort),
      Steady v (v.startBridge P now sid r port env.opening).1 := by
    intro v r port
    rcases startBridge_cases P now v sid r port env.opening with h | h | h
    · rw [h]
      exact .self
    · rw [h]
      exact .self
    · rw [h]
      exact .self
  unfold Server.openSession
  split
  · exact .self
  · dsimp only
    split
    · exact htried
    · split <;> exact htried.trans (hstart _ _ _)

theorem steady_resumeBridge (sid : Sid) (i : Nat) (waiting : List UInt8) :
    Steady s (s.resumeBridge P now sid i waiting).1 := by
  have hends := resumption P now s sid i waiting
  generalize s.resumeBridge P now sid i waiting = out at hends ⊢
  cases hends with
  | unknown => exact .self
  | elsewhere => exact .self
  | expired => exact .self
  | resumed =>
      unfold Server.flushWaiting
      split
      · exact steady_modifyAt _ _ _
      · exact .self

theorem steady_admitOrResume (sid : Sid) (deviceId : Nat) (env : RequestEnv) :
    Steady s (s.admitOrResume P now sid deviceId env).1 := by
  rcases admitOrResume_state P now s sid deviceId env with hsame | ⟨i, hafter, -⟩
  · rw [hsame]
    exact .self
  · rw [hafter]
    exact steady_resumeBridge sid i env.waiting

theorem steady_handleRequestSession (sid : Sid) (deviceId : Nat) (env : RequestEnv) :
    Steady s (s.handleRequestSession P now sid deviceId env).1 := by
  have hadmit := @steady_admitOrResume P now s sid deviceId env
  unfold Server.handleRequestSession
  dsimp only
  split
  · exact hadmit
  · exact hadmit.trans (steady_openSession sid _ _ env)

/-- **Only a deletion writes rows of the site.** -/
theorem steady_exec {op : Op} (hop : op.deletes = false) : Steady s (exec P now s op).1 := by
  cases op with
  | request sid deviceId env => exact steady_handleRequestSession sid deviceId env
  | disconnect sid =>
      simp only [exec, Server.suspendBridge]
      split <;> exact .self
  | clientDisconnect sid => exact steady_stopBridge sid _
  | input sid data ok =>
      simp only [exec, Server.writeToSerial]
      split
      · exact .self
      · split
        · exact steady_modifyAt _ _ _
        · exact .self
  | heartbeat sid =>
      simp only [exec, Server.handleHeartbeat]
      split
      · exact .self
      · split
        · exact steady_modifyAt (.active sid) (fun b => { b with lastActivity := now }) fun _ => rfl
        · exact .self
  | acquire portId sessionId => exact steady_acquirePortLease portId sessionId
  | cleanup => exact steady_cleanup _
  | timeouts => exact steady_stopAll _
  | force sessionId => exact steady_forceDisconnectSession sessionId
  | read conn answer =>
      simp only [exec]
      split
      · exact steady_serialReader _ answer
      · exact .self
  | deleteUser u => cases hop
  | deleteDevice d => cases hop
  | deletePort p => cases hop

theorem clock_deleteCascade (site : Site) (gone : TerminalSession → Bool) (port : Nat → Bool) :
    (s.deleteCascade site gone port).clock = s.clock := by
  unfold Server.deleteCascade
  split <;> rfl

theorem clock_exec (op : Op) : (exec P now s op).1.clock = s.clock := by
  cases op with
  | deleteUser u => exact clock_deleteCascade _ _ _
  | deleteDevice d => exact clock_deleteCascade _ _ _
  | deletePort p => exact clock_deleteCascade _ _ _
  | _ => exact (steady_exec rfl).1

/-- **After a step the clock shows its time.** -/
theorem Step.clock_eq {l : Label} (hs : Step P s l s') : s'.clock = l.now := by
  have h : (exec P l.now (s.at l.now) l.op).1.clock = (s.at l.now).clock := clock_exec l.op
  rw [hs.2] at h
  exact h

/-- **A step that is no deletion leaves the site.** -/
theorem Step.site_eq {l : Label} (hs : Step P s l s') (hop : l.op.deletes = false) :
    s'.site = s.site := by
  have h : (exec P l.now (s.at l.now) l.op).1.site = (s.at l.now).site := (steady_exec hop).2
  rw [hs.2] at h
  exact h

end History

end RetroBridge.Terminal
