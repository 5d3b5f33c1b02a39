/-
  File:      RetroBridge/Terminal/Move.lean
  Subject:   WHAT AN OPERATION CAN DO, SAID ONCE: the moves of which every operation is a sequence,
             and what each does to the registries and the tables.

  * `Server.Tidy` -- every registered bridge runs, and every lease has its session's row; under it
    the two lookups by session id of a reading thread find one bridge (`loseBridge_eq`);
  * `portLoop?`, `recovers?` -- the state in which a step's port loop, or its recovery, begins;
  * `Rewire`, `Frame` -- what happens to the registries, and to the tables, while no session comes
    or ends;
  * `Move`, `Moves.invariant` -- the moves, each with what the code has checked before it; **what
    every move keeps, every operation keeps**;
  * `Distinct` -- no two registered bridges of one session, and each has its row: kept by every
    move that is no deletion.
-/
import Mathlib.Logic.Relation
import RetroBridge.Terminal.PortLoop

namespace RetroBridge.Terminal

open Relational Ordered Transition

namespace Server

variable {P : Process} {now : Time} {s : Server}

/-! ## 1. The two lookups of a reading thread -/

/-- **Tidy**: every registered bridge runs, every lease has its session's row. -/
structure Tidy (s : Server) : Prop where
  running : ∀ q b, s.bridge? q = some b → b.running = true
  leaseRows : s.LeaseRows

theorem firstPlace_congr {p p' : Bridge → Bool}
    (h : ∀ q b, s.bridge? q = some b → p b = p' b) : s.firstPlace p = s.firstPlace p' := by
  have hactive : s.active.find? p = s.active.find? p' :=
    Dict.find?_congr fun sid b hb => h (.active sid) b hb
  have hsuspended : s.suspended.dict.find? p = s.suspended.dict.find? p' :=
    Dict.find?_congr fun k b hb => h (.suspended k) b hb
  unfold firstPlace
  rw [hactive, hsuspended]

theorem firstPlace_fst (g : Bridge → Bool) : (s.firstPlace g).map Prod.fst =
    (((s.active.find? g).map Prod.fst).map Place.active).or
      (((s.suspended.dict.find? g).map Prod.fst).map Place.suspended) := by
  unfold firstPlace
  cases s.active.find? g with
  | some e => rfl
  | none => cases s.suspended.dict.find? g <;> rfl

/-- A search that does not see an update in place finds the same place after it. -/
theorem firstPlace_modifyAt (s : Server) (p : Place) (f : Bridge → Bridge)
    (hf : ∀ b, (f b).sessionId = b.sessionId) {g : Bridge → Bool} (hg : ∀ b, g (f b) = g b) :
    ((s.modifyAt p f hf).firstPlace g).map Prod.fst = (s.firstPlace g).map Prod.fst := by
  rw [firstPlace_fst, firstPlace_fst]
  cases p with
  | active sid =>
      have hfind : ((s.active.modify sid f).find? g).map Prod.fst =
          (s.active.find? g).map Prod.fst := Dict.find?_modify hg
      show (Option.map Place.active (((s.active.modify sid f).find? g).map Prod.fst)).or _ = _
      rw [hfind]
      rfl
  | suspended k =>
      have hfind : ((s.suspended.dict.modify k f).find? g).map Prod.fst =
          (s.suspended.dict.find? g).map Prod.fst := Dict.find?_modify hg
      show Option.or _ (Option.map Place.suspended
        (((s.suspended.dict.modify k f).find? g).map Prod.fst)) = _
      rw [hfind]
      rfl

theorem removeAt_modifyAt (s : Server) (p : Place) (f : Bridge → Bridge)
    (hf : ∀ b, (f b).sessionId = b.sessionId) : (s.modifyAt p f hf).removeAt p = s.removeAt p := by
  cases p with
  | active sid =>
      exact congrArg (fun d => ({ s with active := d } : Server)) (Dict.erase_modify s.active sid f)
  | suspended k =>
      have hdict : (s.suspended.modify k f hf).erase k = s.suspended.erase k := by
        have herase := Dict.erase_modify s.suspended.dict k f
        unfold Suspended.modify Suspended.erase
        simp only [herase]
      exact congrArg (fun d => ({ s with suspended := d } : Server)) hdict

theorem removeBridgeBySession_eq {i : Nat} {p : Place}
    (h : (s.firstPlace fun b => b.sessionId == i).map Prod.fst = some p) :
    s.removeBridgeBySession i = s.removeAt p := by
  obtain ⟨e, he, rfl⟩ := Option.map_eq_some_iff.mp h
  unfold removeBridgeBySession
  rw [he]

/-- **The second lookup finds the bridge of the first one**: what a reading thread loses is gone. -/
theorem loseBridge_eq {p : Place} {b : Bridge} {i : Nat}
    (h : s.firstPlace (fun b => b.sessionId == i) = some (p, b)) :
    s.loseBridge p b i = (s.removeAt p).closeSerial b.serial := by
  let ofSession : Bridge → Bool := fun b => b.sessionId == i
  have hsame : ∀ b : Bridge, ofSession b.halt = ofSession b := fun _ => rfl
  have hfirst : (((s.modifyAt p Bridge.halt fun _ => rfl).closeSerial b.serial).firstPlace
      ofSession).map Prod.fst = some p := by
    have hmod := s.firstPlace_modifyAt p Bridge.halt (fun _ => rfl) hsame
    exact hmod.trans (congrArg (Option.map Prod.fst) h)
  have hremove := s.removeAt_modifyAt p Bridge.halt fun _ => rfl
  unfold loseBridge
  rw [removeBridgeBySession_eq hfirst, ← hremove]
  cases p <;> rfl

/-- With every registered bridge running, the thread's lookup is by session id alone. -/
theorem getBridgeBySession_running (h : ∀ q b, s.bridge? q = some b → b.running = true) (i : Nat) :
    s.getBridgeBySession i = s.firstPlace fun b => b.sessionId == i :=
  firstPlace_congr fun q b hb => by simp [h q b hb]

theorem Tidy.firstPlace (h : s.Tidy) (i : Nat) :
    s.getBridgeBySession i = s.firstPlace fun b => b.sessionId == i :=
  getBridgeBySession_running h.running i

/-- A session without a running bridge has no active one. -/
theorem Tidy.active_none (h : s.Tidy) {i : Nat}
    (hactive : s.active.find? (fun b => b.sessionId == i && b.running) = none) :
    s.active.find? (fun b => b.sessionId == i) = none := by
  rw [← hactive]
  exact Dict.find?_congr fun sid b hb => by simp [h.running (.active sid) b hb]

theorem firstPlace_suspended {i : Nat} {b : Bridge}
    (hactive : s.active.find? (fun b => b.sessionId == i) = none)
    (hb : s.suspended.dict.get? i = some b) :
    s.firstPlace (fun b => b.sessionId == i) = some (.suspended i, b) := by
  have hkey : b.sessionId = i := s.suspended.keyed i b hb
  unfold Server.firstPlace
  rw [hactive]
  cases hf : s.suspended.dict.find? fun b => b.sessionId == i with
  | none =>
      have hno := Dict.find?_none hf hb
      simp [hkey] at hno
  | some e =>
      obtain ⟨hget, hid⟩ := Dict.find?_some hf
      have he : e.1 = i := (s.suspended.keyed e.1 e.2 hget).symm.trans (by simpa using hid)
      rw [he] at hget
      have hval : e.2 = b := Option.some.inj (hget.symm.trans hb)
      show some (Place.suspended e.1, e.2) = _
      rw [he, hval]

end Server

/-! ## 2. Moves -/

/-- Where the port loop of an operation begins: the user, the device, and the process there. -/
def portLoop? (P : Process) (now : Time) (s : Server) : Op → Option (User × Device × Server)
  | .request sid deviceId env =>
    let admitted := s.admitOrResume P now sid deviceId env
    match admitted.2.2 with
    | none => none
    | some (user, device) =>
      if admitted.1.sessionsExceeded user ||
          (enabledPorts admitted.1.site device.id .interactive).isEmpty then none
      else some (user, device, admitted.1)
  | _ => none

/-- Where an operation runs `recover_stale_leases`, if it does. -/
def recovers? (P : Process) (now : Time) (s : Server) : Op → Option Server
  | .acquire _ _ => some s
  | op => (portLoop? P now s op).map fun e => e.2.2

/-- The operation is a reading thread's, and ends it by an exception: the thread has found its
    bridge, and did not see, if it looked, that the session is over. -/
def readFails (P : Process) (now : Time) (s : Server) : Op → Bool
  | .read conn answer =>
    answer.raises &&
      (s.readers.find? fun t => t.serial.conn == conn).any fun t =>
        (s.getBridgeBySession t.sessionId).any fun e =>
          !decide (seconds bridgeHeartbeatSeconds ≤ now - t.lastHeartbeat) ||
            s.sessionStillActiveInDb P e.2.sessionId
  | _ => false

/-- The deletions of the admin. -/
def Op.deletes : Op → Bool
  | .deleteUser _ | .deleteDevice _ | .deletePort _ => true
  | _ => false

/-- What a bridge keeps for as long as it is registered. -/
structure Bridge.Same (b b' : Bridge) : Prop where
  serial : b'.serial = b.serial
  sessionId : b'.sessionId = b.sessionId
  portId : b'.portId = b.portId
  running : b.running = true → b'.running = true

theorem Bridge.Same.self {b : Bridge} : b.Same b := ⟨rfl, rfl, rfl, id⟩

/-- Traffic on a bridge: its socket stays, and its buffer gets what a thread of its session read. -/
structure Bridge.Touched (s : Server) (b b' : Bridge) : Prop extends b.Same b' where
  sid : b'.sid = b.sid
  buffer : ∀ x ∈ b'.outputBuffer, x ∈ b.outputBuffer ∨
    ∃ t ∈ s.readers, t.serial = x.1 ∧ t.sessionId = b.sessionId

/-- Driving a session changes its driving columns at most, and the process writes its own id. -/
structure TerminalSession.Driven (P : Process) (r r' : TerminalSession) : Prop where
  userId : r'.userId = r.userId
  status : r'.status = r.status
  worker : r'.bridgeWorkerId = r.bridgeWorkerId ∨ r'.bridgeWorkerId = some P.workerId

/-- No row, lease or thread comes or goes, but for threads that return. -/
structure Frame (P : Process) (s s' : Server) : Prop where
  row : ∀ i r, s.sessions.get? i = some r → ∃ r', s'.sessions.get? i = some r' ∧ r.Driven P r'
  rowBack : ∀ i r', s'.sessions.get? i = some r' →
    ∃ r, s.sessions.get? i = some r ∧ r.Driven P r'
  lease : ∀ l ∈ s.leases, ∃ l' ∈ s'.leases, l'.portId = l.portId ∧ l'.sessionId = l.sessionId
  leaseBack : ∀ l' ∈ s'.leases, ∃ l ∈ s.leases, l'.portId = l.portId ∧ l'.sessionId = l.sessionId
  reader : ∀ t' ∈ s'.readers, ∃ t ∈ s.readers, t'.serial = t.serial ∧ t'.sessionId = t.sessionId

/-- **What happens to the registries while no session comes or ends.** -/
inductive Rewire (P : Process) (now : Time) (s₀ : Server) (op : Op) (s s' : Server) : Prop where
  | keep (h : ∀ q, s'.bridge? q = s.bridge? q)
  | touch {p : Place} {b b' : Bridge} (hb : s.bridge? p = some b) (ht : b.Touched s b')
      (h : ∀ q, s'.bridge? q = if q = p then some b' else s.bridge? q)
  | suspend {sid : Sid} {b : Bridge} (hb : s.bridge? (.active sid) = some b)
      (h : ∀ q, s'.bridge? q =
        if q = .suspended b.sessionId then some (b.suspend now)
        else if q = .active sid then none else s.bridge? q)
  /-- To a socket without a bridge, of the user whose session it is. -/
  | resume {sid : Sid} {r : TerminalSession} {b : Bridge} (hrow : s.sessions.get? r.id = some r)
      (huser : P.currentUser sid = some r.userId) (hb : s.bridge? (.suspended r.id) = some b)
      (hsid : s.bridge? (.active sid) = none)
      (h : ∀ q, s'.bridge? q =
        if q = .active sid then some (b.resume now sid)
        else if q = .suspended r.id then none else s.bridge? q)
  /-- An exit of a reading thread that ends no session. -/
  | lose {p : Place} {b : Bridge} (hb : s.bridge? p = some b)
      (hwhy : readFails P now s₀ op = true ∨ s.sessionStillActiveInDb P b.sessionId = false)
      (h : ∀ q, s'.bridge? q = if q = p then none else s.bridge? q)

/-- **One move on the way of the operation `op`** that began in `s₀`. -/
inductive Move (P : Process) (now : Time) (s₀ : Server) (op : Op) (s : Server) : Server → Prop where
  | pass {s' : Server} (hw : Rewire P now s₀ op s s') (hf : Frame P s s') : Move P now s₀ op s s'
  /-- A session ends; if a bridge of it is registered, one has just been taken out. -/
  | ends {t : Server} (i : Nat) (reason : String) (hf : Frame P s t)
      (hback : ∀ q b, t.bridge? q = some b → s.bridge? q = some b)
      (hother : ∀ q b, s.bridge? q = some b → b.sessionId ≠ i → t.bridge? q = some b)
      (hgone : ∀ q b, t.bridge? q = some b → b.sessionId = i →
        ∃ p c, s.bridge? p = some c ∧ c.sessionId = i ∧ p ≠ q) :
      Move P now s₀ op s (t.endSession now i reason)
  | recover (h : recovers? P now s₀ op = some s) : Move P now s₀ op s (s.recoverStaleLeases now)
  /-- A lease for a row that is there. -/
  | lease {portId sessionId : Nat} {r : TerminalSession} (hop : op = .acquire portId sessionId)
      (h : recovers? P now s₀ op = some s) (hrow : s.sessions.get? sessionId = some r) :
      Move P now s₀ op s
        ((s.recoverStaleLeases now).addLease (Server.newLease P now portId sessionId))
  /-- The transport raises: a session with a lease, and no bridge. -/
  | stranded {user : User} {device : Device} {port : DevicePort}
      (h : portLoop? P now s₀ op = some (user, device, s))
      (hfree : (s.recoverStaleLeases now).leases.get? port.id = none) :
      Move P now s₀ op s (s.entered P now user.id device.id port)
  /-- The bridge is refused: the session is over at once. -/
  | refused {user : User} {device : Device} {port : DevicePort}
      (h : portLoop? P now s₀ op = some (user, device, s))
      (hfree : (s.recoverStaleLeases now).leases.get? port.id = none) :
      Move P now s₀ op s
        ((s.entered P now user.id device.id port).endSession now s.sessions.nextKey "error")
  | started {sid : Sid} {user : User} {device : Device} {port : DevicePort}
      (h : portLoop? P now s₀ op = some (user, device, s))
      (hfree : (s.recoverStaleLeases now).leases.get? port.id = none)
      (huser : P.currentUser sid = some user.id) (hsid : s.bridge? (.active sid) = none) :
      Move P now s₀ op s (s.opened P now sid user.id device.id port)
  /-- A deletion that leaves no lease without its row. -/
  | delete {site : Site} {gone : TerminalSession → Bool} {port : Nat → Bool}
      (hop : op.deletes = true)
      (h : ∀ l ∈ s.leases, port l.portId = false →
        ∀ r, s.sessions.get? l.sessionId = some r → gone r = false) :
      Move P now s₀ op s
        { s with
          site := site
          sessions := s.sessions.filterRows fun r => !gone r
          leases := s.leases.filterRows fun l => !port l.portId }

/-- Move after move. -/
abbrev Moves (P : Process) (now : Time) (s₀ : Server) (op : Op) : Server → Server → Prop :=
  Relation.ReflTransGen (Move P now s₀ op)

section Moves

variable {P : Process} {now : Time} {s₀ s s' t : Server} {op : Op}

/-- **What every move keeps, every operation keeps.** -/
theorem Moves.invariant {I : Server → Prop} (h : Moves P now s₀ op s s') (hs : I s)
    (hI : ∀ {s s'}, I s → Move P now s₀ op s s' → I s') : I s' := by
  induction h with
  | refl => exact hs
  | tail _ hm ih => exact hI ih hm

/-! ### Frames -/

theorem TerminalSession.Driven.same {r : TerminalSession} : r.Driven P r :=
  ⟨rfl, rfl, .inl rfl⟩

/-- The same rows, the same leases, and no new thread. -/
theorem Frame.of_eq (hs : s'.sessions = s.sessions) (hl : s'.leases = s.leases)
    (hr : ∀ t' ∈ s'.readers, ∃ t ∈ s.readers, t'.serial = t.serial ∧ t'.sessionId = t.sessionId) :
    Frame P s s' where
  row i r h := ⟨r, by rw [hs]; exact h, .same⟩
  rowBack i r h := ⟨r, by rw [← hs]; exact h, .same⟩
  lease l h := ⟨l, by rw [hl]; exact h, rfl, rfl⟩
  leaseBack l h := ⟨l, by rw [← hl]; exact h, rfl, rfl⟩
  reader := hr

theorem Frame.same : Frame P s s := .of_eq rfl rfl fun t ht => ⟨t, ht, rfl, rfl⟩

theorem Frame.updateSession {i : Nat} {f : TerminalSession → TerminalSession}
    {hf : ∀ r, (f r).id = r.id} (hd : ∀ r, TerminalSession.Driven P r (f r)) :
    Frame P s (s.updateSession i f hf) where
  row j r h := by
    rw [Server.session?_updateSession, h]
    by_cases hj : j = i
    · exact ⟨f r, by rw [if_pos hj]; rfl, hd r⟩
    · exact ⟨r, by rw [if_neg hj], .same⟩
  rowBack j r' h := by
    rw [Server.session?_updateSession] at h
    by_cases hj : j = i
    · rw [if_pos hj] at h
      obtain ⟨r, hr, rfl⟩ := Option.map_eq_some_iff.mp h
      exact ⟨r, hr, hd r⟩
    · rw [if_neg hj] at h
      exact ⟨r', h, .same⟩
  lease l h := ⟨l, h, rfl, rfl⟩
  leaseBack l h := ⟨l, h, rfl, rfl⟩
  reader t h := ⟨t, h, rfl, rfl⟩

theorem Frame.drive (i : Nat) (status : SessionStatus) :
    Frame P s (s.updateBridgeRegistry P now i status) :=
  .updateSession fun _ => ⟨rfl, rfl, .inr rfl⟩

theorem Frame.beat (i : Nat) : Frame P s (s.heartbeatBridgeInThread P now i) := by
  refine .updateSession fun r => ?_
  split
  · exact ⟨rfl, rfl, .inl rfl⟩
  · exact .same

theorem Frame.leaseBeat (i : Nat) : Frame P s (s.heartbeatPortLease now i) where
  row j r h := ⟨r, h, .same⟩
  rowBack j r h := ⟨r, h, .same⟩
  lease l h := ⟨l.beat now i, Server.mem_leases_heartbeat.mpr ⟨l, h, rfl⟩, l.beat_same now i⟩
  leaseBack l' h := by
    obtain ⟨l, hl, rfl⟩ := Server.mem_leases_heartbeat.mp h
    exact ⟨l, hl, l.beat_same now i⟩
  reader t h := ⟨t, h, rfl, rfl⟩

theorem Frame.removeAt (p : Place) : Frame P s (s.removeAt p) := by
  cases p <;> exact .of_eq rfl rfl fun t ht => ⟨t, ht, rfl, rfl⟩

theorem Frame.modifyAt (p : Place) (f : Bridge → Bridge) (hf : ∀ b, (f b).sessionId = b.sessionId) :
    Frame P s (s.modifyAt p f hf) := by
  cases p <;> exact .of_eq rfl rfl fun t ht => ⟨t, ht, rfl, rfl⟩

theorem Frame.closeSerial (hf : Frame P s t) (ser : Serial) : Frame P s (t.closeSerial ser) :=
  ⟨hf.row, hf.rowBack, hf.lease, hf.leaseBack, hf.reader⟩

/-! ### Registries -/

/-- Every bridge of the state after was registered before, no two at one place. -/
def Origin (s s' : Server) (origin : Place → Place) : Prop :=
  (∀ q b', s'.bridge? q = some b' → ∃ b, s.bridge? (origin q) = some b ∧ b.Same b') ∧
    ∀ p q b c, s'.bridge? p = some b → s'.bridge? q = some c → origin p = origin q → p = q

theorem Origin.of_back (h : ∀ q b, s'.bridge? q = some b → s.bridge? q = some b) : Origin s s' id :=
  ⟨fun q b hq => ⟨b, h q b hq, .self⟩, fun _ _ _ _ _ _ e => e⟩

/-- One bridge goes from `p` to `p'`. -/
theorem Origin.of_moved {p p' : Place} {b b' : Bridge} (hb : s.bridge? p = some b) (hs : b.Same b')
    (h : ∀ q, s'.bridge? q = if q = p' then some b' else if q = p then none else s.bridge? q) :
    Origin s s' fun q => if q = p' then p else q := by
  have hother : ∀ q c, q ≠ p' → s'.bridge? q = some c → q ≠ p ∧ s.bridge? q = some c := by
    intro q c hq hc
    rw [h q, if_neg hq] at hc
    split at hc
    · cases hc
    · rename_i hqp
      exact ⟨hqp, hc⟩
  refine ⟨fun q c hq => ?_, fun q₁ q₂ c d h₁ h₂ e => ?_⟩
  · by_cases hqp : q = p'
    · rw [h q, if_pos hqp] at hq
      cases hq
      simp only [if_pos hqp]
      exact ⟨b, hb, hs⟩
    · simp only [if_neg hqp]
      exact ⟨c, (hother q c hqp hq).2, .self⟩
  · by_cases hq₁ : q₁ = p'
    · by_cases hq₂ : q₂ = p'
      · exact hq₁.trans hq₂.symm
      · simp only [if_pos hq₁, if_neg hq₂] at e
        exact absurd e.symm (hother q₂ d hq₂ h₂).1
    · by_cases hq₂ : q₂ = p'
      · simp only [if_neg hq₁, if_pos hq₂] at e
        exact absurd e (hother q₁ c hq₁ h₁).1
      · simpa only [if_neg hq₁, if_neg hq₂] using e

/-- **No bridge comes from nowhere** while no session comes or ends. -/
theorem Rewire.origin (hw : Rewire P now s₀ op s s') : ∃ origin, Origin s s' origin := by
  rcases hw with h | @⟨p, b, b', hb, ht, h⟩ | @⟨sid, b, hb, h⟩ |
    @⟨sid, r, b, hrow, huser, hb, hsid, h⟩ | ⟨hb, hwhy, h⟩
  · exact ⟨id, .of_back fun q b hq => (h q).symm.trans hq⟩
  · have hmoved : ∀ q, s'.bridge? q =
        if q = p then some b' else if q = p then none else s.bridge? q := by
      intro q
      rw [h q]
      split <;> rfl
    exact ⟨_, .of_moved hb ht.toSame hmoved⟩
  · have hsame : b.Same (b.suspend now) := ⟨rfl, rfl, rfl, fun _ => rfl⟩
    exact ⟨_, .of_moved hb hsame h⟩
  · have hsame : b.Same (b.resume now sid) := ⟨rfl, rfl, rfl, id⟩
    exact ⟨_, .of_moved hb hsame h⟩
  · refine ⟨id, .of_back fun q b hq => ?_⟩
    rw [h q] at hq
    split at hq
    · cases hq
    · exact hq

/-- A registered bridge stays, or another one of its session, unless its thread exits. -/
theorem Rewire.stays (hw : Rewire P now s₀ op s s') {p : Place} {b : Bridge}
    (hb : s.bridge? p = some b) : (∃ q b', s'.bridge? q = some b' ∧ b'.sessionId = b.sessionId) ∨
      readFails P now s₀ op = true ∨ s.sessionStillActiveInDb P b.sessionId = false := by
  have hsame : ∀ {q : Place} {c : Bridge}, p = q → s.bridge? q = some c → b = c := by
    intro q c hp hc
    rw [hp, hc] at hb
    exact (Option.some.inj hb).symm
  rcases hw with h | @⟨p₁, b₁, b₁', hb₁, ht, h⟩ | @⟨sid, b₁, hb₁, h⟩ |
    @⟨sid, r, b₁, hrow, huser, hb₁, hsid, h⟩ | @⟨p₁, b₁, hb₁, hwhy, h⟩
  · exact Or.inl ⟨p, b, (h p).trans hb, rfl⟩
  · by_cases hp : p = p₁
    · have hbb : b = b₁ := hsame hp hb₁
      exact Or.inl ⟨p, b₁', by rw [h p, if_pos hp], by rw [hbb]; exact ht.sessionId⟩
    · exact Or.inl ⟨p, b, by rw [h p, if_neg hp, hb], rfl⟩
  · by_cases hp : p = .active sid
    · have hbb : b = b₁ := hsame hp hb₁
      exact Or.inl ⟨.suspended b₁.sessionId, b₁.suspend now, by rw [h, if_pos rfl],
        by rw [hbb]; rfl⟩
    · by_cases hk : p = .suspended b₁.sessionId
      · -- the suspended bridge of the same session is overwritten
        have hid : b.sessionId = b₁.sessionId := Server.sessionId_of_suspended (hk ▸ hb)
        exact Or.inl ⟨p, b₁.suspend now, by rw [h, if_pos hk], hid.symm⟩
      · exact Or.inl ⟨p, b, by rw [h, if_neg hk, if_neg hp, hb], rfl⟩
  · by_cases hp : p = .suspended r.id
    · have hbb : b = b₁ := hsame hp hb₁
      exact Or.inl ⟨.active sid, b₁.resume now sid, by rw [h, if_pos rfl], by rw [hbb]; rfl⟩
    · have hne : p ≠ .active sid := fun e => by rw [e, hsid] at hb; cases hb
      exact Or.inl ⟨p, b, by rw [h, if_neg hne, if_neg hp, hb], rfl⟩
  · by_cases hp : p = p₁
    · have hbb : b = b₁ := hsame hp hb₁
      exact Or.inr (hbb ▸ hwhy)
    · exact Or.inl ⟨p, b, by rw [h p, if_neg hp, hb], rfl⟩

/-! ### A session that enters -/

theorem session?_entered {u d : Nat} {port : DevicePort} (j : Nat) :
    (s.entered P now u d port).sessions.get? j =
      if j = s.sessions.nextKey then some (s.newSession now u d port.id)
      else (s.sessions.get? j).map (s.recoverSession now) := by
  have hnew :
      (s.recoverStaleLeases now).sessions.get? (key (s.newSession now u d port.id)) = none :=
    Server.recover_session?_nextKey
  show ((s.recoverStaleLeases now).sessions.insert (s.newSession now u d port.id)).get? j = _
  rw [Table.get?_insert hnew, Server.session?_recover]
  rfl

theorem mem_leases_entered {u d : Nat} {port : DevicePort} {l : PortLease}
    (hfree : (s.recoverStaleLeases now).leases.get? port.id = none) :
    l ∈ (s.entered P now u d port).leases ↔
      (l ∈ s.leases ∧ l.expired now = false) ∨
        l = Server.newLease P now port.id s.sessions.nextKey := by
  rw [← Server.mem_leases_recover]
  exact Table.mem_insert_iff (Table.get?_eq_none.mp hfree)

theorem bridge?_opened {sid : Sid} {u d : Nat} {port : DevicePort} (q : Place) :
    (s.opened P now sid u d port).bridge? q =
      if q = .active sid then
        some (newBridge now ⟨s.nextConn, u⟩ sid (s.newSession now u d port.id) port)
      else s.bridge? q :=
  Server.bridge?_putActive _ sid _ q

theorem session?_opened {sid : Sid} {u d : Nat} {port : DevicePort} (j : Nat) :
    (s.opened P now sid u d port).sessions.get? j =
      if j = s.sessions.nextKey then
        some { s.newSession now u d port.id with
          bridgeWorkerId := some P.workerId, bridgeHeartbeatAt := some now
          bridgeStatus := some .active }
      else (s.sessions.get? j).map (s.recoverSession now) := by
  show ((s.entered P now u d port).updateBridgeRegistry P now s.sessions.nextKey
    .active).sessions.get? j = _
  unfold Server.updateBridgeRegistry
  rw [Server.session?_updateSession, session?_entered]
  split <;> rfl

/-! ### Tidy -/

theorem row_endSession (i : Nat) (reason : String) {j : Nat} {r : TerminalSession}
    (h : s.sessions.get? j = some r) :
    ∃ r', (s.endSession now i reason).sessions.get? j = some r' := by
  rw [Server.session?_endSession, h]
  split
  · exact ⟨_, rfl⟩
  · exact ⟨_, rfl⟩

variable (P now) in
theorem row_entered (u d : Nat) (port : DevicePort) {j : Nat} {r : TerminalSession}
    (h : s.sessions.get? j = some r) :
    ∃ r', (s.entered P now u d port).sessions.get? j = some r' := by
  rw [session?_entered, h]
  split
  · exact ⟨_, rfl⟩
  · exact ⟨_, rfl⟩

/-- A row stays, unless it is deleted. -/
theorem Move.row_stays (m : Move P now s₀ op s s') (hop : op.deletes = false) {i : Nat}
    {r : TerminalSession} (h : s.sessions.get? i = some r) :
    ∃ r', s'.sessions.get? i = some r' := by
  cases m with
  | pass hw hf =>
      obtain ⟨r', hr', -⟩ := hf.row i r h
      exact ⟨r', hr'⟩
  | ends j reason hf =>
      obtain ⟨r', hr', -⟩ := hf.row i r h
      exact row_endSession j reason hr'
  | recover => exact ⟨_, by rw [Server.session?_recover, h]; rfl⟩
  | lease => exact ⟨_, (Server.session?_recover i).trans (congrArg _ h)⟩
  | stranded => exact row_entered P now _ _ _ h
  | @refused user device port =>
      obtain ⟨r', hr'⟩ := row_entered P now user.id device.id port h
      exact row_endSession _ "error" hr'
  | started =>
      rw [session?_opened, h]
      split
      · exact ⟨_, rfl⟩
      · exact ⟨_, rfl⟩
  | delete hdel => exact absurd (hdel.symm.trans hop) (by decide)

/-- Every bridge after a move was registered before it, or belongs to a session that enters. -/
theorem Move.origin (m : Move P now s₀ op s s') : (∃ origin, Origin s s' origin) ∨
    ∃ sid user device port, portLoop? P now s₀ op = some (user, device, s) ∧
      s.bridge? (.active sid) = none ∧ s' = s.opened P now sid user.id device.id port := by
  cases m with
  | pass hw hf => exact Or.inl hw.origin
  | ends i reason hf hback => exact Or.inl ⟨id, .of_back hback⟩
  | recover => exact Or.inl ⟨id, .of_back fun _ _ h => h⟩
  | lease => exact Or.inl ⟨id, .of_back fun _ _ h => h⟩
  | stranded => exact Or.inl ⟨id, .of_back fun _ _ h => h⟩
  | refused => exact Or.inl ⟨id, .of_back fun _ _ h => h⟩
  | @started sid user device port h _ _ hsid =>
      exact Or.inr ⟨sid, user, device, port, h, hsid, rfl⟩
  | delete => exact Or.inl ⟨id, .of_back fun _ _ h => h⟩

theorem Move.running (m : Move P now s₀ op s s')
    (h : ∀ q b, s.bridge? q = some b → b.running = true) :
    ∀ q b, s'.bridge? q = some b → b.running = true := by
  intro q b' hq
  rcases m.origin with ⟨origin, hback, -⟩ | ⟨sid, user, device, port, -, -, rfl⟩
  · obtain ⟨b, hb, hsame⟩ := hback q b' hq
    exact hsame.running (h _ b hb)
  · rw [bridge?_opened] at hq
    split at hq
    · cases hq
      rfl
    · exact h q b' hq

theorem Frame.leaseRows (hf : Frame P s s') (h : s.LeaseRows) : s'.LeaseRows := by
  intro l' hl'
  obtain ⟨l, hl, -, hid⟩ := hf.leaseBack l' hl'
  obtain ⟨r, hr⟩ := h l hl
  obtain ⟨r', hr', -⟩ := hf.row l.sessionId r hr
  exact ⟨r', hid ▸ hr'⟩

theorem leaseRows_endSession (h : s.LeaseRows) (i : Nat) (reason : String) :
    (s.endSession now i reason).LeaseRows := by
  intro l hl
  obtain ⟨hl, hne⟩ := Server.mem_leases_endSession.mp hl
  obtain ⟨r, hr⟩ := h l hl
  exact ⟨r, by rw [Server.session?_endSession, if_neg hne, hr]⟩

theorem leaseRows_entered (h : s.LeaseRows) {u d : Nat} {port : DevicePort}
    (hfree : (s.recoverStaleLeases now).leases.get? port.id = none) :
    (s.entered P now u d port).LeaseRows := by
  intro l hl
  rcases (mem_leases_entered hfree).mp hl with ⟨hl, -⟩ | rfl
  · obtain ⟨r, hr⟩ := h l hl
    exact row_entered P now u d port hr
  · exact ⟨_, (session?_entered _).trans (if_pos rfl)⟩

theorem Move.leaseRows (m : Move P now s₀ op s s') (h : s.LeaseRows) : s'.LeaseRows := by
  cases m with
  | pass hw hf => exact hf.leaseRows h
  | ends i reason hf => exact leaseRows_endSession (hf.leaseRows h) i reason
  | recover => exact h.recover
  | lease hop hrec hrow =>
      intro l hl
      rcases Table.mem_insert hl with hl | rfl
      · exact h.recover l hl
      · exact ⟨_, (Server.session?_recover _).trans (congrArg _ hrow)⟩
  | stranded _ hfree => exact leaseRows_entered h hfree
  | refused _ hfree => exact leaseRows_endSession (leaseRows_entered h hfree) _ "error"
  | started _ hfree => exact (Frame.drive _ _).leaseRows (leaseRows_entered h hfree)
  | delete hop hkeep =>
      intro l hl
      obtain ⟨hl, hport⟩ := Table.mem_filterRows.mp hl
      obtain ⟨r, hr⟩ := h l hl
      have hstays := hkeep l hl (by simpa using hport) r hr
      refine ⟨r, ?_⟩
      show (s.sessions.filterRows _).get? l.sessionId = some r
      rw [Table.get?_filterRows, hr]
      simp [hstays]

/-- **Every move keeps a tidy process tidy.** -/
theorem Move.tidy (m : Move P now s₀ op s s') (h : s.Tidy) : s'.Tidy :=
  ⟨m.running h.running, m.leaseRows h.leaseRows⟩

theorem tidy_at (h : s.Tidy) (now : Time) : (s.at now).Tidy := ⟨h.running, h.leaseRows⟩

/-! ### Distinct -/

/-- **Distinct**: no two registered bridges of one session, and each has its session's row. -/
structure Distinct (s : Server) : Prop where
  unique : ∀ p q b c, s.bridge? p = some b → s.bridge? q = some c →
    b.sessionId = c.sessionId → p = q
  row : ∀ q b, s.bridge? q = some b → ∃ r, s.sessions.get? b.sessionId = some r

theorem Distinct.at (h : Distinct s) (now : Time) : Distinct (s.at now) := ⟨h.unique, h.row⟩

/-- No registered bridge has the id of a row that is to come. -/
theorem Distinct.fresh (h : Distinct s) {q : Place} {b : Bridge} (hb : s.bridge? q = some b) :
    b.sessionId ≠ s.sessions.nextKey := by
  obtain ⟨r, hr⟩ := h.row q b hb
  obtain ⟨hmem, hid⟩ := Table.get?_eq_some.mp hr
  rw [← hid]
  exact (Table.key_lt_nextKey hmem).ne

/-- Once the session's bridge has been taken out, the bridges that stay are of other sessions. -/
theorem Distinct.other (h : Distinct s) {i : Nat}
    (hback : ∀ q b, t.bridge? q = some b → s.bridge? q = some b)
    (hgone : ∀ q b, t.bridge? q = some b → b.sessionId = i →
      ∃ p c, s.bridge? p = some c ∧ c.sessionId = i ∧ p ≠ q)
    {q : Place} {b : Bridge} (hq : t.bridge? q = some b) : b.sessionId ≠ i := by
  intro hid
  obtain ⟨p, c, hc, hci, hpq⟩ := hgone q b hq hid
  exact hpq (h.unique p q c b hc (hback q b hq) (hci.trans hid.symm))

/-- **Every move that is no deletion keeps the registries distinct.** -/
theorem Move.distinct (m : Move P now s₀ op s s') (hop : op.deletes = false) (h : Distinct s) :
    Distinct s' := by
  rcases m.origin with ⟨origin, hback, hinj⟩ | ⟨sid, user, device, port, -, -, rfl⟩
  · refine ⟨fun p q b' c' hp hq hid => ?_, fun q b' hq => ?_⟩
    · obtain ⟨b, hb, hsame⟩ := hback p b' hp
      obtain ⟨c, hc, hsame'⟩ := hback q c' hq
      have hid' : b.sessionId = c.sessionId := by rw [← hsame.sessionId, hid, hsame'.sessionId]
      exact hinj p q b' c' hp hq (h.unique _ _ b c hb hc hid')
    · obtain ⟨b, hb, hsame⟩ := hback q b' hq
      obtain ⟨r, hr⟩ := h.row _ b hb
      rw [hsame.sessionId]
      exact m.row_stays hop hr
  · have hcases : ∀ q b, (s.opened P now sid user.id device.id port).bridge? q = some b →
        (q = .active sid ∧ b.sessionId = s.sessions.nextKey) ∨
          (q ≠ .active sid ∧ s.bridge? q = some b) := by
      intro q b hq
      rw [bridge?_opened] at hq
      split at hq
      · rename_i hqs
        cases hq
        exact Or.inl ⟨hqs, rfl⟩
      · rename_i hqs
        exact Or.inr ⟨hqs, hq⟩
    refine ⟨fun p q b c hp hq hid => ?_, fun q b hq => ?_⟩
    · rcases hcases p b hp with ⟨rfl, hb⟩ | ⟨-, hp⟩
      · rcases hcases q c hq with ⟨rfl, -⟩ | ⟨-, hq⟩
        · rfl
        · exact absurd (hid.symm.trans hb) (h.fresh hq)
      · rcases hcases q c hq with ⟨rfl, hc⟩ | ⟨-, hq⟩
        · exact absurd (hid.trans hc) (h.fresh hp)
        · exact h.unique p q b c hp hq hid
    · rcases hcases q b hq with ⟨-, hb⟩ | ⟨-, hq⟩
      · exact ⟨_, by rw [session?_opened, if_pos hb]⟩
      · obtain ⟨r, hr⟩ := h.row q b hq
        exact m.row_stays hop hr

end Moves

end RetroBridge.Terminal
