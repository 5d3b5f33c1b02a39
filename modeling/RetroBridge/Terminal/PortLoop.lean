/-
  File:      RetroBridge/Terminal/PortLoop.lean
  Subject:   THE PORT LOOP OF request_session, AS ONE CHANGE: what a recovery, an end and an entry
             do to the rows and the leases.

  * `session?_endSession`, `mem_leases_recover` and their siblings -- each change as a change of the
    lookups;
  * `recoverStaleLeases_idem`, `recoverStaleLeases_addSession` -- a recovery at one time is one
    recovery, and it does not see a row that is just there;
  * `entered` -- a session with its lease, after a recovery;
  * `tryPorts_cases` -- **the loop recovers once, whatever the number of ports it tries**: a failed
    attempt leaves nothing but the recovery.
-/
import RetroBridge.Terminal.Server

namespace RetroBridge.Terminal

open Relational Ordered Transition

namespace Server

variable {P : Process} {now : Time} {s : Server}

/-! ## 1. Rows and leases after each change -/

theorem session?_updateSession (i : Nat) (f : TerminalSession → TerminalSession)
    (hf : ∀ r, (f r).id = r.id) (j : Nat) :
    (s.updateSession i f hf).sessions.get? j =
      if j = i then (s.sessions.get? j).map f else s.sessions.get? j :=
  Table.get?_mapRows_atKey hf j

theorem session?_endSession (i : Nat) (reason : String) (j : Nat) :
    (s.endSession now i reason).sessions.get? j =
      if j = i then (s.sessions.get? j).map (ended now reason) else s.sessions.get? j :=
  session?_updateSession i (ended now reason) (fun _ => rfl) j

theorem mem_leases_endSession {i : Nat} {reason : String} {l : PortLease} :
    l ∈ (s.endSession now i reason).leases ↔ l ∈ s.leases ∧ l.sessionId ≠ i := by
  show l ∈ s.leases.filterRows _ ↔ _
  rw [Table.mem_filterRows]
  simp

theorem session?_recover (j : Nat) : (s.recoverStaleLeases now).sessions.get? j =
    (s.sessions.get? j).map (s.recoverSession now) := by
  show (s.sessions.mapRows (s.recoverSession now) (s.recoverSession_id now)).get? j = _
  exact Table.get?_mapRows

theorem mem_leases_recover {l : PortLease} :
    l ∈ (s.recoverStaleLeases now).leases ↔ l ∈ s.leases ∧ l.expired now = false := by
  show l ∈ s.leases.filterRows _ ↔ _
  rw [Table.mem_filterRows]
  simp

theorem mem_leases_heartbeat {i : Nat} {l : PortLease} :
    l ∈ (s.heartbeatPortLease now i).leases ↔ ∃ k ∈ s.leases, k.beat now i = l := List.mem_map

/-- A recovery changes the status of a row at most, and the columns that say why. -/
theorem recoverSession_same (r : TerminalSession) :
    (s.recoverSession now r).userId = r.userId ∧
      (s.recoverSession now r).bridgeWorkerId = r.bridgeWorkerId ∧
      ((s.recoverSession now r).status = .active → s.recoverSession now r = r) := by
  unfold recoverSession
  split
  · exact ⟨rfl, rfl, fun h => nomatch h⟩
  · exact ⟨rfl, rfl, fun _ => rfl⟩

/-- **A recovery leaves the session of a running bridge alone.** -/
theorem recoverSession_of_bridge {q : Place} {b : Bridge} {r : TerminalSession}
    (hb : s.bridge? q = some b) (hr : b.running = true) (hid : r.id = b.sessionId) :
    s.recoverSession now r = r := by
  refine if_neg fun h => ?_
  have hlocal : s.hasLocalBridge r.id = true := hid ▸ hasLocalBridge_of hb hr
  rw [hlocal] at h
  exact absurd h.2.1 (by decide)

/-! ## 2. The port loop -/

/-- Every lease has its session's row (`port_leases.session_id` is a foreign key). -/
def LeaseRows (s : Server) : Prop := ∀ l ∈ s.leases, ∃ r, s.sessions.get? l.sessionId = some r

/-- A second recovery at the same time does nothing. -/
theorem recoverStaleLeases_idem (s : Server) :
    (s.recoverStaleLeases now).recoverStaleLeases now = s.recoverStaleLeases now := by
  have hsessions : ∀ r ∈ (s.recoverStaleLeases now).sessions,
      (s.recoverStaleLeases now).recoverSession now r = r := by
    intro r _
    refine if_neg fun h => ?_
    obtain ⟨l, hl, he⟩ := List.any_eq_true.mp h.2.2
    have hfresh : l.expired now = false := (mem_leases_recover.mp hl).2
    rw [hfresh] at he
    exact absurd he (by simp)
  have hleases : (s.recoverStaleLeases now).leases.filterRows (fun l => !l.expired now) =
      (s.recoverStaleLeases now).leases := by
    refine Table.ext_rows (List.filter_eq_self.mpr fun l hl => ?_)
    have hfresh : l.expired now = false := (mem_leases_recover.mp hl).2
    simp [hfresh]
  have hmap : (s.recoverStaleLeases now).sessions.mapRows _
      ((s.recoverStaleLeases now).recoverSession_id now) = (s.recoverStaleLeases now).sessions :=
    Table.mapRows_id hsessions
  exact congrArg₂ (fun t u => ({ s with sessions := t, leases := u } : Server)) hmap hleases

theorem nextKey_recover (s : Server) (now : Time) :
    (s.recoverStaleLeases now).sessions.nextKey = s.sessions.nextKey := by
  show (s.sessions.mapRows (s.recoverSession now) (s.recoverSession_id now)).nextKey = _
  exact Table.nextKey_mapRows

/-- A row that is not there yet is none that a lease belongs to: recovery and INSERT commute. -/
theorem recoverStaleLeases_addSession (now : Time) (h : s.LeaseRows) (u d p : Nat) :
    (s.addSession (s.newSession now u d p)).recoverStaleLeases now =
      (s.recoverStaleLeases now).addSession (s.newSession now u d p) := by
  have hnone : s.sessions.get? s.sessions.nextKey = none := Table.get?_nextKey
  have hself : s.recoverSession now (s.newSession now u d p) = s.newSession now u d p := by
    refine if_neg fun hc => ?_
    obtain ⟨l, hl, he⟩ := List.any_eq_true.mp hc.2.2
    have hid : l.sessionId = s.sessions.nextKey := beq_iff_eq.mp (Bool.and_eq_true_iff.mp he).2
    obtain ⟨r, hr⟩ := h l hl
    rw [hid, hnone] at hr
    cases hr
  have hmap : (s.sessions.insert (s.newSession now u d p)).mapRows _ (s.recoverSession_id now) =
      (s.sessions.mapRows _ (s.recoverSession_id now)).insert (s.newSession now u d p) :=
    Table.mapRows_insert (Table.get?_eq_none.mp hnone) hself
  exact congrArg (fun t => ({ s.recoverStaleLeases now with sessions := t } : Server)) hmap

/-- The row of a failed attempt is deleted without a trace. -/
theorem deleteSession_addSession {r : TerminalSession} (h : s.sessions.get? r.id = none) :
    (s.addSession r).deleteSession r.id = s := by
  have hother : ∀ q ∈ s.sessions, key q ≠ key r := Table.get?_eq_none.mp h
  have hdelete : (s.sessions.insert r).filterRows (fun q => q.id != r.id) = s.sessions :=
    Table.filterRows_insert hother (by simp) fun q hq => by simpa using hother q hq
  exact congrArg (fun t => ({ s with sessions := t } : Server)) hdelete

variable (P now) in
/-- A session with its lease, after the recovery that comes before every lease. -/
def entered (s : Server) (userId deviceId : Nat) (port : DevicePort) : Server :=
  ((s.recoverStaleLeases now).addSession (s.newSession now userId deviceId port.id)).addLease
    (newLease P now port.id s.sessions.nextKey)

theorem recover_session?_nextKey :
    (s.recoverStaleLeases now).sessions.get? s.sessions.nextKey = none := by
  rw [← s.nextKey_recover now]
  exact Table.get?_nextKey

variable (P now) in
/-- One attempt: a session with its lease, or what a recovery leaves. -/
theorem attempt_cases (h : s.LeaseRows) (u d : Nat) (port : DevicePort) :
    ((s.addSession (s.newSession now u d port.id)).acquirePortLease P now port.id
          s.sessions.nextKey = (s.entered P now u d port, true) ∧
        (s.recoverStaleLeases now).leases.get? port.id = none) ∨
      ∃ t, (s.addSession (s.newSession now u d port.id)).acquirePortLease P now port.id
          s.sessions.nextKey = (t, false) ∧
        t.deleteSession s.sessions.nextKey = s.recoverStaleLeases now := by
  have hcommute := recoverStaleLeases_addSession now h u d port.id
  unfold acquirePortLease
  rw [hcommute]
  dsimp only
  split
  · rename_i hc
    have hfree : ((s.recoverStaleLeases now).leases.get? port.id).isNone = true :=
      (Bool.and_eq_true_iff.mp (Bool.and_eq_true_iff.mp hc).1).1
    exact Or.inl ⟨rfl, Option.isNone_iff_eq_none.mp hfree⟩
  · exact Or.inr ⟨_, rfl, deleteSession_addSession recover_session?_nextKey⟩

theorem LeaseRows.recover (h : s.LeaseRows) : (s.recoverStaleLeases now).LeaseRows := by
  intro l hl
  obtain ⟨r, hr⟩ := h l (mem_leases_recover.mp hl).1
  exact ⟨s.recoverSession now r, by rw [session?_recover, hr]; rfl⟩

/-- What enters after a recovery at the same time is what enters without it. -/
theorem entered_recover (u d : Nat) (port : DevicePort) :
    (s.recoverStaleLeases now).entered P now u d port = s.entered P now u d port := by
  unfold entered newSession
  rw [recoverStaleLeases_idem, nextKey_recover]

variable (P now) in
/-- A session that has entered, with its bridge. -/
def opened (s : Server) (sid : Sid) (userId deviceId : Nat) (port : DevicePort) : Server :=
  ((s.entered P now userId deviceId port).updateBridgeRegistry P now s.sessions.nextKey
    .active).register now sid (s.newSession now userId deviceId port.id) port

theorem tryPorts_cons {u d : Nat} {p : DevicePort} (ps : List DevicePort) {t : Server} {won : Bool}
    (h : (s.addSession (s.newSession now u d p.id)).acquirePortLease P now p.id
      s.sessions.nextKey = (t, won)) :
    tryPorts P now u d (p :: ps) s =
      if won = true then (t, some (s.newSession now u d p.id, p))
      else tryPorts P now u d ps (t.deleteSession s.sessions.nextKey) := by
  have h' : (s.addSession (s.newSession now u d p.id)).acquirePortLease P now p.id
      (s.newSession now u d p.id).id = (t, won) := h
  rw [tryPorts]
  simp only [h']
  rfl

variable (P now) in
/-- **The port loop** over at least one port: a recovery, and with it a session and the lease of a
    port that has none, or neither. -/
theorem tryPorts_cases (u d : Nat) (ports : List DevicePort) (hne : ports ≠ []) :
    ∀ {s : Server} (_ : s.LeaseRows),
      tryPorts P now u d ports s = (s.recoverStaleLeases now, none) ∨
      ∃ port ∈ ports, (s.recoverStaleLeases now).leases.get? port.id = none ∧
        tryPorts P now u d ports s =
          (s.entered P now u d port, some (s.newSession now u d port.id, port)) := by
  induction ports with
  | nil => exact absurd rfl hne
  | cons p ps ih =>
      intro s hrows
      rcases attempt_cases P now hrows u d p with ⟨ht, hfree⟩ | ⟨t, ht, hback⟩
      · refine Or.inr ⟨p, List.mem_cons_self, hfree, ?_⟩
        rw [tryPorts_cons ps ht]
        rfl
      · -- the row of the failed attempt has gone, and the loop goes on after the recovery
        have hnext : tryPorts P now u d (p :: ps) s =
            tryPorts P now u d ps (s.recoverStaleLeases now) := by
          rw [tryPorts_cons ps ht, hback]
          rfl
        rw [hnext]
        by_cases hps : ps = []
        · rw [hps]
          exact Or.inl rfl
        · have hrows' : (s.recoverStaleLeases now).LeaseRows := hrows.recover
          rcases ih hps hrows' with ht' | ⟨port, hport, hfree, ht'⟩
          · rw [ht', recoverStaleLeases_idem]
            exact Or.inl rfl
          · rw [recoverStaleLeases_idem] at hfree
            have hrow : (s.recoverStaleLeases now).newSession now u d port.id =
                s.newSession now u d port.id := by
              unfold newSession
              rw [nextKey_recover]
            rw [entered_recover, hrow] at ht'
            exact Or.inr ⟨port, List.mem_cons_of_mem _ hport, hfree, ht'⟩

end Server

end RetroBridge.Terminal
