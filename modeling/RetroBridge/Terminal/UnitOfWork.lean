/-
  File:      RetroBridge/Terminal/UnitOfWork.lean
  Subject:   WHAT A HANDLER HAS READ AND WHAT ITS COMMIT WRITES (retrobridge/terminal/utils.py:
             `end_session`, `recover_stale_leases`; retrobridge/__init__.py:
             `_cleanup_orphaned_sessions`).

  Cluster.lean runs these three as one step each. They read rows into the handler's db session in
  no transaction, and the commit writes, by id, the columns that have been set to another value
  than the one that was read. Here the reads and the commit are steps of their own:

  * `Change`, `Change.write` -- a row as it was loaded and as it has been set, and its UPDATE;
  * `UnitOfWork`, `Server.commit` -- the rows and leases of one commit;
  * `Server.recoverLease` -- one turn of the loop of a recovery;
  * `Handler` -- a handler between the reads and the commit, with the rows that its db session has
    loaded before: a row that is there is not read again;
  * `records` -- the machine of Cluster.lean with these steps;
  * `commit_endUnit`, `commit_sweepUnit`, `commit_recovered` -- **a unit that nothing comes between
    is the operation of Server.lean**;
  * `RecordWrite`, `records_rows` -- what a step writes to the session rows.
-/
import RetroBridge.Terminal.Cluster

namespace RetroBridge.Terminal

open Relational Ordered Transition Interleaved

/-! ## 1. A row, and its UPDATE -/

/-- The columns that no function of the terminal sets on a row that is there. -/
def TerminalSession.fixed (r : TerminalSession) : Nat × Nat × Nat × Nat × Option Time :=
  (r.id, r.userId, r.deviceId, r.portId, r.connectedAt)

/-- **A row in a db session**: as it was loaded, and with what has been set since. -/
structure Change where
  loaded : TerminalSession
  row : TerminalSession
  fixed : row.fixed = loaded.fixed

namespace Change

variable {α : Type} [DecidableEq α]

/-- A column behind the UPDATE: written where it has been set to another value than the loaded. -/
def column (c : Change) (f : TerminalSession → α) (r : TerminalSession) : α :=
  if f c.row = f c.loaded then f r else f c.row

/-- **The UPDATE of a row** by its id. -/
def write (c : Change) (r : TerminalSession) : TerminalSession where
  id := r.id
  userId := r.userId
  deviceId := r.deviceId
  portId := r.portId
  status := c.column TerminalSession.status r
  connectedAt := r.connectedAt
  disconnectedAt := c.column TerminalSession.disconnectedAt r
  durationSeconds := c.column TerminalSession.durationSeconds r
  disconnectReason := c.column TerminalSession.disconnectReason r
  bridgeWorkerId := c.column TerminalSession.bridgeWorkerId r
  bridgeHeartbeatAt := c.column TerminalSession.bridgeHeartbeatAt r
  bridgeStatus := c.column TerminalSession.bridgeStatus r

theorem column_loaded (c : Change) (f : TerminalSession → α) : c.column f c.loaded = f c.row := by
  unfold column
  split
  · rename_i hsame
    exact hsame.symm
  · rfl

/-- Of a row that is as it was loaded the UPDATE makes what has been set. -/
theorem write_loaded (c : Change) : c.write c.loaded = c.row := by
  have hfixed := c.fixed
  simp only [TerminalSession.fixed, Prod.mk.injEq] at hfixed
  obtain ⟨hid, huser, hdevice, hport, hconnected⟩ := hfixed
  simp only [write, column_loaded, ← hid, ← huser, ← hdevice, ← hport, ← hconnected]

theorem id_eq (c : Change) : c.row.id = c.loaded.id := congrArg Prod.fst c.fixed

/-- What `end_session` sets. -/
def toEnded (now : Time) (reason : String) (r : TerminalSession) : Change :=
  ⟨r, ended now reason r, rfl⟩

/-- What a recovery and the startup sweep set. -/
def toDisconnected (now : Time) (reason : String) (r : TerminalSession) : Change :=
  ⟨r, disconnected now reason r, rfl⟩

end Change

/-! ## 2. Units of work -/

/-- **What a commit writes**: the rows that are set, and the leases that are deleted. -/
structure UnitOfWork where
  changes : List Change
  releases : PortLease → Bool

namespace UnitOfWork

variable (u : UnitOfWork)

/-- The row of session `i`, if the unit has set it. -/
def change? (i : Nat) : Option Change := u.changes.find? fun c => c.row.id == i

variable {u} in
theorem change?_some {i : Nat} {c : Change} (h : u.change? i = some c) :
    c ∈ u.changes ∧ c.row.id = i := by
  have hfind : u.changes.find? (fun c => c.row.id == i) = some c := h
  have hid := List.find?_some hfind
  exact ⟨List.mem_of_find?_eq_some hfind, beq_iff_eq.mp hid⟩

/-- What the commit makes of a session row. -/
def write (r : TerminalSession) : TerminalSession :=
  match u.change? r.id with
  | some c => c.write r
  | none => r

theorem write_id (r : TerminalSession) : (u.write r).id = r.id := by
  unfold write
  split <;> rfl

end UnitOfWork

/-- The rows that a db session has loaded and not expired, by id. -/
abbrev Loaded := Nat → Option TerminalSession

/-- Nothing is loaded. -/
def Loaded.nothing : Loaded := fun _ => none

namespace Server

variable (now : Time) (s : Server) (loaded : Loaded)

/-- `db_session.get(TerminalSession, i)`: what is loaded is not read again. -/
def getSession (i : Nat) : Option TerminalSession := (loaded i).orElse fun _ => s.sessions.get? i

/-- **The commit of a unit**: `none` where an UPDATE finds no row, and nothing is written. -/
def commit (u : UnitOfWork) : Option Server :=
  if u.changes.all fun c => decide (c.row = c.loaded) || (s.sessions.get? c.row.id).isSome then
    some { s with
      sessions := s.sessions.mapRows u.write u.write_id
      leases := s.leases.filterRows fun l => !u.releases l }
  else none

/-- What `end_session` has set before its commit. -/
def endUnit (i : Nat) (reason : String) : UnitOfWork where
  changes := ((s.getSession loaded i).map (Change.toEnded now reason)).toList
  releases l := l.sessionId == i

/-- What the startup sweep has set: the rows that are active in the database, as they are loaded. -/
def sweepUnit : UnitOfWork where
  changes := (s.sessions.rows.filter fun r => r.status == .active).map fun r =>
    Change.toDisconnected now "server_restart" ((loaded r.id).getD r)
  releases _ := false

/-- **A turn of the loop of a recovery** that began at `now`, for one expired lease. -/
def recoverLease (u : UnitOfWork) (l : PortLease) : UnitOfWork where
  changes :=
    if s.hasLocalBridge l.sessionId then u.changes
    else
      match ((u.change? l.sessionId).map Change.row).orElse fun _ =>
        s.getSession loaded l.sessionId with
      | some r =>
        if r.status = .active then
          u.changes ++ [Change.toDisconnected now "lease_expired" r]
        else u.changes
      | none => u.changes
  releases l' := u.releases l' || (l'.portId == l.portId && l'.sessionId == l.sessionId)

end Server

/-! ## 3. Handlers -/

/-- Where a handler is: in a phase of Cluster.lean, in the loop of a recovery, or before a commit,
    with the phase behind it. -/
inductive Stage where
  | at (ph : Phase)
  | recovering (began : Time) (expired : List PortLease) (u : UnitOfWork) (next : Phase)
  | committing (u : UnitOfWork) (next : Phase)

/-- **A handler**, and what its db session has loaded. -/
structure Handler where
  stage : Stage
  loaded : Loaded

/-- What a thread does: an event of Cluster.lean, or its db session loads a row in some query, or
    expires what it has loaded (at a commit, or at the end of a request). -/
inductive Deed where
  | event (e : Event)
  | load (i : Nat)
  | expire

namespace Server

variable (P : Process) (now : Time) (s : Server)

/-- `recover_stale_leases` has read the expired leases. -/
def recovery (next : Phase) : Stage :=
  match s.leases.rows.filter fun l => l.expired now with
  | [] => .at next
  | l :: ls => .recovering now (l :: ls) ⟨[], fun _ => false⟩ next

/-- **The reads of the phases that begin a unit of work**; `none` for the other phases. -/
def begins (loaded : Loaded) : Phase → Option (Server × Stage)
  | .reattaching h =>
    if h.bridge.graceOver now then
      some (s.closeSerial h.bridge.serial,
        .committing (s.endUnit now loaded h.id "user_disconnect") (.unresumed h.req h.id))
    else none
  | .created a => some (s, s.recovery now (.recovered a))
  | .failing i => some (s, .committing (s.endUnit now loaded i "error") .idle)
  | .ending i reason todo => some (s, .committing (s.endUnit now loaded i reason) (.working todo))
  | .recovering => some (s, s.recovery now .idle)
  | .sweeping => some (s, .committing (s.sweepUnit now loaded) .idle)
  | _ => none

/-- **The next step of a handler.** A commit that raises ends it. -/
def work (env : RequestEnv) (h : Handler) : Server × Handler :=
  match h.stage with
  | .at ph =>
    match s.begins now h.loaded ph with
    | some (s', stage) => (s', { h with stage })
    | none => ((s.advance P now env ph).1, { h with stage := .at (s.advance P now env ph).2 })
  | .recovering began (l :: ls) u next =>
    (s, { h with stage := .recovering began ls (s.recoverLease began h.loaded u l) next })
  | .recovering _ [] u next => (s, { h with stage := .committing u next })
  | .committing u next =>
    match s.commit u with
    | some s' => (s', ⟨.at next, Loaded.nothing⟩)
    | none => (s, ⟨.at .idle, Loaded.nothing⟩)

/-- What a thread of the worker does. -/
def toil (h : Handler) : Act → Option (Server × Handler)
  | .call k =>
    match h.stage with
    | .at .idle => some (s, { h with stage := .at k.phase })
    | _ => none
  | .step env => some (s.work P now env h)
  | .read conn answer => some (s.readConn P now conn answer, h)
  | .input sid data ok => some ((s.writeToSerial now sid data ok).1, h)

end Server

/-- **The machine.** -/
def records (D : Deployment) : Program Shared Thread Handler Deed := fun t d c h =>
  match d with
  | .event e =>
    if c.clock ≤ e.now then
      ((D.view c t.worker e.now).toil (D.process t.worker) e.now h e.act).map fun r =>
        (c.store t.worker e.now r.1, r.2)
    else none
  | .load i =>
    some (c, { h with loaded := fun j => if j = i then c.sessions.get? i else h.loaded j })
  | .expire => some (c, { h with loaded := Loaded.nothing })

/-- The processes with their handlers. -/
abbrev Records := World Shared Thread Handler

/-! ## 4. What a step writes to the session rows -/

/-- What a step writes: in a statement of its own, or at the commit of a unit. -/
inductive RecordWrite where
  | direct (wr : Write)
  | unit (u : UnitOfWork)

/-- The write of a phase that begins no unit. -/
def Write.direct : Write → Write
  | .ends _ | .recovers | .sweeps => .nothing
  | wr => wr

/-- What a handler writes on an event. -/
def Handler.write (h : Handler) (e : Event) : RecordWrite :=
  match e.act with
  | .step _ =>
    match h.stage with
    | .at ph => .direct (ph.write e.now).direct
    | .recovering _ _ _ _ => .direct .nothing
    | .committing u _ => .unit u
  | .read _ _ => .direct .beats
  | .call _ | .input _ _ _ => .direct .nothing

/-- **The session rows after a write** of a process that sees `s`; a commit may raise. -/
inductive RecordRows (P : Process) (now : Time) (s : Server) (rows : Table TerminalSession) :
    RecordWrite → Prop where
  | direct {wr : Write} (h : RowWrite P now s rows wr) : RecordRows P now s rows (.direct wr)
  | raised {u : UnitOfWork} (h : rows = s.sessions) : RecordRows P now s rows (.unit u)
  | commit {u : UnitOfWork} (h : rows = s.sessions.mapRows u.write u.write_id) :
      RecordRows P now s rows (.unit u)

section Rows

variable {P : Process} {now : Time} {s s' : Server} {loaded : Loaded} {ph : Phase} {stage : Stage}

/-- The reads of a unit write nothing. -/
theorem begins_some (h : s.begins now loaded ph = some (s', stage)) :
    s'.sessions = s.sessions ∧ (ph.write now).direct = .nothing := by
  cases ph with
  | reattaching held =>
      simp only [Server.begins, Option.ite_none_right_eq_some] at h
      obtain ⟨hover, h⟩ := h
      cases h
      exact ⟨rfl, by simp only [Phase.write, if_pos hover, Write.direct]⟩
  | created | failing | ending | recovering | sweeping =>
      cases h
      exact ⟨rfl, rfl⟩
  | _ => cases h

theorem begins_none (h : s.begins now loaded ph = none) :
    (ph.write now).direct = ph.write now := by
  cases ph with
  | reattaching held =>
      simp only [Server.begins, ite_eq_right_iff, reduceCtorEq, imp_false] at h
      simp only [Phase.write, if_neg h, Write.direct]
  | created | failing | ending | recovering | sweeping => cases h
  | looping q ports => cases ports <;> rfl
  | _ => rfl

/-- The commit of a unit writes its rows, or it raises and writes nothing. -/
theorem commit_some {u : UnitOfWork} (h : s.commit u = some s') :
    s'.sessions = s.sessions.mapRows u.write u.write_id := by
  rw [Server.commit, Option.ite_none_right_eq_some] at h
  obtain ⟨-, h⟩ := h
  cases h
  rfl

/-- **What a handler's step writes.** -/
theorem work_rows (P : Process) (now : Time) (s : Server) (env : RequestEnv) (h : Handler) :
    RecordRows P now s (s.work P now env h).1.sessions (h.write ⟨now, .step env⟩) := by
  obtain ⟨stage, loaded⟩ := h
  cases stage with
  | «at» ph =>
      simp only [Server.work, Handler.write]
      split
      · rename_i hbegins
        obtain ⟨hrows, hdirect⟩ := begins_some hbegins
        rw [hdirect]
        exact .direct (.nothing hrows)
      · rename_i hbegins
        rw [begins_none hbegins]
        exact .direct (advance_rows P now s env ph)
  | recovering began expired u next =>
      cases expired with
      | nil => exact .direct (.nothing rfl)
      | cons l ls => exact .direct (.nothing rfl)
  | committing u next =>
      simp only [Server.work, Handler.write]
      split
      · rename_i hcommit
        exact .commit (commit_some hcommit)
      · exact .raised rfl

/-- **What a thread writes.** -/
theorem toil_rows {e : Event} {h h' : Handler}
    (ht : s.toil P e.now h e.act = some (s', h')) :
    RecordRows P e.now s s'.sessions (h.write e) := by
  obtain ⟨now, act⟩ := e
  cases act with
  | call k =>
      simp only [Server.toil] at ht
      split at ht
      · cases ht
        exact .direct (.nothing rfl)
      · cases ht
  | step env =>
      have hs' : (s.work P now env h).1 = s' := congrArg Prod.fst (Option.some.inj ht)
      rw [← hs']
      exact work_rows P now s env h
  | read conn answer =>
      cases ht
      exact .direct (readConn_rows P now s conn answer)
  | input sid data ok =>
      cases ht
      exact .direct (.nothing (sessions_writeToSerial s now sid data ok))

/-- **What a turn of the machine writes**: that of its event, or nothing. -/
theorem records_rows {D : Deployment} {t : Thread} {d : Deed} {c c' : Shared} {h h' : Handler}
    (ht : records D t d c h = some (c', h')) :
    (∃ e, d = .event e ∧
      RecordRows (D.process t.worker) e.now (D.view c t.worker e.now) c'.sessions (h.write e)) ∨
    c' = c := by
  cases d with
  | event e =>
      simp only [records, Option.ite_none_right_eq_some] at ht
      obtain ⟨-, ht⟩ := ht
      obtain ⟨⟨s', h''⟩, hs, heq⟩ := Option.map_eq_some_iff.mp ht
      cases heq
      exact .inl ⟨e, rfl, toil_rows hs⟩
  | load i =>
      cases ht
      exact .inr rfl
  | expire =>
      cases ht
      exact .inr rfl

end Rows

/-! ## 5. Units that nothing comes between -/

section Alone

variable {now : Time} {s : Server}

/-- The commit of a unit whose rows are there. -/
theorem commit_eq {u : UnitOfWork} (f : TerminalSession → TerminalSession)
    (hf : ∀ r, (f r).id = r.id) (hrow : ∀ c ∈ u.changes, (s.sessions.get? c.row.id).isSome = true)
    (hwrite : ∀ r ∈ s.sessions, u.write r = f r) :
    s.commit u = some { s with
      sessions := s.sessions.mapRows f hf
      leases := s.leases.filterRows fun l => !u.releases l } := by
  have hall : (u.changes.all fun c =>
      decide (c.row = c.loaded) || (s.sessions.get? c.row.id).isSome) = true :=
    List.all_eq_true.mpr fun c hc => by rw [hrow c hc, Bool.or_true]
  have hsessions : s.sessions.mapRows u.write u.write_id = s.sessions.mapRows f hf :=
    Table.ext_rows (List.map_congr_left hwrite)
  rw [Server.commit, if_pos hall, hsessions]

/-- **`end_session`.** -/
theorem commit_endUnit (i : Nat) (reason : String) :
    s.commit (s.endUnit now Loaded.nothing i reason) = some (s.endSession now i reason) := by
  have hget : s.getSession Loaded.nothing i = s.sessions.get? i := rfl
  have hid : ∀ {r}, s.sessions.get? i = some r → r.id = i := fun hr => (Table.get?_eq_some.mp hr).2
  have hchanges : (s.endUnit now Loaded.nothing i reason).changes =
      ((s.sessions.get? i).map (Change.toEnded now reason)).toList := by rw [← hget]; rfl
  have hcommit := commit_eq (s := s) (u := s.endUnit now Loaded.nothing i reason)
    (Table.atKey i (ended now reason)) (Table.atKey_key _ fun _ => rfl) ?_ ?_
  · exact hcommit
  · intro c hc
    rw [hchanges] at hc
    obtain ⟨r, hr, rfl⟩ := Option.map_eq_some_iff.mp (Option.mem_toList.mp hc)
    have hrow : (Change.toEnded now reason r).row.id = i := (hid hr : r.id = i)
    rw [hrow, hr]
    rfl
  · intro r hr
    rw [UnitOfWork.write, UnitOfWork.change?, hchanges]
    by_cases hri : r.id = i
    · have hrow : s.sessions.get? i = some r := Table.get?_eq_some.mpr ⟨hr, hri⟩
      rw [hrow, Table.atKey_self hri]
      simp only [Option.map_some, Option.toList_some, List.find?_cons]
      rw [show ((Change.toEnded now reason r).row.id == r.id) = true from beq_self_eq_true _]
      exact Change.write_loaded (Change.toEnded now reason r)
    · rw [Table.atKey_other hri]
      cases hrow : s.sessions.get? i with
      | none => rfl
      | some q =>
          have hqi : (Change.toEnded now reason q).row.id = i := (hid hrow : q.id = i)
          have hq : ((Change.toEnded now reason q).row.id == r.id) = false :=
            beq_false_of_ne fun h => hri (h.symm.trans hqi)
          simp only [Option.map_some, Option.toList_some, List.find?_cons, hq, List.find?_nil]

/-- **The startup sweep.** -/
theorem commit_sweepUnit :
    s.commit (s.sweepUnit now Loaded.nothing) = some (s.sweepSessions now) := by
  have hleases : s.leases.filterRows (fun _ => !false) = s.leases :=
    Table.ext_rows (List.filter_eq_self.mpr fun _ _ => rfl)
  have hcommit := commit_eq (s := s) (u := s.sweepUnit now Loaded.nothing) (sweptSession now)
    (sweptSession_id now) ?_ ?_
  · rw [hcommit]
    change some { s with
      sessions := s.sessions.mapRows (sweptSession now) (sweptSession_id now)
      leases := s.leases.filterRows fun _ => !false } = _
    rw [hleases]
    rfl
  · intro c hc
    obtain ⟨r, hr, rfl⟩ := List.mem_map.mp hc
    have hget : s.sessions.get? r.id = some r := Table.get?_key (List.mem_of_mem_filter hr)
    change (s.sessions.get? r.id).isSome = true
    rw [hget]
    rfl
  · intro r hr
    have hfind : (s.sweepUnit now Loaded.nothing).change? r.id =
        ((s.sessions.get? r.id).filter fun r => r.status == .active).map
          (Change.toDisconnected now "server_restart") := by
      rw [← Table.get?_filterRows, UnitOfWork.change?, Server.sweepUnit, List.find?_map]
      rfl
    rw [UnitOfWork.write, hfind, show s.sessions.get? r.id = some r from Table.get?_key hr,
      Option.filter_some]
    by_cases hact : r.status = .active
    · rw [if_pos (beq_iff_eq.mpr hact), sweptSession, if_pos hact]
      exact Change.write_loaded (Change.toDisconnected now "server_restart" r)
    · rw [if_neg fun h => hact (beq_iff_eq.mp h), sweptSession, if_neg hact]
      rfl

/-- What a turn of a recovery for a lease of session `i` sets. -/
def recoveredRow (s : Server) (now : Time) (i : Nat) : Option Change :=
  if s.hasLocalBridge i then none
  else ((s.sessions.get? i).filter fun r => r.status == .active).map
    (Change.toDisconnected now "lease_expired")

theorem recoveredRow_some {i : Nat} {c : Change} (h : recoveredRow s now i = some c) :
    c.row.id = i ∧ c.row.status = .disconnected ∧ (s.sessions.get? i).isSome = true := by
  unfold recoveredRow at h
  split at h
  · cases h
  · obtain ⟨r, hr, rfl⟩ := Option.map_eq_some_iff.mp h
    have hget := (Option.filter_eq_some_iff.mp hr).1
    exact ⟨(Table.get?_eq_some.mp hget).2, rfl, by rw [hget]; rfl⟩

/-- Rows that the unit has set are not active any more. -/
def UnitOfWork.Over (u : UnitOfWork) : Prop := ∀ c ∈ u.changes, c.row.status = .disconnected

/-- **A turn of the loop** sets the row of its lease, if it has not been set. -/
theorem recoverLease_changes {u : UnitOfWork} (hover : u.Over) (l : PortLease) :
    (s.recoverLease now Loaded.nothing u l).changes = u.changes ++
      if (u.change? l.sessionId).isSome then [] else (recoveredRow s now l.sessionId).toList := by
  have hget : s.getSession Loaded.nothing l.sessionId = s.sessions.get? l.sessionId := rfl
  unfold Server.recoverLease recoveredRow
  dsimp only
  rw [hget]
  split
  · simp only [Option.toList_none, ite_self, List.append_nil]
  · cases hc : u.change? l.sessionId with
    | some c =>
        have hdone : ¬c.row.status = .active := by
          rw [hover c (UnitOfWork.change?_some hc).1]
          exact nofun
        simp only [Option.map_some, Option.orElse_some, if_neg hdone, Option.isSome_some,
          if_true, List.append_nil]
    | none =>
        cases hr : s.sessions.get? l.sessionId with
        | none =>
            simp only [Option.map_none, Option.orElse_none, Option.filter_none, Option.toList_none,
              ite_self, List.append_nil]
        | some r =>
            simp only [Option.map_none, Option.orElse_none, Option.filter_some, beq_iff_eq,
              Option.isSome_none, Bool.false_eq_true, if_false]
            split
            · rfl
            · simp only [Option.map_none, Option.toList_none, List.append_nil]

theorem recoverLease_over {u : UnitOfWork} (hover : u.Over) (l : PortLease) :
    (s.recoverLease now Loaded.nothing u l).Over := by
  intro c hc
  rw [recoverLease_changes hover, List.mem_append] at hc
  rcases hc with hc | hc
  · exact hover c hc
  · split at hc
    · cases hc
    · exact (recoveredRow_some (Option.mem_toList.mp hc)).2.1

theorem recoverLease_change? {u : UnitOfWork} (hover : u.Over) (l : PortLease) (i : Nat) :
    (s.recoverLease now Loaded.nothing u l).change? i =
      (u.change? i).or (if l.sessionId = i then recoveredRow s now i else none) := by
  rw [UnitOfWork.change?, recoverLease_changes hover, List.find?_append]
  change (u.change? i).or _ = _
  cases hi : u.change? i with
  | some c => rfl
  | none =>
      rw [Option.none_or, Option.none_or]
      by_cases hl : l.sessionId = i
      · rw [hl, hi, if_pos rfl]
        cases hrow : recoveredRow s now i with
        | none => rfl
        | some c =>
            change [c].find? _ = some c
            rw [List.find?_cons, (beq_iff_eq.mpr (recoveredRow_some hrow).1)]
      · rw [if_neg hl]
        split
        · rfl
        · cases hrow : recoveredRow s now l.sessionId with
          | none => rfl
          | some c =>
              have hne : (c.row.id == i) = false :=
                beq_false_of_ne ((recoveredRow_some hrow).1 ▸ hl)
              change [c].find? _ = none
              rw [List.find?_cons, hne]
              rfl

/-- **The loop** over the leases `ls`. -/
theorem recovered_change? (ls : List PortLease) : ∀ u : UnitOfWork, u.Over →
    (ls.foldl (s.recoverLease now Loaded.nothing) u).Over ∧
      (∀ i, (ls.foldl (s.recoverLease now Loaded.nothing) u).change? i =
        (u.change? i).or (if ls.any (·.sessionId == i) then recoveredRow s now i else none)) ∧
      ∀ l', (ls.foldl (s.recoverLease now Loaded.nothing) u).releases l' =
        (u.releases l' ||
          ls.any fun l => l'.portId == l.portId && l'.sessionId == l.sessionId) := by
  induction ls with
  | nil =>
      exact fun u hover =>
        ⟨hover, fun i => (Option.or_none).symm, fun l' => (Bool.or_false _).symm⟩
  | cons l ls ih =>
      intro u hover
      obtain ⟨hover', hchange, hreleases⟩ := ih _ (recoverLease_over hover l)
      refine ⟨hover', fun i => ?_, fun l' => ?_⟩
      · rw [List.foldl_cons, hchange, recoverLease_change? hover, Option.or_assoc, List.any_cons]
        congr 1
        by_cases hl : l.sessionId = i
        · rw [if_pos hl, beq_iff_eq.mpr hl, Bool.true_or, if_pos rfl]
          cases recoveredRow s now i with
          | none => rw [ite_self]; rfl
          | some c => rfl
        · rw [if_neg hl, beq_false_of_ne hl, Bool.false_or, Option.none_or]
      · rw [List.foldl_cons, hreleases, List.any_cons, ← Bool.or_assoc]
        rfl

/-- What the whole loop has set, for the leases that are expired. -/
def recoveredUnit (s : Server) (now : Time) : UnitOfWork :=
  (s.leases.rows.filter fun l => l.expired now).foldl (s.recoverLease now Loaded.nothing)
    ⟨[], fun _ => false⟩

theorem recoveredUnit_loop :
    (∀ i, (recoveredUnit s now).change? i =
      if (s.leases.rows.filter fun l => l.expired now).any (·.sessionId == i) then
        recoveredRow s now i
      else none) ∧
      ∀ l', (recoveredUnit s now).releases l' =
        (s.leases.rows.filter fun l => l.expired now).any fun l =>
          l'.portId == l.portId && l'.sessionId == l.sessionId :=
  (recovered_change? _ ⟨[], fun _ => false⟩ fun _ hc => absurd hc List.not_mem_nil).2

theorem recoveredUnit_change? (i : Nat) : (recoveredUnit s now).change? i =
    if s.leases.rows.any fun l => l.expired now && l.sessionId == i then recoveredRow s now i
    else none := by
  rw [recoveredUnit_loop.1 i, List.any_filter]

/-- It deletes the expired leases. -/
theorem recoveredUnit_releases {l' : PortLease} (hl' : l' ∈ s.leases) :
    (recoveredUnit s now).releases l' = l'.expired now := by
  refine (recoveredUnit_loop.2 l').trans (Bool.eq_iff_iff.mpr ⟨fun h => ?_, fun h => ?_⟩)
  · obtain ⟨l, hl, hsame⟩ := List.any_eq_true.mp h
    obtain ⟨hmem, hexpired⟩ := List.mem_filter.mp hl
    obtain rfl : l = l' :=
      Table.eq_of_key hmem hl' (beq_iff_eq.mp (Bool.and_eq_true_iff.mp hsame).1).symm
    exact hexpired
  · exact List.any_eq_true.mpr ⟨l', List.mem_filter.mpr ⟨hl', h⟩, by
      rw [beq_self_eq_true, beq_self_eq_true, Bool.true_and]⟩

/-- It sets the rows that `recoverSession` ends. -/
theorem recoveredUnit_write {r : TerminalSession} (hr : r ∈ s.sessions) :
    (recoveredUnit s now).write r = s.recoverSession now r := by
  have hget : s.sessions.get? r.id = some r := Table.get?_key hr
  have hwrite := Change.write_loaded (Change.toDisconnected now "lease_expired" r)
  rw [UnitOfWork.write, recoveredUnit_change?]
  unfold recoveredRow Server.recoverSession
  rw [hget, Option.filter_some]
  by_cases hact : r.status = .active
  · rw [if_pos (beq_iff_eq.mpr hact)]
    generalize (s.leases.rows.any fun l => l.expired now && l.sessionId == r.id) = expires
    cases expires <;> cases s.hasLocalBridge r.id <;> simp only [hact] <;>
      first | rfl | exact hwrite
  · rw [if_neg fun h => hact (beq_iff_eq.mp h), Option.map_none, ite_self, ite_self]
    exact (if_neg fun h => hact h.1).symm

/-- **`recover_stale_leases`.** -/
theorem commit_recovered :
    s.commit (recoveredUnit s now) = some (s.recoverStaleLeases now) := by
  have hleases : (s.leases.filterRows fun l => !(recoveredUnit s now).releases l) =
      s.leases.filterRows fun l => !l.expired now :=
    Table.ext_rows (List.filter_congr fun l hl => congrArg (!·) (recoveredUnit_releases hl))
  refine (commit_eq (s.recoverSession now) (s.recoverSession_id now) (fun c hc => ?_)
    fun r hr => recoveredUnit_write hr).trans ?_
  · have hsome : ((recoveredUnit s now).change? c.row.id).isSome = true :=
      List.find?_isSome.mpr ⟨c, hc, beq_self_eq_true _⟩
    obtain ⟨c', hc'⟩ := Option.isSome_iff_exists.mp hsome
    rw [recoveredUnit_change?] at hc'
    split at hc'
    · exact (recoveredRow_some hc').2.2
    · cases hc'
  · rw [hleases]
    rfl

end Alone

end RetroBridge.Terminal
