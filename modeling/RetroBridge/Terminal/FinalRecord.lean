/-
  File:      RetroBridge/Terminal/FinalRecord.lean
  Subject:   THE RECORD OF A SESSION THAT IS OVER, under writes of several processes
             (retrobridge/terminal/utils.py: `end_session`, `_update_bridge_registry`,
             `recover_stale_leases`; retrobridge/__init__.py: `_cleanup_orphaned_sessions`).

  * `Recorded` -- every disconnected row names no driving process;
  * `Change.spares` -- an UPDATE that finds a row that is not disconnected, and leaves none of its
    driving columns set;
  * `respectsFinal` -- the writes that leave the disconnected rows alone: statements that find none,
    and commits of units all of whose UPDATEs are such;
  * `RowWrite.keeps`, `keeps_commit` -- such a write keeps every disconnected row as it is;
  * `final_record_run` -- **in a run of such writes a disconnected row never changes again**;
  * `record_rewritten` -- a session ended by one process, and ended again by the one that drives it.
-/
import RetroBridge.Terminal.UnitOfWork

namespace RetroBridge.Terminal

open Relational Ordered Transition Interleaved

/-! ## 1. The property -/

/-- No process is said to drive the session. -/
def TerminalSession.Undriven (r : TerminalSession) : Prop :=
  r.bridgeWorkerId = none ∧ r.bridgeHeartbeatAt = none ∧ r.bridgeStatus = none

/-- **Every disconnected row names no driving process.** -/
def Recorded (rows : Table TerminalSession) : Prop :=
  ∀ i r, rows.get? i = some r → r.status = .disconnected → r.Undriven

/-- A driving column is null behind an UPDATE: null and not written, or written to be null. -/
def Change.clears {α : Type} [DecidableEq α] (c : Change) (f : TerminalSession → Option α)
    (r : TerminalSession) : Bool :=
  if f c.row = f c.loaded then (f r).isNone else (f c.row).isNone

/-- **The UPDATE finds a row that is not disconnected**, and leaves no driving column of it set. -/
def Change.spares (c : Change) (r : TerminalSession) : Bool :=
  r.status != .disconnected && (c.clears TerminalSession.bridgeWorkerId r &&
    (c.clears TerminalSession.bridgeHeartbeatAt r && c.clears TerminalSession.bridgeStatus r))

/-- The row of session `i`, if there is one, is not disconnected. -/
def Server.notOver (s : Server) (i : Nat) : Bool :=
  (s.sessions.get? i).all fun r => r.status != .disconnected

/-- The statements that respect final records: a registry update and a deletion find a row that is
    not disconnected. An end, a recovery and a sweep are no statements, but units of work. -/
def Write.respects (s : Server) : Write → Bool
  | .nothing | .beats | .creates _ => true
  | .drives i | .deletes i => s.notOver i
  | .ends _ | .recovers | .sweeps => false

/-- The writes that respect final records: of a unit, every UPDATE does. -/
def RecordWrite.respects (s : Server) : RecordWrite → Bool
  | .direct wr => wr.respects s
  | .unit u => u.changes.all fun c => (s.sessions.get? c.row.id).all c.spares

/-- **The steps that respect final records.** -/
def respectsFinal (D : Deployment) (w : Records) (l : Thread × Deed) : Bool :=
  match l.2 with
  | .event e => ((w.phase l.1).write e).respects (D.view w.shared l.1.worker e.now)
  | .load _ | .expire => true

/-! ## 2. One write -/

section Rows

variable {P : Process} {now : Time} {s : Server} {rows : Table TerminalSession}

/-- What a write keeps of the disconnected rows. -/
structure Keeps (old rows : Table TerminalSession) : Prop where
  recorded : Recorded rows
  row : ∀ i r, old.get? i = some r → r.status = .disconnected → rows.get? i = some r

theorem Keeps.same (h : Recorded s.sessions) (hrows : rows = s.sessions) :
    Keeps s.sessions rows := by
  subst hrows
  exact ⟨h, fun _ _ hr _ => hr⟩

theorem Server.notOver_ne {i j : Nat} {r : TerminalSession} (h : s.notOver i = true)
    (hr : s.sessions.get? j = some r) (hover : r.status = .disconnected) : j ≠ i := by
  rintro rfl
  rw [Server.notOver, hr] at h
  simp [hover] at h

/-- **A statement that respects final records keeps them.** -/
theorem RowWrite.keeps {wr : Write} (hw : RowWrite P now s rows wr) (h : Recorded s.sessions)
    (hrespects : wr.respects s = true) : Keeps s.sessions rows where
  recorded i r' hr' hover := by
    cases hw.at i with
    | new hwr hi hget =>
        rw [hget] at hr'
        cases hr'
        cases hover
    | gone _ hget | absent _ hget =>
        rw [hget] at hr'
        cases hr'
    | @row r _ h0 hget hc =>
        rw [hget] at hr'
        cases hr'
        cases hc with
        | same => exact h i _ h0 hover
        | beaten hworker =>
            rw [(h i r h0 hover).1] at hworker
            cases hworker
        | driven =>
            have hid : r.id = i := (Table.get?_eq_some.mp h0).2
            exact absurd hid.symm (Server.notOver_ne hrespects h0 hover)
        | ended | recovered | swept => cases hrespects
  row i r hr hover := by
    cases hw.at i with
    | new _ hi _ =>
        rw [hi, Table.get?_nextKey] at hr
        cases hr
    | gone hwr hget =>
        subst hwr
        exact absurd rfl (Server.notOver_ne hrespects hr hover)
    | absent h0 hget =>
        rw [hr] at h0
        cases h0
    | row h0 hget hc =>
        rw [hr] at h0
        cases h0
        have hid : r.id = i := (Table.get?_eq_some.mp hr).2
        cases hc with
        | same => exact hget
        | driven => exact absurd hid.symm (Server.notOver_ne hrespects hr hover)
        | beaten hworker =>
            -- a disconnected row names no process, so not this one
            rw [(h i r hr hover).1] at hworker
            cases hworker
        | ended | recovered | swept => cases hrespects

theorem Change.column_clears {α : Type} [DecidableEq α] {c : Change}
    {f : TerminalSession → Option α} {r : TerminalSession} (h : c.clears f r = true) :
    c.column f r = none := by
  unfold Change.clears at h
  unfold Change.column
  split at h
  · rename_i hsame
    rw [if_pos hsame]
    exact Option.isNone_iff_eq_none.mp h
  · rename_i hset
    rw [if_neg hset]
    exact Option.isNone_iff_eq_none.mp h

/-- **An UPDATE that spares the record**: the row was not disconnected, and nobody drives it
    behind it. -/
theorem Change.spares_write {c : Change} {r : TerminalSession} (h : c.spares r = true) :
    r.status ≠ .disconnected ∧ (c.write r).Undriven := by
  simp only [Change.spares, Bool.and_eq_true, bne_iff_ne] at h
  obtain ⟨hover, hworker, hheartbeat, hstatus⟩ := h
  exact ⟨hover, column_clears hworker, column_clears hheartbeat, column_clears hstatus⟩

/-- **A commit that respects final records keeps them.** -/
theorem keeps_commit {u : UnitOfWork} (h : Recorded s.sessions)
    (hrespects : (RecordWrite.unit u).respects s = true) :
    Keeps s.sessions (s.sessions.mapRows u.write u.write_id) := by
  have hspares : ∀ i r c, s.sessions.get? i = some r → u.change? r.id = some c →
      c.spares r = true := by
    intro i r c hr hc
    obtain ⟨hmem, hid⟩ := UnitOfWork.change?_some hc
    have hcommit := List.all_eq_true.mp hrespects c hmem
    have hkey : r.id = i := (Table.get?_eq_some.mp hr).2
    rw [hid, hkey, hr] at hcommit
    exact hcommit
  refine ⟨fun i r' hr' hover => ?_, fun i r hr hover => ?_⟩
  · rw [Table.get?_mapRows] at hr'
    obtain ⟨r, hr, rfl⟩ := Option.map_eq_some_iff.mp hr'
    unfold UnitOfWork.write at hover ⊢
    cases hc : u.change? r.id with
    | none =>
        rw [hc] at hover
        exact h i r hr hover
    | some c => exact (Change.spares_write (hspares i r c hr hc)).2
  · have hnone : u.change? r.id = none := by
      cases hc : u.change? r.id with
      | none => rfl
      | some c => exact absurd hover (Change.spares_write (hspares i r c hr hc)).1
    rw [Table.get?_mapRows, hr, Option.map_some, UnitOfWork.write, hnone]

/-- **A write that respects final records keeps them.** -/
theorem RecordRows.keeps {wr : RecordWrite} (hw : RecordRows P now s rows wr)
    (h : Recorded s.sessions) (hrespects : wr.respects s = true) : Keeps s.sessions rows := by
  cases hw with
  | direct hw => exact hw.keeps h hrespects
  | raised hrows => exact .same h hrows
  | commit hrows => exact hrows ▸ keeps_commit h hrespects

end Rows

/-! ## 3. Runs -/

/-- **One step.** -/
theorem keeps_turn {D : Deployment} {w w' : Records} {l : Thread × Deed}
    (h : Recorded w.shared.sessions) (hok : respectsFinal D w l = true)
    (hs : Turn (records D) w l w') : Keeps w.shared.sessions w'.shared.sessions := by
  obtain ⟨c', h', hprog, rfl⟩ := turn_some.mp hs
  obtain ⟨t, d⟩ := l
  rcases records_rows hprog with ⟨e, rfl, hrows⟩ | hsame
  · exact hrows.keeps h hok
  · rw [World.move_shared, hsame]
    exact ⟨h, fun _ _ hr _ => hr⟩

/-- **A disconnected session's record is final**: in every run whose steps respect final records, a
    row that is disconnected in some state names no driving process, and is the same in every later
    state. -/
theorem final_record_run {D : Deployment} {w₀ w₁ w₂ : Records} {ls₁ ls₂ : List (Thread × Deed)}
    {i : Nat} {r : TerminalSession} (h0 : Recorded w₀.shared.sessions)
    (h₁ : Run (guarded (Turn (records D)) fun w l => respectsFinal D w l = true) w₀ ls₁ w₁)
    (hr : w₁.shared.sessions.get? i = some r) (hover : r.status = .disconnected)
    (h₂ : Run (guarded (Turn (records D)) fun w l => respectsFinal D w l = true) w₁ ls₂ w₂) :
    w₂.shared.sessions.get? i = some r ∧ r.Undriven := by
  have hmid : Recorded w₁.shared.sessions :=
    h₁.invariant (I := fun w => Recorded w.shared.sessions) h0
      fun w l w' h hs => (keeps_turn h hs.1 hs.2).recorded
  have hend : Recorded w₂.shared.sessions ∧ w₂.shared.sessions.get? i = some r :=
    h₂.invariant (I := fun w => Recorded w.shared.sessions ∧ w.shared.sessions.get? i = some r)
      ⟨hmid, hr⟩ fun w l w' h hs =>
        ⟨(keeps_turn h.1 hs.1 hs.2).recorded, (keeps_turn h.1 hs.1 hs.2).row i r h.2 hover⟩
  exact ⟨hend.2, hmid i r hr hover⟩

/-! ## 4. Small runs -/

/-- `office` before its first request, every db session empty. -/
def recordsStart : Records where
  shared := officeStart.shared
  phase _ := ⟨.at .idle, Loaded.nothing⟩

/-- What the handlers of `office` do. -/
def deeds (ls : List (Thread × Event)) : List (Thread × Deed) := ls.map fun l => (l.1, .event l.2)

theorem recordsStart_recorded : Recorded recordsStart.shared.sessions := fun _ _ hr => nomatch hr

/-- User 1's session starts and ends, and after it user 2's starts in another worker. -/
theorem final_record_run_small : ∃ ls₁ w₁ ls₂ w₂ r,
    Run (Turn (records office)) recordsStart ls₁ w₁ ∧
    w₁.shared.sessions.get? 1 = some r ∧ r.status = .disconnected ∧
    Run (Turn (records office)) w₁ ls₂ w₂ ∧
    (w₂.shared.sessions.get? 2).isSome = true ∧ w₂.shared.sessions.get? 1 = some r := by
  have h : (execAll (execWhen (respectsFinal office) (turn (records office))) recordsStart
      (deeds (officeCall "a" 0 0 (.request "alice" 1) 11 ++
        officeCall "a" 1 5 (.clientDisconnect "alice") 4))).any (fun w =>
      (execAll (execWhen (respectsFinal office) (turn (records office))) w
        (deeds (officeCall "b" 0 9 (.request "bob" 2) 11))).any fun w' =>
          (w.shared.sessions.get? 1).any (fun r => r.status == .disconnected) &&
            (w'.shared.sessions.get? 2).isSome) = true := by decide
  obtain ⟨w₁, w₂, hr₁, hr₂, hp⟩ := exists_two_guarded_runs (fun _ _ hok => hok) h
  obtain ⟨hover, hsecond⟩ := Bool.and_eq_true_iff.mp hp
  obtain ⟨r, hr, hstatus⟩ := (Option.any_eq_true _ _).mp hover
  exact ⟨_, w₁, _, w₂, r, hr₁.of_guarded, hr, beq_iff_eq.mp hstatus, hr₂.of_guarded, hsecond,
    (final_record_run recordsStart_recorded hr₁ hr (beq_iff_eq.mp hstatus) hr₂).1⟩

/-- **A record is rewritten**: an admin's worker ends the session, and then the worker that drives
    it ends it again, with its own reason and time. -/
theorem record_rewritten : ∃ ls₁ w₁ ls₂ w₂ r r',
    Run (Turn (records office)) recordsStart ls₁ w₁ ∧
    w₁.shared.sessions.get? 1 = some r ∧ r.status = .disconnected ∧
    Run (Turn (records office)) w₁ ls₂ w₂ ∧ w₂.shared.sessions.get? 1 = some r' ∧
    r'.disconnectReason ≠ r.disconnectReason ∧ r'.disconnectedAt ≠ r.disconnectedAt := by
  have h : (execAll (turn (records office)) recordsStart
      (deeds (officeCall "a" 0 0 (.request "alice" 1) 11 ++
        officeCall "b" 0 5 (.force 1) 5))).any (fun w =>
      (execAll (turn (records office)) w
        (deeds (officeCall "a" 1 9 (.clientDisconnect "alice") 4))).any fun w' =>
          (w.shared.sessions.get? 1).any fun r => r.status == .disconnected &&
            (w'.shared.sessions.get? 1).any fun r' =>
              r'.disconnectReason != r.disconnectReason && r'.disconnectedAt != r.disconnectedAt) =
        true := by decide
  obtain ⟨w₁, w₂, hr₁, hr₂, hp⟩ := exists_two_runs h
  obtain ⟨r, hr, hp⟩ := (Option.any_eq_true _ _).mp hp
  obtain ⟨hstatus, hp⟩ := Bool.and_eq_true_iff.mp hp
  obtain ⟨r', hr', hp⟩ := (Option.any_eq_true _ _).mp hp
  simp only [Bool.and_eq_true, bne_iff_ne] at hp
  exact ⟨_, w₁, _, w₂, r, r', hr₁, hr, beq_iff_eq.mp hstatus, hr₂, hr', hp.1, hp.2⟩

-- Two recoveries in workers without the bridge read the row of an expired lease before either
-- commits, and the later commit rewrites the time.
example : ((execAll (turn (records office)) recordsStart (deeds
    (officeCall "a" 0 0 (.request "alice" 1) 11 ++
      officeCall "b" 0 (seconds 400) .recover 3 ++ officeCall "c" 0 (seconds 401) .recover 3 ++
      [officeStep "b" 0 (seconds 401)]))).any fun w =>
    (turn (records office) w (⟨"c", 0⟩, .event (officeStep "c" 0 (seconds 401)).2)).any fun w' =>
      (w.shared.sessions.get? 1).any fun r => r.status == .disconnected &&
        (w'.shared.sessions.get? 1).any fun r' =>
          r'.disconnectedAt != r.disconnectedAt) = true := by decide

end RetroBridge.Terminal
