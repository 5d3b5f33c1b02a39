/-
  File:      RetroBridge/Terminal/Budget.lean
  Subject:   THE RUNTIME BUDGET COUNTS ACTIVE TIME ONLY (retrobridge/terminal/utils.py:
             `start_bridge`, `suspend_bridge`, `resume_bridge`, `check_timeouts`). A resume moves
             `start_time` by the time the bridge was suspended.

  * `OnBudget` -- what the times of a bridge say of the life behind it, by its place;
  * `OnBudget.step` -- one step of a life keeps it;
  * `history_onBudget` -- **every history does**, at positive times;
  * `budget_run` -- so `check_timeouts` ends a bridge for its runtime exactly when the time it has
    spent active is over the limit.
-/
import Mathlib.Tactic.Linarith
import RetroBridge.Terminal.History
import RetroBridge.Terminal.Timeouts

namespace RetroBridge.Terminal

open Relational Transition

/-! ## 1. The invariant -/

/-- **The times of a bridge and its life**: an active one has been up for the time it was active, a
    suspended one had been so when it was suspended. -/
def OnBudget (clock : Time) (b : Bridge) (life : Life) : Place → Prop
  | .active _ => clock - b.startTime = life.activeTime
  | .suspended _ => ∃ t, b.suspendedAt = some t ∧ 0 < t ∧ t - b.startTime = life.activeTime

section Budget

variable {P : Process} {now : Time} {s₀ s s' : Server} {ls : List Label} {op : Op}

/-- A bridge that stays where it is and keeps its times. -/
theorem OnBudget.stays {p : Place} {b b' : Bridge} {life : Life} {clock : Time} {fate : Fate}
    (h : OnBudget clock b life p) (hstart : b'.startTime = b.startTime)
    (hsuspended : b'.suspendedAt = b.suspendedAt) :
    OnBudget now b' (life.add ⟨p, clock, now, fate⟩) p := by
  cases p with
  | active sid =>
      have hold : clock - b.startTime = life.activeTime := h
      show now - b'.startTime = _
      rw [Life.activeTime_add, hstart, ← hold]
      show now - b.startTime = clock - b.startTime + (now - clock)
      linarith
  | suspended k =>
      obtain ⟨t, ht, hpos, hold⟩ := h
      refine ⟨t, hsuspended.trans ht, hpos, ?_⟩
      rw [Life.activeTime_add, hstart, hold]
      exact (Int.add_zero _).symm

/-- **One step of a life** keeps the budget. -/
theorem OnBudget.step {fate : Fate} {p q : Place} {b b' : Bridge} {life : Life} {clock : Time}
    (h : OnBudget clock b life p) (hnow : 0 < now) (hc : Course P now s op fate p b q b') :
    OnBudget now b' (life.add ⟨p, clock, now, fate⟩) q := by
  cases hc with
  | same => exact h.stays rfl rfl
  | wrote => exact h.stays rfl rfl
  | beat => exact h.stays rfl rfl
  | read => exact h.stays rfl rfl
  | @suspend sid _ =>
      have hold : clock - b.startTime = life.activeTime := h
      refine ⟨now, rfl, hnow, ?_⟩
      rw [Life.activeTime_add, ← hold]
      show now - b.startTime = clock - b.startTime + (now - clock)
      linarith
  | @resume sid deviceId env _ =>
      obtain ⟨t, ht, hpos, hold⟩ := h
      -- the time it was suspended at is there and not zero, so the start time moves
      have hsince : b.suspendedSince = some t := by
        rw [Bridge.suspendedSince, ht, Option.filter_some, if_pos (decide_eq_true hpos.ne')]
      have hstart : (b.resume now sid).startTime = b.startTime + (now - t) := by
        rw [Bridge.resume, hsince]
      show now - (b.resume now sid).startTime = _
      rw [Life.activeTime_add, hstart, ← hold]
      show now - (b.startTime + (now - t)) = t - b.startTime + 0
      linarith

/-- **Every history keeps the budget.** -/
theorem history_onBudget {q : Place} {b : Bridge} {life : Life} (h : History P s₀ ls s q b life)
    (hpos : ∀ l ∈ ls, 0 < l.now) : OnBudget s.clock b life q := by
  induction h with
  | start l hr hs hnew hb =>
      obtain ⟨ser, sid, session, port, rfl, rfl⟩ := hnew.bridge
      show _ - _ = _
      rw [hs.clock_eq]
      exact Int.sub_self l.now
  | step l hlife hs hc hb ih =>
      rw [hs.clock_eq]
      exact (ih fun l hl => hpos l (List.mem_append_left _ hl)).step
        (hpos l (List.mem_append_right _ (List.mem_singleton.mpr rfl))) hc

/-! ## 2. check_timeouts -/

/-- The time a bridge will have spent active, if it stays so until `now`. -/
def Life.activeTimeAt (life : Life) (s : Server) (now : Time) : Time :=
  life.activeTime + (now - s.clock)

/-- **What `check_timeouts` makes of a bridge that has spent `total` active**. -/
structure TimedBy (sid : Sid) (b : Bridge) (total now : Time) (s' : Server) (outs : List Out) :
    Prop where
  timeout : Stopped sid "timeout" s' outs ↔ b.maxRuntime < total
  idle : Stopped sid "idle_timeout" s' outs ↔
    ¬b.maxRuntime < total ∧ b.idleTimeout < now - b.lastActivity
  stays : ¬b.maxRuntime < total → ¬b.idleTimeout < now - b.lastActivity →
    s'.bridge? (.active sid) = some b

theorem timedBy_checkTimeouts {sid : Sid} {b : Bridge} (hb : s.bridge? (.active sid) = some b)
    (hrun : b.running = true) :
    TimedBy sid b (now - b.startTime) now (s.checkTimeouts now).1 (s.checkTimeouts now).2 := by
  obtain ⟨hstops, hstays⟩ := @checkTimeouts_stops now s sid b hb
  have hreason := @timeoutReason_running now b hrun
  by_cases hover : b.maxRuntime < now - b.startTime
  · rw [if_pos hover] at hreason
    refine ⟨?_, ?_, fun hnot => absurd hover hnot⟩
    · exact iff_of_true ((hstops _).mpr hreason) hover
    · refine iff_of_false (fun hstopped => ?_) fun h => h.1 hover
      have hother := (hstops _).mp hstopped
      rw [hreason] at hother
      exact absurd hother (by decide)
  · rw [if_neg hover] at hreason
    have hnot : ¬Stopped sid "timeout" (s.checkTimeouts now).1 (s.checkTimeouts now).2 := by
      intro hstopped
      have hother := (hstops _).mp hstopped
      rw [hreason] at hother
      split at hother
      · exact absurd hother (by decide)
      · cases hother
    by_cases hidle : b.idleTimeout < now - b.lastActivity
    · rw [if_pos hidle] at hreason
      exact ⟨iff_of_false hnot hover, iff_of_true ((hstops _).mpr hreason) ⟨hover, hidle⟩,
        fun _ hnot => absurd hidle hnot⟩
    · rw [if_neg hidle] at hreason
      refine ⟨iff_of_false hnot hover, iff_of_false (fun hstopped => ?_) fun h => hidle h.2,
        fun _ _ => hstays hreason⟩
      have hother := (hstops _).mp hstopped
      rw [hreason] at hother
      cases hother

/-- **THE RUNTIME BUDGET**, in every run at positive times: at a check at `now` every active bridge
    has a history, in each the time since `start_time` is the time spent active, and by it the check
    stops the bridge or leaves it; suspended bridges are left alone. The row of a bridge that is
    stopped ends with the reason, where every session has one bridge and its row. -/
theorem budget_run (h0 : s₀.Started) (hrows : s₀.LeaseRows) (h : Run (Step P) s₀ ls s)
    (hpos : ∀ l ∈ ls, 0 < l.now) {outs : List Out} (hs : Step P s ⟨now, .timeouts, outs⟩ s') :
    (∀ sid b, s.bridge? (.active sid) = some b →
      (∃ life, History P s₀ ls s (.active sid) b life) ∧
        ∀ life, History P s₀ ls s (.active sid) b life →
          now - b.startTime = life.activeTimeAt s now ∧
            TimedBy sid b (life.activeTimeAt s now) now s' outs ∧
            (Distinct s → ∀ reason, Stopped sid reason s' outs → EndedWith b.sessionId reason s')) ∧
      ∀ k, s'.bridge? (.suspended k) = s.bridge? (.suspended k) := by
  have hcheck : (s.at now).checkTimeouts now = (s', outs) := hs.2
  refine ⟨fun sid b hb => ⟨exists_history h0 hrows h hb, fun life hlife => ?_⟩, fun k => ?_⟩
  · have hold : s.clock - b.startTime = life.activeTime := history_onBudget hlife hpos
    have htotal : now - b.startTime = life.activeTimeAt s now := by
      rw [Life.activeTimeAt, ← hold]
      linarith
    have hrunning := (tidy_run h0 hrows h).running _ b hb
    have htimed := @timedBy_checkTimeouts now (s.at now) sid b hb hrunning
    rw [hcheck, htotal] at htimed
    refine ⟨htotal, htimed, fun hdistinct reason hstopped => ?_⟩
    have hreason := ((@checkTimeouts_stops now (s.at now) sid b hb).1 reason).mp
      (by rw [hcheck]; exact hstopped)
    have hended := checkTimeouts_ended (hdistinct.at now) hb hreason
    rw [hcheck] at hended
    exact hended
  · have hsuspended := @checkTimeouts_suspended now (s.at now) k
    rw [hcheck] at hsuspended
    exact hsuspended

end Budget

/-- Alice's session: a second active, then suspended for minutes, and a hundred seconds active. -/
theorem budget_run_small : ∃ ls s s' outs b life, Run (Step desk) deskStart ls s ∧
    Step desk s ⟨seconds 600, .timeouts, outs⟩ s' ∧
    History desk deskStart ls s (.active "alice") b life ∧
    life.activeTimeAt s (seconds 600) = seconds 101 ∧
    TimedBy "alice" b (seconds 101) (seconds 600) s' outs := by
  have h : (play (fire desk fun _ _ => true) deskStart
      [(seconds 1, requestOk "alice" 1), (seconds 2, .disconnect "alice"),
        (seconds 500, requestOk "alice" 1)]).any
      (fun r => (r.1.all fun l => decide (0 < l.now)) && decide (r.2.clock ≤ seconds 600) &&
        (r.2.bridge? (.active "alice")).any fun b =>
          decide (seconds 600 - b.startTime = seconds 101)) = true := by decide
  obtain ⟨ls, s, hr, hp⟩ := exists_run_of_play
    (Terminal.guarded_of_fire fun _ _ (hok : true = true) => hok) h
  obtain ⟨hp, hany⟩ := Bool.and_eq_true_iff.mp hp
  obtain ⟨hpos, hclock⟩ := Bool.and_eq_true_iff.mp hp
  obtain ⟨b, hb, htotal⟩ := (Option.any_eq_true _ _).mp hany
  have hpos' : ∀ l ∈ ls, 0 < l.now := fun l hl => of_decide_eq_true (List.all_eq_true.mp hpos l hl)
  have hs := @step_label desk (seconds 600) s .timeouts (of_decide_eq_true hclock)
  obtain ⟨hactive, -⟩ := budget_run deskStart_started deskStart_leaseRows hr.of_guarded hpos' hs
  obtain ⟨⟨life, hlife⟩, hall⟩ := hactive "alice" b hb
  obtain ⟨heq, htimed, -⟩ := hall life hlife
  rw [← heq, of_decide_eq_true htotal] at htimed
  exact ⟨ls, s, _, _, b, life, hr.of_guarded, hs, hlife,
    heq.symm.trans (of_decide_eq_true htotal), htimed⟩

end RetroBridge.Terminal
