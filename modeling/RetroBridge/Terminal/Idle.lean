/-
  File:      RetroBridge/Terminal/Idle.lean
  Subject:   IDLE SESSIONS (retrobridge/terminal/utils.py: `check_timeouts`, `write_to_serial`,
             `_serial_reader`, `resume_bridge`; retrobridge/terminal/events.py: `handle_heartbeat`).
             A session is idle without terminal input and serial output; `last_activity` is written
             by the heartbeats of the client as well.

  * `Life.QuietFor`, `Life.UnbeatenFor` -- no sign of life of the session, and no heartbeat, for a
    time;
  * `LastTouch`, `history_lastTouch` -- `last_activity` is the last of all these times, in every
    history;
  * `idle_run` -- **at a check an idle session is ended exactly when no heartbeat came in its idle
    time, or its runtime is over**;
  * `kept_by_heartbeat` -- an idle session that a heartbeat keeps.
-/
import RetroBridge.Terminal.Budget

namespace RetroBridge.Terminal

open Relational Transition

/-! ## 1. Signs of life -/

/-- Terminal input, serial output, and the end of a suspension. -/
def Fate.signs : Fate → Bool
  | .input | .output | .resumes => true
  | .stays | .heartbeat | .suspends => false

/-- What writes `last_activity`. -/
def Fate.touches (fate : Fate) : Bool := fate.signs || fate == .heartbeat

/-- **No terminal input, no serial output and no suspension for more than `d`.** -/
def Life.QuietFor (life : Life) (now d : Time) : Prop :=
  d < now - life.born ∧ ∀ stay ∈ life.stays, stay.fate.signs = true → d < now - stay.till

/-- No heartbeat of the client for more than `d`. -/
def Life.UnbeatenFor (life : Life) (now d : Time) : Prop :=
  ∀ stay ∈ life.stays, stay.fate = .heartbeat → d < now - stay.till

/-- **`last_activity` is the last time the bridge was touched.** -/
structure LastTouch (clock : Time) (b : Bridge) (life : Life) : Prop where
  past : b.lastActivity ≤ clock
  born : life.born ≤ b.lastActivity
  last : ∀ stay ∈ life.stays, stay.fate.touches = true → stay.till ≤ b.lastActivity
  touched : b.lastActivity = life.born ∨
    ∃ stay ∈ life.stays, stay.fate.touches = true ∧ stay.till = b.lastActivity

section Idle

variable {P : Process} {now d : Time} {s₀ s s' : Server} {ls : List Label} {op : Op}

/-- The idle time is over exactly when nothing has touched the bridge in it. -/
theorem LastTouch.idle_iff {clock : Time} {b : Bridge} {life : Life} (h : LastTouch clock b life) :
    d < now - b.lastActivity ↔ life.QuietFor now d ∧ life.UnbeatenFor now d := by
  constructor
  · intro hidle
    have hlate : ∀ stay ∈ life.stays, stay.fate.touches = true → d < now - stay.till :=
      fun stay hstay htouch => by
        have hle := h.last stay hstay htouch
        linarith
    have hborn := h.born
    refine ⟨⟨by linarith, fun stay hstay hsigns => hlate stay hstay ?_⟩,
      fun stay hstay hbeat => hlate stay hstay ?_⟩
    · rw [Fate.touches, hsigns, Bool.true_or]
    · rw [hbeat]
      rfl
  · rintro ⟨⟨hborn, hsigns⟩, hbeats⟩
    rcases h.touched with heq | ⟨stay, hstay, htouch, heq⟩
    · rw [heq]
      exact hborn
    · rw [← heq]
      rcases Bool.or_eq_true_iff.mp htouch with hsign | hbeat
      · exact hsigns stay hstay hsign
      · exact hbeats stay hstay (beq_iff_eq.mp hbeat)

/-- A step that touches the bridge. -/
theorem LastTouch.touch {clock since : Time} {b b' : Bridge} {life : Life} {p : Place} {fate : Fate}
    (h : LastTouch clock b life) (hclock : clock ≤ now) (htouch : fate.touches = true)
    (hb : b'.lastActivity = now) : LastTouch now b' (life.add ⟨p, since, now, fate⟩) := by
  have hpast : b.lastActivity ≤ now := h.past.trans hclock
  refine ⟨hb.le, ?_, fun stay hstay htouched => ?_,
    Or.inr ⟨_, Life.mem_add.mpr (Or.inr rfl), htouch, hb.symm⟩⟩
  · rw [hb]
    exact h.born.trans hpast
  · rw [hb]
    rcases Life.mem_add.mp hstay with hold | rfl
    · exact (h.last stay hold htouched).trans hpast
    · exact le_rfl

/-- A step that does not. -/
theorem LastTouch.stays {clock since : Time} {b b' : Bridge} {life : Life} {p : Place} {fate : Fate}
    (h : LastTouch clock b life) (hclock : clock ≤ now) (hfate : fate.touches = false)
    (hb : b'.lastActivity = b.lastActivity) :
    LastTouch now b' (life.add ⟨p, since, now, fate⟩) := by
  refine ⟨?_, ?_, fun stay hstay htouched => ?_, ?_⟩
  · rw [hb]
    exact h.past.trans hclock
  · rw [hb]
    exact h.born
  · rw [hb]
    rcases Life.mem_add.mp hstay with hold | rfl
    · exact h.last stay hold htouched
    · rw [hfate] at htouched
      cases htouched
  · rw [hb]
    exact h.touched.imp id fun ⟨stay, hstay, htouched⟩ =>
      ⟨stay, Life.mem_add.mpr (Or.inl hstay), htouched⟩

/-- **Every history**: `last_activity` is the last time the bridge was touched. -/
theorem history_lastTouch {q : Place} {b : Bridge} {life : Life}
    (h : History P s₀ ls s q b life) : LastTouch s.clock b life := by
  induction h with
  | start l hr hs hnew hb =>
      obtain ⟨ser, sid, session, port, -, rfl⟩ := hnew.bridge
      rw [hs.clock_eq]
      exact ⟨le_rfl, le_rfl, fun stay hstay => absurd hstay List.not_mem_nil, Or.inl rfl⟩
  | step l hlife hs hc hb ih =>
      rw [hs.clock_eq]
      have hclock := hs.1
      cases hc with
      | same => exact ih.stays hclock rfl rfl
      | suspend => exact ih.stays hclock rfl rfl
      | wrote => exact ih.touch hclock rfl rfl
      | beat => exact ih.touch hclock rfl rfl
      | read => exact ih.touch hclock rfl rfl
      | resume => exact ih.touch hclock rfl rfl

/-! ## 2. check_timeouts -/

/-- The bridge is stopped and its session's row ends, both with the reason. -/
def EndedFor (sid : Sid) (b : Bridge) (reason : String) (s' : Server) (outs : List Out) : Prop :=
  Stopped sid reason s' outs ∧ EndedWith b.sessionId reason s'

/-- **The idle session is ended**: with "timeout" where its runtime is over too. -/
def IdleEnded (sid : Sid) (b : Bridge) (now : Time) (s' : Server) (outs : List Out) : Prop :=
  EndedFor sid b (if b.maxRuntime < now - b.startTime then "timeout" else "idle_timeout") s' outs

/-- A check ends the session with a reason exactly when it finds the reason in its bridge. -/
theorem endedFor_iff (h : Distinct s) {sid : Sid} {b : Bridge} {reason : String}
    (hb : s.bridge? (.active sid) = some b) :
    EndedFor sid b reason (s.checkTimeouts now).1 (s.checkTimeouts now).2 ↔
      Server.timeoutReason now b = some reason := by
  have hstops := (@checkTimeouts_stops now s sid b hb).1 reason
  exact ⟨fun hended => hstops.mp hended.1,
    fun hreason => ⟨hstops.mpr hreason, checkTimeouts_ended h hb hreason⟩⟩

/-- **At a check**, by the bridge's own times. -/
theorem idleEnded_iff (h : Distinct s) {sid : Sid} {b : Bridge}
    (hb : s.bridge? (.active sid) = some b) (hrun : b.running = true) :
    IdleEnded sid b now (s.checkTimeouts now).1 (s.checkTimeouts now).2 ↔
      b.idleTimeout < now - b.lastActivity ∨ b.maxRuntime < now - b.startTime := by
  rw [IdleEnded, endedFor_iff h hb, timeoutReason_running hrun]
  by_cases hover : b.maxRuntime < now - b.startTime
  · rw [if_pos hover, if_pos hover]
    exact iff_of_true rfl (Or.inr hover)
  · rw [if_neg hover, if_neg hover]
    by_cases hidle : b.idleTimeout < now - b.lastActivity
    · rw [if_pos hidle]
      exact iff_of_true rfl (Or.inl hidle)
    · rw [if_neg hidle]
      exact iff_of_false (fun hnone => by cases hnone) fun hor => hor.elim hidle hover

/-! ## 3. Runs -/

/-- **IDLE SESSIONS**, in every run: at a check every active bridge has a history, and in each in
    which its session has been quiet for more than its idle time, the session is ended exactly when
    no heartbeat came in that time, or its runtime is over. -/
theorem idle_run (h0 : s₀.Started) (hrows : s₀.LeaseRows)
    (h : Run (guarded (Step P) NoDeletion) s₀ ls s) {outs : List Out}
    (hs : Step P s ⟨now, .timeouts, outs⟩ s') {sid : Sid} {b : Bridge}
    (hb : s.bridge? (.active sid) = some b) :
    (∃ life, History P s₀ ls s (.active sid) b life) ∧
      ∀ life, History P s₀ ls s (.active sid) b life → life.QuietFor now b.idleTimeout →
        (IdleEnded sid b now s' outs ↔
          life.UnbeatenFor now b.idleTimeout ∨ b.maxRuntime < now - b.startTime) := by
  refine ⟨exists_history h0 hrows h.of_guarded hb, fun life hlife hquiet => ?_⟩
  have hin : InOrder s := h.invariant (h0.inOrder hrows) fun _ _ _ hin hs => hs.2.inOrder hs.1 hin
  have hcheck : (s.at now).checkTimeouts now = (s', outs) := hs.2
  have hrunning := hin.tidy.running _ b hb
  have hended := @idleEnded_iff now (s.at now) (hin.at now).distinct sid b hb hrunning
  rw [hcheck, (history_lastTouch hlife).idle_iff] at hended
  rw [hended]
  exact or_congr_left (and_iff_right hquiet)

/-- A heartbeat is no sign of life. -/
theorem signs_heartbeat {sid : Sid} {fate : Fate} {p q : Place} {b b' : Bridge}
    (hc : Course P now s (.heartbeat sid) fate p b q b') : fate.signs = false := by
  generalize hop : Op.heartbeat sid = op at hc
  cases hc with
  | same => rfl
  | beat => rfl
  | suspend => rfl
  | wrote hop' =>
      rw [← hop] at hop'
      cases hop'
  | read hop' =>
      rw [← hop] at hop'
      cases hop'
  | resume hop' =>
      rw [← hop] at hop'
      cases hop'

end Idle

/-! ### On a small installation -/

/-- Alice's session at one second, and a heartbeat at 200. -/
def aliceAt1 : Server :=
  after desk deskStart (label desk deskStart (seconds 1) (requestOk "alice" 1))

def aliceAt200 : Server :=
  after desk aliceAt1 (label desk aliceAt1 (seconds 200) (.heartbeat "alice"))

/-- The run to there. -/
def aliceRun : List Label :=
  [label desk deskStart (seconds 1) (requestOk "alice" 1),
    label desk aliceAt1 (seconds 200) (.heartbeat "alice")]

theorem aliceAt1_step : Step desk deskStart
    (label desk deskStart (seconds 1) (requestOk "alice" 1)) aliceAt1 :=
  step_label (by decide)

theorem aliceAt200_step : Step desk aliceAt1
    (label desk aliceAt1 (seconds 200) (.heartbeat "alice")) aliceAt200 := by
  refine step_label ?_
  rw [aliceAt1_step.clock_eq]
  decide

theorem aliceRun_run : Run (guarded (Step desk) NoDeletion) deskStart aliceRun aliceAt200 :=
  .step _ (.step _ .start ⟨rfl, aliceAt1_step⟩) ⟨rfl, aliceAt200_step⟩

/-- A check at 400 seconds. -/
def aliceCheck : Label := label desk aliceAt200 (seconds 400) .timeouts

theorem aliceCheck_step : Step desk aliceAt200 aliceCheck (after desk aliceAt200 aliceCheck) := by
  refine step_label ?_
  rw [aliceAt200_step.clock_eq]
  decide

/-- Her bridge is there, with five minutes of idle time, and the check leaves it. -/
theorem aliceAt200_bridge : (aliceAt200.bridge? (.active "alice")).any (fun b =>
    decide (b.idleTimeout = seconds 300) &&
      ((after desk aliceAt200 aliceCheck).bridge? (.active "alice")).isSome) = true := by decide

/-- What the check does by the theorem. -/
theorem idle_run_small : ∃ s' outs b, Step desk aliceAt200 ⟨seconds 400, .timeouts, outs⟩ s' ∧
    aliceAt200.bridge? (.active "alice") = some b ∧
    ∀ life, History desk deskStart aliceRun aliceAt200 (.active "alice") b life →
      life.QuietFor (seconds 400) b.idleTimeout →
        (IdleEnded "alice" b (seconds 400) s' outs ↔
          life.UnbeatenFor (seconds 400) b.idleTimeout ∨
            b.maxRuntime < seconds 400 - b.startTime) := by
  obtain ⟨b, hb, -⟩ := (Option.any_eq_true _ _).mp aliceAt200_bridge
  exact ⟨_, _, b, aliceCheck_step, hb,
    (idle_run deskStart_started deskStart_leaseRows aliceRun_run aliceCheck_step hb).2⟩

/-- **A heartbeat keeps an idle session**: no input and no output for 399 seconds, and one heartbeat
    after 199. -/
theorem kept_by_heartbeat : ∃ ls s s' outs b life,
    Run (guarded (Step desk) NoDeletion) deskStart ls s ∧
    History desk deskStart ls s (.active "alice") b life ∧
    life.QuietFor (seconds 400) b.idleTimeout ∧
    Step desk s ⟨seconds 400, .timeouts, outs⟩ s' ∧ ¬IdleEnded "alice" b (seconds 400) s' outs := by
  obtain ⟨b, hb, hp⟩ := (Option.any_eq_true _ _).mp aliceAt200_bridge
  obtain ⟨hidle, hkept⟩ := Bool.and_eq_true_iff.mp hp
  have hin1 := aliceAt1_step.inOrder rfl (deskStart_started.inOrder deskStart_leaseRows)
  have hstart : ∀ {p : Place} {c : Bridge}, aliceAt1.bridge? p = some c →
      History desk deskStart [label desk deskStart (seconds 1) (requestOk "alice" 1)] aliceAt1 p c
        ⟨seconds 1, []⟩ := by
    intro p c hc
    obtain ⟨fate, q, a, ha, -⟩ | hnew := aliceAt1_step.course
      (deskStart_started.inOrder deskStart_leaseRows).tidy p c hc
    · exact absurd ha deskStart_started.no_bridge
    · exact .start _ .start aliceAt1_step hnew hc
  obtain ⟨fate, p, c, hc, hcourse⟩ | hnew := aliceAt200_step.course hin1.tidy (.active "alice") b hb
  · have hlife := History.step _ (hstart hc) aliceAt200_step hcourse hb
    refine ⟨aliceRun, aliceAt200, _, _, b, _, aliceRun_run, hlife, ⟨?_, ?_⟩, aliceCheck_step,
      fun hended => ?_⟩
    · rw [of_decide_eq_true hidle]
      show seconds 300 < seconds 400 - seconds 1
      decide
    · intro stay hstay hsigns
      rcases Life.mem_add.mp hstay with hold | rfl
      · exact absurd hold List.not_mem_nil
      · rw [show fate.signs = false from signs_heartbeat hcourse] at hsigns
        cases hsigns
    · rw [hended.1.gone] at hkept
      cases hkept
  · obtain ⟨sid, deviceId, env, hop, -⟩ := hnew.request
    cases hop

end RetroBridge.Terminal
