/-
  File:      RetroBridge/Terminal/Overstay.lean
  Subject:   NO SESSION OVERSTAYS (retrobridge/terminal/utils.py: `_timeout_monitor`,
             `_suspended_cleaner`, `check_timeouts`, `cleanup_suspended`, `resume_bridge`), as long
             as the two monitors keep their pace.

  * `Rounds`, `InPace` -- when the monitors last came round, and runs in which neither lets more
    than a time `d` pass;
  * `cleanup_gone` -- what `cleanup_suspended` leaves is within its grace period;
  * `Timely` -- what the last rounds say of the times of a bridge, by its place: THE INVARIANT;
  * `overstay_run` -- **a suspended bridge stays `d` beyond its grace period at most, an active one
    `d` beyond its idle time, and `d` beyond its runtime for each time it has become active.**

  `check_timeouts` looks at active bridges only: one that is suspended at every round is never
  stopped for its runtime, so the last bound counts the resumes. A round is one operation, which
  takes no time and whose database calls succeed.
-/
import RetroBridge.Terminal.Idle

namespace RetroBridge.Terminal

open Relational Ordered Transition

/-! ## 1. The pace of the monitors -/

/-- The times of the last `check_timeouts` and the last `cleanup_suspended`. -/
structure Rounds where
  timeouts : Time
  cleanup : Time

def Rounds.next (r : Rounds) (l : Label) : Rounds :=
  match l.op with
  | .timeouts => { r with timeouts := l.now }
  | .cleanup => { r with cleanup := l.now }
  | _ => r

/-- The last rounds of a run that began at `t₀`. -/
def rounds (t₀ : Time) (ls : List Label) : Rounds := ls.foldl Rounds.next ⟨t₀, t₀⟩

/-- **Neither monitor lets more than `d` pass** from its last round on. -/
def InPace (d : Time) : Rounds → List Label → Prop
  | _, [] => True
  | r, l :: ls => l.now ≤ r.timeouts + d ∧ l.now ≤ r.cleanup + d ∧ InPace d (r.next l) ls

instance decidableInPace (d : Time) : ∀ (r : Rounds) (ls : List Label), Decidable (InPace d r ls)
  | _, [] => inferInstanceAs (Decidable True)
  | r, l :: ls =>
    have := decidableInPace d (r.next l) ls
    inferInstanceAs (Decidable (_ ∧ _ ∧ _))

section Rounds

variable {d t₀ now : Time} {r : Rounds} {l : Label} {ls : List Label}

theorem rounds_append : rounds t₀ (ls ++ [l]) = (rounds t₀ ls).next l := by
  simp [rounds, List.foldl_append]

theorem inPace_append : InPace d r (ls ++ [l]) ↔ InPace d r ls ∧
    l.now ≤ (ls.foldl Rounds.next r).timeouts + d ∧
      l.now ≤ (ls.foldl Rounds.next r).cleanup + d := by
  induction ls generalizing r with
  | nil => simp [InPace]
  | cons l' ls ih => simp [InPace, ih, and_assoc]

/-- Rounds do not lie ahead. -/
theorem Rounds.next_le (h : r.timeouts ≤ now ∧ r.cleanup ≤ now) (hnow : now ≤ l.now) :
    (r.next l).timeouts ≤ l.now ∧ (r.next l).cleanup ≤ l.now := by
  have hold : r.timeouts ≤ l.now ∧ r.cleanup ≤ l.now := ⟨h.1.trans hnow, h.2.trans hnow⟩
  unfold Rounds.next
  split
  · exact ⟨le_rfl, hold.2⟩
  · exact ⟨hold.1, le_rfl⟩
  · exact hold

/-- After a step in pace neither round is more than `d` behind. -/
theorem Rounds.next_pace (h : r.timeouts ≤ now ∧ r.cleanup ≤ now) (hnow : now ≤ l.now)
    (hpace : l.now ≤ r.timeouts + d ∧ l.now ≤ r.cleanup + d) :
    l.now ≤ (r.next l).timeouts + d ∧ l.now ≤ (r.next l).cleanup + d := by
  have hd : l.now ≤ l.now + d := by linarith
  unfold Rounds.next
  split
  · exact ⟨hd, hpace.2⟩
  · exact ⟨hpace.1, hd⟩
  · exact hpace

end Rounds

/-! ## 2. What a round of the cleaner leaves -/

section Cleanup

variable {now : Time} {s : Server} {k : Nat} {b : Bridge}

theorem cleanupOne_gone : (s.cleanupOne now k).bridge? (.suspended k) = none := by
  unfold Server.cleanupOne
  split
  · assumption
  · exact (s.bridge?_removeAt (.suspended k) (.suspended k)).trans (if_pos rfl)

/-- Every bridge of the list is gone. -/
theorem cleanupAll_gone (ks : List Nat) : ∀ {s : Server}, k ∈ ks →
    (ks.foldl (fun s k => s.cleanupOne now k) s).bridge? (.suspended k) = none := by
  induction ks with
  | nil => exact fun hmem => absurd hmem List.not_mem_nil
  | cons k' ks ih =>
      intro s hmem
      rcases List.mem_cons.mp hmem with rfl | hmem
      · cases hb : ((k :: ks).foldl (fun s k => s.cleanupOne now k) s).bridge? (.suspended k) with
        | none => rfl
        | some b => cases cleanupOne_gone.symm.trans (back_cleanup ks _ b hb)
      · exact ih hmem

/-- **What `cleanup_suspended` leaves is within its grace period.** -/
theorem cleanup_gone (hb : (s.cleanupSuspended now).bridge? (.suspended k) = some b) :
    b.graceOver now = false := by
  have hold : s.suspended.dict.get? k = some b := back_cleanup _ _ b hb
  cases hover : b.graceOver now with
  | false => rfl
  | true =>
      have hmem : k ∈ s.graceExpired now := List.mem_map.mpr
        ⟨(k, b), List.mem_filter.mpr ⟨Dict.get?_eq_some.mp hold, hover⟩, rfl⟩
      cases (cleanupAll_gone _ hmem).symm.trans hb

end Cleanup

/-! ## 3. The times of a bridge -/

/-- How often the bridge was resumed. -/
def Life.resumes (life : Life) : Int := life.stays.countP fun stay => stay.fate == .resumes

/-- The runtime a bridge may have had at the last round, or when it became active after it. -/
def Life.overrun (life : Life) (d limit : Time) : Time := max limit 0 + d * life.resumes

theorem Life.resumes_add (life : Life) (stay : Stay) :
    (life.add stay).resumes = life.resumes + if stay.fate = .resumes then 1 else 0 := by
  simp only [Life.resumes, Life.add, List.countP_append, List.countP_singleton, beq_iff_eq]
  split <;> simp

/-- **What the last rounds say of a bridge.** -/
def Timely (d : Time) (r : Rounds) (b : Bridge) (life : Life) : Place → Prop
  | .active _ => r.timeouts - b.lastActivity ≤ max b.idleTimeout 0 ∧
      r.timeouts - b.startTime ≤ life.overrun d b.maxRuntime
  | .suspended _ => ∃ t, b.suspendedAt = some t ∧ 0 < t ∧
      r.cleanup - t ≤ seconds gracePeriod ∧ t - b.startTime ≤ life.overrun d b.maxRuntime + d

section Timely

variable {P : Process} {d now since : Time} {s₀ s s' : Server} {r : Rounds} {l : Label}
  {ls : List Label} {op : Op} {p q : Place} {b b' : Bridge} {life : Life} {fate : Fate}

/-- A step that resumes nothing leaves the runtime that is allowed. -/
theorem overrun_add {stay : Stay} {limit : Time} (hfate : stay.fate ≠ .resumes) :
    (life.add stay).overrun d limit = life.overrun d limit := by
  rw [Life.overrun, Life.overrun, Life.resumes_add, if_neg hfate, add_zero]

/-- A resume allows `d` more. -/
theorem overrun_resume {stay : Stay} {limit : Time} (hfate : stay.fate = .resumes) :
    (life.add stay).overrun d limit = life.overrun d limit + d := by
  rw [Life.overrun, Life.overrun, Life.resumes_add, if_pos hfate, mul_add, mul_one, add_assoc]

theorem le_overrun {limit : Time} (hd : 0 ≤ d) : max limit 0 ≤ life.overrun d limit := by
  have hresumes : 0 ≤ life.resumes := Int.natCast_nonneg _
  have hmul : 0 ≤ d * life.resumes := mul_nonneg hd hresumes
  unfold Life.overrun
  linarith

theorem suspendedSince_of {t : Time} (ht : b.suspendedAt = some t) (hpos : 0 < t) :
    b.suspendedSince = some t := by
  rw [Bridge.suspendedSince, ht, Option.filter_some, if_pos (decide_eq_true hpos.ne')]

/-- A bridge that `check_timeouts` has left is within its times. -/
theorem timeouts_left {sid : Sid} (hrun : b.running = true)
    (hb : s.bridge? (.active sid) = some b)
    (hb' : (s.checkTimeouts now).1.bridge? (.active sid) = some b') :
    now - b.startTime ≤ b.maxRuntime ∧ now - b.lastActivity ≤ b.idleTimeout := by
  have hreason := @timeoutReason_running now b hrun
  have hgone : ∀ reason, Server.timeoutReason now b ≠ some reason := fun reason hr => by
    have hnone := (((checkTimeouts_stops hb).1 reason).mpr hr).gone
    cases hnone.symm.trans hb'
  constructor
  · by_contra hover
    exact hgone _ (hreason.trans (if_pos (not_le.mp hover)))
  · by_contra hidle
    by_cases hover : now - b.startTime > b.maxRuntime
    · exact hgone _ (hreason.trans (if_pos hover))
    · exact hgone _ ((hreason.trans (if_neg hover)).trans (if_pos (not_le.mp hidle)))

/-- A bridge that nothing happens to, in a step that is no round for it. -/
theorem Timely.stays {stay : Stay} (h : Timely d r b life p) (hfate : stay.fate ≠ .resumes)
    (hstart : b'.startTime = b.startTime) (hmax : b'.maxRuntime = b.maxRuntime)
    (hidle : b'.idleTimeout = b.idleTimeout) (hsusp : b'.suspendedAt = b.suspendedAt)
    (htouch : b.lastActivity ≤ b'.lastActivity) : Timely d r b' (life.add stay) p := by
  cases p with
  | active sid =>
      obtain ⟨hact, hrun⟩ := h
      refine ⟨?_, ?_⟩
      · rw [hidle]
        linarith
      · rw [overrun_add hfate, hstart, hmax]
        exact hrun
  | suspended k =>
      obtain ⟨t, ht, hrest⟩ := h
      refine ⟨t, hsusp.trans ht, ?_⟩
      rw [overrun_add hfate, hstart, hmax]
      exact hrest

/-- A step that is no round. -/
theorem Timely.course (h : Timely d r b life p) (hc : Course P now s op fate p b q b')
    (hpast : b.lastActivity ≤ now) (hnow : 0 < now) (hrounds : r.timeouts ≤ now ∧ r.cleanup ≤ now)
    (hpace : now ≤ r.timeouts + d) : Timely d r b' (life.add ⟨p, since, now, fate⟩) q := by
  cases hc with
  | same => exact h.stays nofun rfl rfl rfl rfl le_rfl
  | wrote => exact h.stays nofun rfl rfl rfl rfl hpast
  | beat => exact h.stays nofun rfl rfl rfl rfl hpast
  | read => exact h.stays nofun rfl rfl rfl rfl hpast
  | @suspend sid _ =>
      obtain ⟨-, hrun⟩ := h
      have hgrace : (0 : Int) ≤ seconds gracePeriod := by decide
      refine ⟨now, rfl, hnow, by linarith, ?_⟩
      rw [@overrun_add d life ⟨.active sid, since, now, .suspends⟩ (b.suspend now).maxRuntime nofun]
      show now - b.startTime ≤ life.overrun d b.maxRuntime + d
      linarith
  | @resume sid _ _ _ =>
      obtain ⟨t, ht, hpos, -, hrun⟩ := h
      have hstart : (b.resume now sid).startTime = b.startTime + (now - t) := by
        rw [Bridge.resume, suspendedSince_of ht hpos]
      refine ⟨?_, ?_⟩
      · have hzero := le_max_right b.idleTimeout 0
        show r.timeouts - now ≤ max b.idleTimeout 0
        linarith
      · rw [overrun_resume rfl]
        show r.timeouts - (b.resume now sid).startTime ≤ life.overrun d b.maxRuntime + d
        rw [hstart]
        linarith

/-- **One step of a life**, a round or not. -/
theorem Timely.step (h : Timely d r b life p) (hs : Step P s l s') (ht : s.Tidy)
    (hb : s.bridge? p = some b) (hb' : s'.bridge? q = some b')
    (hc : Course P l.now (s.at l.now) l.op fate p b q b') (hpast : b.lastActivity ≤ l.now)
    (hnow : 0 < l.now) (hrounds : r.timeouts ≤ l.now ∧ r.cleanup ≤ l.now)
    (hpace : l.now ≤ r.timeouts + d) :
    Timely d (r.next l) b' (life.add ⟨p, since, l.now, fate⟩) q := by
  have hbase := @Timely.course P d l.now since (s.at l.now) r l.op p q b b' life fate h hc hpast
    hnow hrounds hpace
  have hd : 0 ≤ d := by linarith [hrounds.1]
  obtain ⟨now, op, outs⟩ := l
  cases op with
  | timeouts =>
      cases hc with
      | same =>
          cases p with
          | active sid =>
              have hleft : ((s.at now).checkTimeouts now).1.bridge? (.active sid) = some b := by
                rw [show (s.at now).checkTimeouts now = (s', outs) from hs.2]
                exact hb'
              obtain ⟨hrun, hidle⟩ := @timeouts_left now (s.at now) b b sid (ht.running _ b hb) hb
                hleft
              refine ⟨hidle.trans (le_max_left _ _), hrun.trans ?_⟩
              exact (le_max_left _ _).trans (le_overrun hd)
          | suspended k => exact hbase
      | wrote hop => cases hop
      | beat hop => cases hop
      | read hop => cases hop
      | suspend hop => cases hop
      | resume hop => cases hop
  | cleanup =>
      cases hc with
      | same =>
          cases p with
          | active sid => exact hbase
          | suspended k =>
              obtain ⟨t, hsusp, hpos, -, hrun⟩ := hbase
              refine ⟨t, hsusp, hpos, ?_, hrun⟩
              have hleft : ((s.at now).cleanupSuspended now).bridge? (.suspended k) = some b := by
                rw [show (s.at now).cleanupSuspended now = s' from congrArg Prod.fst hs.2]
                exact hb'
              have hgrace := cleanup_gone hleft
              rw [Bridge.graceOver, suspendedSince_of hsusp hpos] at hgrace
              exact not_lt.mp (of_decide_eq_false hgrace)
      | wrote hop => cases hop
      | beat hop => cases hop
      | read hop => cases hop
      | suspend hop => cases hop
      | resume hop => cases hop
  | _ => exact hbase

/-- The rounds of a run are no later than its clock. -/
theorem rounds_le (h : Run (Step P) s₀ ls s) :
    (rounds s₀.clock ls).timeouts ≤ s.clock ∧ (rounds s₀.clock ls).cleanup ≤ s.clock :=
  h.invariant_history (I := fun ls s => (rounds s₀.clock ls).timeouts ≤ s.clock ∧
    (rounds s₀.clock ls).cleanup ≤ s.clock) ⟨le_rfl, le_rfl⟩ fun ls s l s' hle hs => by
      rw [rounds_append, hs.clock_eq]
      exact Rounds.next_le hle hs.1

/-- **The invariant**, in every history that is in pace. -/
theorem history_timely (h0 : s₀.Started) (hrows : s₀.LeaseRows) (h : History P s₀ ls s q b life)
    (hpos : ∀ l ∈ ls, 0 < l.now) (hpace : InPace d ⟨s₀.clock, s₀.clock⟩ ls) :
    Timely d (rounds s₀.clock ls) b life q := by
  induction h with
  | start l hr hs hnew hb =>
      obtain ⟨ser, sid, session, port, rfl, rfl⟩ := hnew.bridge
      have hle := Rounds.next_le (rounds_le hr) hs.1
      rw [rounds_append]
      have hzero : ((rounds s₀.clock _).next l).timeouts - l.now ≤ 0 := sub_nonpos.mpr hle.1
      refine ⟨hzero.trans (le_max_right _ _), hzero.trans ?_⟩
      show 0 ≤ max _ 0 + d * 0
      rw [mul_zero, add_zero]
      exact le_max_right _ _
  | step l hlife hs hc hb ih =>
      obtain ⟨hpace', hround⟩ := inPace_append.mp hpace
      have hle := rounds_le hlife.run
      rw [rounds_append]
      refine (ih (fun l hl => hpos l (List.mem_append_left _ hl)) hpace').step hs
        (tidy_run h0 hrows hlife.run) hlife.bridge hb hc
        ((history_lastTouch hlife).past.trans hs.1)
        (hpos l (List.mem_append_right _ (List.mem_singleton.mpr rfl)))
        ⟨hle.1.trans hs.1, hle.2.trans hs.1⟩ hround.1

/-- Neither round is more than `d` behind the clock. -/
theorem pace_le (h : Run (Step P) s₀ ls s) (hd : 0 ≤ d) (hpace : InPace d ⟨s₀.clock, s₀.clock⟩ ls) :
    s.clock ≤ (rounds s₀.clock ls).timeouts + d ∧ s.clock ≤ (rounds s₀.clock ls).cleanup + d := by
  cases h with
  | start => exact ⟨le_add_of_nonneg_right hd, le_add_of_nonneg_right hd⟩
  | step l hr hs =>
      rw [rounds_append, hs.clock_eq]
      exact Rounds.next_pace (rounds_le hr) hs.1 (inPace_append.mp hpace).2

/-! ## 4. Runs -/

/-- **NO SESSION OVERSTAYS**, in every run at positive times in which neither monitor lets more than
    `d` pass: a suspended bridge has been so for its grace period and `d` at most; an active one has
    been left alone for its idle time and `d` at most, and has run for its runtime and, for every
    time it has become active, `d` at most. -/
theorem overstay_run (h0 : s₀.Started) (hrows : s₀.LeaseRows) (h : Run (Step P) s₀ ls s)
    (hpos : ∀ l ∈ ls, 0 < l.now) (hd : 0 ≤ d) (hpace : InPace d ⟨s₀.clock, s₀.clock⟩ ls) :
    (∀ k b, s.bridge? (.suspended k) = some b →
      ∃ t, b.suspendedAt = some t ∧ s.clock - t ≤ seconds gracePeriod + d) ∧
    ∀ sid b, s.bridge? (.active sid) = some b →
      s.clock - b.lastActivity ≤ max b.idleTimeout 0 + d ∧
      ∀ life, History P s₀ ls s (.active sid) b life →
        life.activeTime ≤ max b.maxRuntime 0 + d * (life.resumes + 1) := by
  have hclock := pace_le h hd hpace
  refine ⟨fun k b hb => ?_, fun sid b hb => ⟨?_, fun life hlife => ?_⟩⟩
  · obtain ⟨life, hlife⟩ := exists_history h0 hrows h hb
    obtain ⟨t, ht, -, hgrace, -⟩ := history_timely h0 hrows hlife hpos hpace
    exact ⟨t, ht, by linarith⟩
  · obtain ⟨life, hlife⟩ := exists_history h0 hrows h hb
    obtain ⟨hidle, -⟩ := history_timely h0 hrows hlife hpos hpace
    linarith
  · obtain ⟨-, hrun⟩ := history_timely h0 hrows hlife hpos hpace
    have hbudget : s.clock - b.startTime = life.activeTime := history_onBudget hlife hpos
    rw [Life.overrun] at hrun
    rw [mul_add, mul_one]
    linarith

end Timely

/-- Alice leaves after a second; the monitors come round every 301 s, the second time just before
    the end of her grace period. -/
def awayTooLong : List (Time × Op) :=
  [(seconds 1, requestOk "alice" 1), (seconds 2, .disconnect "alice"), (seconds 300, .timeouts),
    (seconds 300, .cleanup), (seconds 601, .timeouts), (seconds 601, .cleanup),
    (seconds 900, .heartbeat "alice")]

/-- Her bridge is still there after 898 s. -/
theorem overstay_run_small : ∃ ls s b t, Run (Step desk) deskStart ls s ∧
    s.bridge? (.suspended 1) = some b ∧ b.suspendedAt = some t ∧ s.clock - t = seconds 898 ∧
    s.clock - t ≤ seconds gracePeriod + seconds 301 := by
  have h : (play (fire desk fun _ _ => true) deskStart awayTooLong).any
      (fun r => (r.1.all fun l => decide (0 < l.now)) &&
        (decide (InPace (seconds 301) ⟨deskStart.clock, deskStart.clock⟩ r.1) &&
          (r.2.bridge? (.suspended 1)).any fun b =>
            decide (b.suspendedAt = some (r.2.clock - seconds 898)))) = true := by decide +kernel
  obtain ⟨ls, s, hr, hp⟩ := exists_run_of_play
    (Terminal.guarded_of_fire fun _ _ (hok : true = true) => hok) h
  obtain ⟨hpos, hp⟩ := Bool.and_eq_true_iff.mp hp
  obtain ⟨hpace, hany⟩ := Bool.and_eq_true_iff.mp hp
  obtain ⟨b, hb, hsusp⟩ := (Option.any_eq_true _ _).mp hany
  obtain ⟨t, ht, hle⟩ := (overstay_run deskStart_started deskStart_leaseRows hr.of_guarded
    (fun l hl => of_decide_eq_true (List.all_eq_true.mp hpos l hl)) (by decide)
    (of_decide_eq_true hpace)).1 1 b hb
  have heq : t = s.clock - seconds 898 :=
    Option.some.inj (ht.symm.trans (of_decide_eq_true hsusp))
  exact ⟨ls, s, b, t, hr.of_guarded, hb, ht, by rw [heq, sub_sub_cancel], hle⟩

end RetroBridge.Terminal
