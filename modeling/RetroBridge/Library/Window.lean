/-
  File:      RetroBridge/Library/Window.lean
  Subject:   COUNTING OVER A WINDOW OF TIME. A log of timed events, newest first; some of them are
             hits, some are resets.

  * `NewestFirst` -- the log is in order;
  * `within` -- the hits of a window, both ends included;
  * `streak` -- the hits since a time that no reset has followed;
  * `within_le_streak` -- **a window without a reset, up to the present, holds no more hits than the
    streak since its start**, so a bound on the streak at all times bounds all such windows.
-/
import Mathlib.Data.List.Basic
import Mathlib.Order.Lattice
import Mathlib.Tactic.Common

namespace Windowed

variable {Event T : Type*} [LinearOrder T] (time : Event → T) (hit reset : Event → Bool)

/-- No event is later than one before it in the log. -/
def NewestFirst (log : List Event) : Prop := log.Pairwise fun e e' => time e' ≤ time e

/-- The hits from `a` to `b`. -/
def within (a b : T) (log : List Event) : Nat :=
  log.countP fun e => hit e && decide (a ≤ time e) && decide (time e ≤ b)

/-- The hits since `a` that no reset has followed. -/
def streak (a : T) : List Event → Nat
  | [] => 0
  | e :: log => if reset e then 0 else streak a log + (hit e && decide (a ≤ time e)).toNat

section Lemmas

variable {time hit reset} {a b : T} {e : Event} {log : List Event}

/-! ## 1. One event -/

theorem within_cons : within time hit a b (e :: log) =
    within time hit a b log + (hit e && decide (a ≤ time e) && decide (time e ≤ b)).toNat := by
  unfold within
  rw [List.countP_cons]
  cases hit e && decide (a ≤ time e) && decide (time e ≤ b) <;> rfl

/-- An event outside the window changes no count. -/
theorem within_cons_outside (h : time e < a ∨ b < time e) :
    within time hit a b (e :: log) = within time hit a b log := by
  have hout : (decide (a ≤ time e) && decide (time e ≤ b)) = false := by
    rcases h with h | h <;> simp [not_le.mpr h]
  rw [within_cons, Bool.and_assoc, hout, Bool.and_false]
  rfl

/-- One event adds at most itself, if it is a hit. -/
theorem streak_cons_le :
    streak time hit reset a (e :: log) ≤ streak time hit reset a log + (hit e).toNat := by
  rw [streak]
  split
  · exact Nat.zero_le _
  · refine Nat.add_le_add_left ?_ _
    cases hit e
    · exact Nat.le_refl 0
    · exact Bool.toNat_le _

/-! ## 2. The start of the window -/

theorem streak_anti (h : a ≤ b) : streak time hit reset b log ≤ streak time hit reset a log := by
  induction log with
  | nil => exact Nat.le_refl 0
  | cons e log ih =>
      unfold streak
      split
      · exact Nat.le_refl 0
      · refine Nat.add_le_add ih ?_
        by_cases hb : b ≤ time e
        · simp [hb, le_trans h hb]
        · simp [hb]

theorem streak_late (h : ∀ e ∈ log, time e < a) : streak time hit reset a log = 0 := by
  induction log with
  | nil => rfl
  | cons e log ih =>
      have hlt : time e < a := h e (List.mem_cons_self ..)
      unfold streak
      rw [ih fun e' he' => h e' (List.mem_cons_of_mem _ he')]
      simp [not_le.mpr hlt]

/-! ## 3. The hits -/

/-- Only the hits that no reset has followed count. -/
theorem streak_congr {hit' : Event → Bool}
    (h : ∀ e ∈ log.takeWhile fun e => !reset e, hit e = hit' e) :
    streak time hit reset a log = streak time hit' reset a log := by
  induction log with
  | nil => rfl
  | cons e log ih =>
      cases hr : reset e with
      | true => simp only [streak, hr, if_true]
      | false =>
          simp only [List.takeWhile_cons, hr, Bool.not_false, if_true] at h
          rw [streak, streak, ih fun e' he' => h e' (List.mem_cons_of_mem _ he'),
            h e (List.mem_cons_self ..)]

/-! ## 4. Windows and streaks -/

/-- **A window up to the present without a reset**: all its hits are in the streak. -/
theorem within_le_streak (hord : NewestFirst time log) (hnow : ∀ e ∈ log, time e ≤ b)
    (hreset : ∀ e ∈ log, reset e = true → time e < a) :
    within time hit a b log ≤ streak time hit reset a log := by
  induction log with
  | nil => exact Nat.le_refl 0
  | cons e log ih =>
      obtain ⟨hfirst, hord'⟩ := List.pairwise_cons.mp hord
      have ih' := ih hord' (fun e' he' => hnow e' (List.mem_cons_of_mem _ he'))
        fun e' he' => hreset e' (List.mem_cons_of_mem _ he')
      rw [within_cons]
      cases hr : reset e with
      | true =>
          -- the reset is before the window, and so is all that is older
          have he : time e < a := hreset e (List.mem_cons_self ..) hr
          have hnone : within time hit a b log = 0 := by
            refine List.countP_eq_zero.mpr fun e' he' => ?_
            simp [not_le.mpr (lt_of_le_of_lt (hfirst e' he') he)]
          rw [hnone]
          simp [not_le.mpr he]
      | false =>
          have hb : time e ≤ b := hnow e (List.mem_cons_self ..)
          simp only [streak, hr, Bool.false_eq_true, if_false, hb, decide_true, Bool.and_true]
          exact Nat.add_le_add_right ih' _

end Lemmas

end Windowed
