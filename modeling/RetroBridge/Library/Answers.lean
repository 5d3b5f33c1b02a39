/-
  File:      RetroBridge/Library/Answers.lean
  Subject:   MACHINES THAT ANSWER EACH INPUT, and rules that read the inputs before and the answers
             to them.

  * `answers` -- what a machine answers to a list of inputs;
  * `byRule` -- the machine of a rule: its state is the log of inputs and answers, newest first;
  * `answers_eq_of_sim` -- **the simulation rule**: two machines answer alike if a relation between
    their states, which may also read the inputs to come, is kept and makes each answer the same;
  * `record_invariant` -- what one entry keeps, the whole log keeps;
  * `record_filter` -- a rule that reads only the entries of a class answers the inputs of the class
    as if they had come alone.
-/
import Mathlib.Data.List.Basic
import Mathlib.Tactic.Common

namespace Answering

variable {σ τ α β : Type*}

/-! ## 1. Machines -/

/-- The answers of a machine to a list of inputs. -/
def answers (f : σ → α → β × σ) : σ → List α → List β
  | _, [] => []
  | s, a :: as => (f s a).1 :: answers f (f s a).2 as

/-- **The simulation rule.** -/
theorem answers_eq_of_sim {f : σ → α → β × σ} {g : τ → α → β × τ} (R : σ → τ → List α → Prop)
    (hR : ∀ s t a as, R s t (a :: as) → (f s a).1 = (g t a).1 ∧ R (f s a).2 (g t a).2 as)
    {s : σ} {t : τ} {as : List α} (h : R s t as) : answers f s as = answers g t as := by
  induction as generalizing s t with
  | nil => rfl
  | cons a as ih =>
      obtain ⟨hanswer, hnext⟩ := hR s t a as h
      rw [answers, answers, hanswer, ih hnext]

/-! ## 2. Rules -/

/-- The machine of a rule. -/
def byRule (rule : List (α × β) → α → β) (log : List (α × β)) (a : α) : β × List (α × β) :=
  (rule log a, (a, rule log a) :: log)

/-- Inputs with their answers, newest first. -/
def record (as : List α) (bs : List β) : List (α × β) := (as.zip bs).reverse

/-- The log with one input more at the front. -/
theorem record_cons {rule : List (α × β) → α → β} (log : List (α × β)) (a : α) (as : List α) :
    record (a :: as) (answers (byRule rule) log (a :: as)) ++ log =
      record as (answers (byRule rule) ((a, rule log a) :: log) as) ++ (a, rule log a) :: log := by
  show ((a, rule log a) :: as.zip _).reverse ++ log = _
  rw [List.reverse_cons, List.append_assoc]
  rfl

/-- **What one entry keeps, the whole log keeps.** -/
theorem record_invariant {rule : List (α × β) → α → β} {I : List (α × β) → Prop}
    (hI : ∀ log a, I log → I ((a, rule log a) :: log)) {log : List (α × β)} {as : List α}
    (h : I log) : I (record as (answers (byRule rule) log as) ++ log) := by
  induction as generalizing log with
  | nil => exact h
  | cons a as ih =>
      rw [record_cons]
      exact ih (hI log a h)

/-- **A rule that reads only the entries of a class** answers the inputs of the class as if they had
    come alone. -/
theorem record_filter {rule : List (α × β) → α → β} {p : α → Bool}
    (hlocal : ∀ log a, p a = true → rule log a = rule (log.filter fun e => p e.1) a)
    (log : List (α × β)) (as : List α) :
    (record as (answers (byRule rule) log as) ++ log).filter (fun e => p e.1) =
      record (as.filter p) (answers (byRule rule) (log.filter fun e => p e.1) (as.filter p)) ++
        log.filter fun e => p e.1 := by
  induction as generalizing log with
  | nil => rfl
  | cons a as ih =>
      rw [record_cons, ih]
      cases hp : p a with
      | false =>
          rw [List.filter_cons_of_neg (by simp [hp]), List.filter_cons_of_neg (by simp [hp])]
      | true =>
          rw [List.filter_cons_of_pos (by simp [hp]), List.filter_cons_of_pos (by simp [hp]),
            record_cons, ← hlocal log a hp]

end Answering
