/-
  File:      RetroBridge/Library/Run.lean
  Subject:   LABELLED RUNS. A step relation with labels, its runs with the list of labels they
             took, and the rules by which a fact about one step becomes a fact about every run.

  * `Run` -- the runs of a step relation from a start state, with the labels in order;
  * `guarded` -- the steps of a relation that meet a condition on the state before them and on
    their label: a run of the guarded relation is a run whose steps all meet the condition;
  * `Run.invariant`, `Run.invariant_labels` -- the induction, once: what one step keeps, a run
    keeps; what one step says of its label, a run says of all its labels;
  * `Run.mono`, `Run.trans` -- a run of a smaller relation, and a run after a run;
  * `observe` -- what an observer of a run whose labels determine the states has written down;
    `Run.observed`: an invariant of the state and the record;
  * `execAll`, `play` -- the runs of an executable step, and of one that computes its label;
    `firstOf`: along a stream of labels, where a run may stop;
  * `beside` -- two systems, each step one of either: a run of both is a run of each.
-/
import Mathlib.Data.List.Basic
import Mathlib.Tactic.Common

namespace Transition

variable {State Label : Type*}

/-- **A run from `s₀`**: the labels it took, in order, and the state it reached. -/
inductive Run (step : State → Label → State → Prop) (s₀ : State) : List Label → State → Prop where
  | start : Run step s₀ [] s₀
  | step {ls : List Label} {s s' : State} (l : Label) (h : Run step s₀ ls s) (hs : step s l s') :
      Run step s₀ (ls ++ [l]) s'

/-- The steps of `step` whose state before and label meet `ok`. -/
def guarded (step : State → Label → State → Prop) (ok : State → Label → Prop) :
    State → Label → State → Prop :=
  fun s l s' => ok s l ∧ step s l s'

variable {step step' : State → Label → State → Prop} {s₀ s s' : State} {ls ls' : List Label}

/-- **What one step keeps, a run keeps.** -/
theorem Run.invariant {I : State → Prop} (h0 : I s₀) (hI : ∀ s l s', I s → step s l s' → I s')
    (h : Run step s₀ ls s) : I s := by
  induction h with
  | start => exact h0
  | step l _ hs ih => exact hI _ l _ ih hs

/-- **What one step says of its label, a run says of all its labels**, given an invariant. -/
theorem Run.invariant_labels {I : State → Prop} {P : Label → Prop} (h0 : I s₀)
    (hI : ∀ s l s', I s → step s l s' → I s') (hP : ∀ s l s', I s → step s l s' → P l)
    (h : Run step s₀ ls s) : ∀ l ∈ ls, P l := by
  induction h with
  | start => intro l hl; exact absurd hl List.not_mem_nil
  | step l hr hs ih =>
      intro k hk
      rcases List.mem_append.mp hk with hk | hk
      · exact ih k hk
      · rw [List.mem_singleton.mp hk]
        exact hP _ l _ (hr.invariant h0 hI) hs

/-- An invariant that also reads the labels taken so far. -/
theorem Run.invariant_history {I : List Label → State → Prop} (h0 : I [] s₀)
    (hI : ∀ ls s l s', I ls s → step s l s' → I (ls ++ [l]) s')
    (h : Run step s₀ ls s) : I ls s := by
  induction h with
  | start => exact h0
  | step l _ hs ih => exact hI _ _ l _ ih hs

/-- A run of a relation is a run of every larger one. -/
theorem Run.mono (hsub : ∀ s l s', step s l s' → step' s l s') (h : Run step s₀ ls s) :
    Run step' s₀ ls s := by
  induction h with
  | start => exact .start
  | step l _ hs ih => exact .step l ih (hsub _ _ _ hs)

/-- A run whose steps all meet a condition is a run. -/
theorem Run.of_guarded {ok : State → Label → Prop} (h : Run (guarded step ok) s₀ ls s) :
    Run step s₀ ls s :=
  h.mono fun _ _ _ hs => hs.2

/-- A run after a run. -/
theorem Run.trans (h : Run step s₀ ls s) (h' : Run step s ls' s') : Run step s₀ (ls ++ ls') s' := by
  induction h' with
  | start => rwa [List.append_nil]
  | step l _ hs ih =>
      rw [← List.append_assoc]
      exact .step l ih hs

/-! ## Observers -/

section Observe

variable {Record : Type*} {next : State → Label → State} {f : Record → State → Label → Record}

/-- **What an observer has written down** after the labels: at each step it sees the state before
    the step and the label. -/
def observe (next : State → Label → State) (f : Record → State → Label → Record) :
    Record → State → List Label → Record
  | g, _, [] => g
  | g, s, l :: ls => observe next f (f g s l) (next s l) ls

/-- The state after a run, where the label determines it. -/
theorem Run.foldl_next (hnext : ∀ s l s', step s l s' → next s l = s') (h : Run step s₀ ls s) :
    ls.foldl next s₀ = s := by
  induction h with
  | start => rfl
  | step l _ hs ih => rw [List.foldl_append, ih, List.foldl_cons, List.foldl_nil, hnext _ l _ hs]

/-- The last step is seen last. -/
theorem observe_concat (l : Label) (ls : List Label) : ∀ (g : Record) (s₀ : State),
    observe next f g s₀ (ls ++ [l]) = f (observe next f g s₀ ls) (ls.foldl next s₀) l := by
  induction ls with
  | nil => exact fun _ _ => rfl
  | cons l' ls ih => exact fun g s₀ => ih (f g s₀ l') (next s₀ l')

/-- **An invariant of the state and the record.** -/
theorem Run.observed {I : Record → State → Prop} {g : Record}
    (hnext : ∀ s l s', step s l s' → next s l = s') (h0 : I g s₀)
    (hI : ∀ g s l s', I g s → step s l s' → I (f g s l) s') (h : Run step s₀ ls s) :
    I (observe next f g s₀ ls) s := by
  induction h with
  | start => exact h0
  | step l hr hs ih =>
      rw [observe_concat, hr.foldl_next hnext]
      exact hI _ _ l _ ih hs

end Observe

/-! ## Runs of an executable step -/

section Exec

variable {exec : State → Label → Option State}

/-- Run a list of labels; `none` as soon as one is not enabled. -/
def execAll (exec : State → Label → Option State) : State → List Label → Option State
  | s, [] => some s
  | s, l :: ls => (exec s l).bind fun s' => execAll exec s' ls

/-- A list of labels after a list of labels. -/
theorem execAll_append (ls ls' : List Label) : ∀ s : State,
    execAll exec s (ls ++ ls') = (execAll exec s ls).bind fun s' => execAll exec s' ls' := by
  induction ls with
  | nil => exact fun _ => rfl
  | cons l ls ih =>
      intro s
      show ((exec s l).bind fun s' => execAll exec s' (ls ++ ls')) =
        ((exec s l).bind fun s' => execAll exec s' ls).bind fun s' => execAll exec s' ls'
      rw [Option.bind_assoc]
      exact Option.bind_congr fun s' _ => ih s'

/-- **What `execAll` computes is a run.** -/
theorem run_of_execAll {ls : List Label} : ∀ {s₀ s : State}, execAll exec s₀ ls = some s →
    Run (fun s l s' => exec s l = some s') s₀ ls s := by
  induction ls with
  | nil =>
      intro s₀ s h
      cases h
      exact .start
  | cons l ls ih =>
      intro s₀ s h
      obtain ⟨s₁, h₁, h₂⟩ := Option.bind_eq_some_iff.mp h
      have hone : Run (fun s l s' => exec s l = some s') s₀ [l] s₁ := .step l .start h₁
      exact hone.trans (ih h₂)

/-- A computed run whose last state meets `p`. -/
theorem exists_run_of_execAll {s₀ : State} {ls : List Label} {p : State → Bool}
    (h : (execAll exec s₀ ls).any p = true) :
    ∃ s, Run (fun s l s' => exec s l = some s') s₀ ls s ∧ p s = true := by
  cases e : execAll exec s₀ ls with
  | none => rw [e] at h; cases h
  | some s =>
      rw [e] at h
      exact ⟨s, run_of_execAll e, h⟩

/-- A computed run and one computed step after it. -/
theorem exists_run_step_of_execAll {s₀ : State} {ls : List Label} {l : Label}
    {p : State → State → Bool}
    (h : ((execAll exec s₀ ls).any fun s => (exec s l).any (p s)) = true) :
    ∃ s s', Run (fun s l s' => exec s l = some s') s₀ ls s ∧ exec s l = some s' ∧
      p s s' = true := by
  obtain ⟨s, hr, hp⟩ := exists_run_of_execAll h
  obtain ⟨s', hs', hp'⟩ := (Option.any_eq_true _ _).mp hp
  exact ⟨s, s', hr, hs', hp'⟩

/-- The step where `ok` is met, no step elsewhere. -/
def execWhen (ok : State → Label → Bool) (exec : State → Label → Option State) (s : State)
    (l : Label) : Option State := if ok s l = true then exec s l else none

theorem execWhen_some {ok : State → Label → Bool} {s s' : State} {l : Label} :
    execWhen ok exec s l = some s' ↔ ok s l = true ∧ exec s l = some s' := by
  unfold execWhen
  split
  · rename_i hc
    exact ⟨fun h => ⟨hc, h⟩, fun h => h.2⟩
  · rename_i hc
    exact ⟨nofun, fun h => absurd h.1 hc⟩

/-- **A computed run under a decided condition is a run of the guarded relation.** -/
theorem exists_guarded_run {s₀ : State} {ls : List Label} {ok : State → Label → Bool}
    {cond : State → Label → Prop} {p : State → Bool} (hok : ∀ s l, ok s l = true → cond s l)
    (h : (execAll (execWhen ok exec) s₀ ls).any p = true) :
    ∃ s, Run (guarded (fun s l s' => exec s l = some s') cond) s₀ ls s ∧ p s = true := by
  obtain ⟨s, hr, hp⟩ := exists_run_of_execAll h
  refine ⟨s, hr.mono fun s l s' hs => ?_, hp⟩
  obtain ⟨hc, hs⟩ := execWhen_some.mp hs
  exact ⟨hok s l hc, hs⟩

/-- A computed run under a decided condition, and one computed step after it. -/
theorem exists_guarded_run_step {s₀ : State} {ls : List Label} {l : Label}
    {ok : State → Label → Bool} {cond : State → Label → Prop} {p : State → State → Bool}
    (hok : ∀ s l, ok s l = true → cond s l)
    (h : ((execAll (execWhen ok exec) s₀ ls).any fun s => (exec s l).any (p s)) = true) :
    ∃ s s', Run (guarded (fun s l s' => exec s l = some s') cond) s₀ ls s ∧
      exec s l = some s' ∧ p s s' = true := by
  obtain ⟨s, hr, hp⟩ := exists_guarded_run hok h
  obtain ⟨s', hs', hp'⟩ := (Option.any_eq_true _ _).mp hp
  exact ⟨s, s', hr, hs', hp'⟩

/-- A computed run, and one after it. -/
theorem exists_two_runs {s₀ : State} {ls ls' : List Label} {p : State → State → Bool}
    (h : (execAll exec s₀ ls).any (fun s => (execAll exec s ls').any (p s)) = true) :
    ∃ s s', Run (fun s l s' => exec s l = some s') s₀ ls s ∧
      Run (fun s l s' => exec s l = some s') s ls' s' ∧ p s s' = true := by
  obtain ⟨s, hr, hp⟩ := exists_run_of_execAll h
  obtain ⟨s', hr', hp'⟩ := exists_run_of_execAll hp
  exact ⟨s, s', hr, hr', hp'⟩

/-- The same under a decided condition. -/
theorem exists_two_guarded_runs {s₀ : State} {ls ls' : List Label} {ok : State → Label → Bool}
    {cond : State → Label → Prop} {p : State → State → Bool}
    (hok : ∀ s l, ok s l = true → cond s l)
    (h : (execAll (execWhen ok exec) s₀ ls).any
      (fun s => (execAll (execWhen ok exec) s ls').any (p s)) = true) :
    ∃ s s', Run (guarded (fun s l s' => exec s l = some s') cond) s₀ ls s ∧
      Run (guarded (fun s l s' => exec s l = some s') cond) s ls' s' ∧ p s s' = true := by
  obtain ⟨s, hr, hp⟩ := exists_guarded_run hok h
  obtain ⟨s', hr', hp'⟩ := exists_guarded_run hok hp
  exact ⟨s, s', hr, hr', hp'⟩

/-! ### Along a stream of labels -/

/-- The first `n` labels of a stream. -/
def firstOf (f : Nat → Label) (n : Nat) : List Label := (List.range n).map f

/-- One label further. -/
theorem execAll_firstOf_succ {s : State} {f : Nat → Label} (n : Nat) :
    execAll exec s (firstOf f (n + 1)) =
      (execAll exec s (firstOf f n)).bind fun s' => exec s' (f n) := by
  have h : firstOf f (n + 1) = firstOf f n ++ [f n] := by
    simp only [firstOf, List.range_succ, List.map_append, List.map_cons, List.map_nil]
  rw [h, execAll_append]
  exact Option.bind_congr fun s' _ => Option.bind_fun_some (exec s' (f n))

/-- **A run that has stopped stays so.** -/
theorem execAll_firstOf_mono {s : State} {f : Nat → Label} {m n : Nat}
    (h : execAll exec s (firstOf f m) = none) (hmn : m ≤ n) :
    execAll exec s (firstOf f n) = none := by
  induction hmn with
  | refl => exact h
  | step _ ih => rw [execAll_firstOf_succ, ih, Option.bind_none]

end Exec

/-! ## Runs of an executable step that also computes its label -/

section Play

variable {Event : Type*} {fire : State → Event → Option (Label × State)}

/-- Run a list of events, and collect the labels; `none` as soon as one is not enabled. -/
def play (fire : State → Event → Option (Label × State)) :
    State → List Event → Option (List Label × State)
  | s, [] => some ([], s)
  | s, e :: es => (fire s e).bind fun r => (play fire r.2 es).map fun t => (r.1 :: t.1, t.2)

/-- **What `play` computes is a run.** -/
theorem run_of_play (hfire : ∀ s e l s', fire s e = some (l, s') → step s l s') {es : List Event} :
    ∀ {s₀ s : State} {ls : List Label}, play fire s₀ es = some (ls, s) → Run step s₀ ls s := by
  induction es with
  | nil =>
      intro s₀ s ls h
      cases h
      exact .start
  | cons e es ih =>
      intro s₀ s ls h
      obtain ⟨⟨l, s₁⟩, h₁, h₂⟩ := Option.bind_eq_some_iff.mp h
      obtain ⟨⟨ls', s'⟩, hrest, heq⟩ := Option.map_eq_some_iff.mp h₂
      cases heq
      have hone : Run step s₀ [l] s₁ := .step l .start (hfire s₀ e l s₁ h₁)
      exact hone.trans (ih hrest)

/-- A computed run that meets `p`. -/
theorem exists_run_of_play (hfire : ∀ s e l s', fire s e = some (l, s') → step s l s') {s₀ : State}
    {es : List Event} {p : List Label × State → Bool} (h : (play fire s₀ es).any p = true) :
    ∃ ls s, Run step s₀ ls s ∧ p (ls, s) = true := by
  obtain ⟨⟨ls, s⟩, hplay, hp⟩ := (Option.any_eq_true _ _).mp h
  exact ⟨ls, s, run_of_play hfire hplay, hp⟩

end Play

/-! ## Two systems side by side -/

section Beside

variable {State₁ State₂ Label₁ Label₂ : Type*} {step₁ : State₁ → Label₁ → State₁ → Prop}
  {step₂ : State₂ → Label₂ → State₂ → Prop} {s₀ s : State₁ × State₂} {ls : List (Label₁ ⊕ Label₂)}

/-- **Two systems side by side**: a step of one leaves the other where it is. -/
def beside (step₁ : State₁ → Label₁ → State₁ → Prop) (step₂ : State₂ → Label₂ → State₂ → Prop)
    (s : State₁ × State₂) (l : Label₁ ⊕ Label₂) (s' : State₁ × State₂) : Prop :=
  match l with
  | .inl l => step₁ s.1 l s'.1 ∧ s'.2 = s.2
  | .inr l => step₂ s.2 l s'.2 ∧ s'.1 = s.1

/-- **A run of both is a run of the first.** -/
theorem Run.left (h : Run (beside step₁ step₂) s₀ ls s) :
    Run step₁ s₀.1 (ls.filterMap Sum.getLeft?) s.1 := by
  induction h with
  | start => exact .start
  | step l _ hs ih =>
      rw [List.filterMap_append]
      cases l with
      | inl l => exact .step l ih hs.1
      | inr l =>
          rw [hs.2]
          exact (List.append_nil _).symm ▸ ih

/-- **A run of both is a run of the second.** -/
theorem Run.right (h : Run (beside step₁ step₂) s₀ ls s) :
    Run step₂ s₀.2 (ls.filterMap Sum.getRight?) s.2 := by
  induction h with
  | start => exact .start
  | step l _ hs ih =>
      rw [List.filterMap_append]
      cases l with
      | inl l =>
          rw [hs.2]
          exact (List.append_nil _).symm ▸ ih
      | inr l => exact .step l ih hs.1

/-- A run of the first, and of the second after it. -/
theorem Run.beside {s₁ s₁' : State₁} {s₂ s₂' : State₂} {ls₁ : List Label₁} {ls₂ : List Label₂}
    (h₁ : Run step₁ s₁ ls₁ s₁') (h₂ : Run step₂ s₂ ls₂ s₂') :
    Run (Transition.beside step₁ step₂) (s₁, s₂) (ls₁.map Sum.inl ++ ls₂.map Sum.inr)
      (s₁', s₂') := by
  have hfirst : Run (Transition.beside step₁ step₂) (s₁, s₂) (ls₁.map Sum.inl) (s₁', s₂) := by
    induction h₁ with
    | start => exact .start
    | step l _ hs ih =>
        have hbeside : Transition.beside step₁ step₂ (_, s₂) (.inl l) (_, s₂) := ⟨hs, rfl⟩
        rw [List.map_append]
        exact .step (.inl l) ih hbeside
  have hsecond : Run (Transition.beside step₁ step₂) (s₁', s₂) (ls₂.map Sum.inr) (s₁', s₂') := by
    induction h₂ with
    | start => exact .start
    | step l _ hs ih =>
        have hbeside : Transition.beside step₁ step₂ (s₁', _) (.inr l) (s₁', _) := ⟨hs, rfl⟩
        rw [List.map_append]
        exact .step (.inr l) ih hbeside
  exact hfirst.trans hsecond

end Beside

end Transition
