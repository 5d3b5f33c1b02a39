/-
  File:      RetroBridge/Library/Threads.lean
  Subject:   THREADS OVER A SHARED STATE: each is in a phase of what it does, and their steps
             interleave.

  * `World`, `World.move` -- the shared state with the phase of every thread, and the step of one;
  * `Program`, `turn` -- what a thread does in a phase, and a turn of the world;
  * `Annotated` -- an invariant of the shared state, and an assertion for the phase of each thread;
  * `Annotated.turn`, `Annotated.run` -- **the rule**: the acting thread keeps the invariant and
    establishes the assertion of its next phase, and it spoils no assertion of another thread;
  * `exists_run_of_turns` -- the runs that can be computed.
-/
import RetroBridge.Library.Run

namespace Interleaved

open Transition

/-! ## 1. The world -/

/-- **Threads over a shared state.** -/
structure World (σ τ φ : Type*) where
  shared : σ
  phase : τ → φ

/-- What a thread does on an event in a phase: the shared state and its phase after it; `none` where
    the event is not for the phase. -/
abbrev Program (σ τ φ ε : Type*) := τ → ε → σ → φ → Option (σ × φ)

variable {σ τ φ ε : Type*} [DecidableEq τ]

/-- Thread `t` goes to phase `p`, and the shared state to `s`. -/
def World.move (w : World σ τ φ) (t : τ) (s : σ) (p : φ) : World σ τ φ where
  shared := s
  phase u := if u = t then p else w.phase u

namespace World

variable {w : World σ τ φ} {t u : τ} {s : σ} {p : φ}

@[simp] theorem move_shared : (w.move t s p).shared = s := rfl

@[simp] theorem move_phase_self : (w.move t s p).phase t = p := if_pos rfl

theorem move_phase_other (h : u ≠ t) : (w.move t s p).phase u = w.phase u := if_neg h

end World

/-- **A turn**: one thread, one event. -/
def turn (prog : Program σ τ φ ε) (w : World σ τ φ) (l : τ × ε) : Option (World σ τ φ) :=
  (prog l.1 l.2 w.shared (w.phase l.1)).map fun r => w.move l.1 r.1 r.2

/-- The step relation of a program. -/
def Turn (prog : Program σ τ φ ε) (w : World σ τ φ) (l : τ × ε) (w' : World σ τ φ) : Prop :=
  turn prog w l = some w'

variable {prog : Program σ τ φ ε} {w w' : World σ τ φ} {l : τ × ε}

theorem turn_some : Turn prog w l w' ↔ ∃ s p, prog l.1 l.2 w.shared (w.phase l.1) = some (s, p) ∧
    w' = w.move l.1 s p := by
  constructor
  · intro h
    obtain ⟨⟨s, p⟩, hprog, hw⟩ := Option.map_eq_some_iff.mp h
    exact ⟨s, p, hprog, hw.symm⟩
  · rintro ⟨s, p, hprog, rfl⟩
    exact Option.map_eq_some_iff.mpr ⟨(s, p), hprog, rfl⟩

/-! ## 2. Annotations -/

/-- **An annotated world**: the shared state meets `I`, and with the phase of each thread `A`. -/
structure Annotated (I : σ → Prop) (A : τ → φ → σ → Prop) (w : World σ τ φ) : Prop where
  shared : I w.shared
  thread : ∀ t, A t (w.phase t) w.shared

variable {I : σ → Prop} {A : τ → φ → σ → Prop}

theorem Annotated.move {t : τ} {s : σ} {p : φ} (hI : I s) (hA : A t p s)
    (hothers : ∀ u, u ≠ t → A u (w.phase u) s) : Annotated I A (w.move t s p) where
  shared := hI
  thread u := by
    by_cases hu : u = t
    · rw [hu, World.move_phase_self]
      exact hA
    · rw [World.move_phase_other hu]
      exact hothers u hu

/-- **One turn of an annotated world.** -/
theorem Annotated.turn (h : Annotated I A w) (ht : Turn prog w l w')
    (hstep : ∀ s p, prog l.1 l.2 w.shared (w.phase l.1) = some (s, p) →
      I s ∧ A l.1 p s ∧ ∀ u, u ≠ l.1 → A u (w.phase u) w.shared → A u (w.phase u) s) :
    Annotated I A w' := by
  obtain ⟨s, p, hprog, rfl⟩ := turn_some.mp ht
  obtain ⟨hI, hA, hothers⟩ := hstep s p hprog
  exact .move hI hA fun u hu => hothers u hu (h.thread u)

/-- **The rule**, over runs whose turns all meet a condition on the world before them. -/
theorem Annotated.run {ok : World σ τ φ → τ × ε → Prop} {ls : List (τ × ε)} {w₀ : World σ τ φ}
    (h0 : Annotated I A w₀) (hr : Run (guarded (Turn prog) ok) w₀ ls w)
    (hstep : ∀ w l s p, Annotated I A w → ok w l →
      prog l.1 l.2 w.shared (w.phase l.1) = some (s, p) →
      I s ∧ A l.1 p s ∧ ∀ u, u ≠ l.1 → A u (w.phase u) w.shared → A u (w.phase u) s) :
    Annotated I A w :=
  hr.invariant h0 fun w l _ h hs => h.turn hs.2 fun s p hprog => hstep w l s p h hs.1 hprog

/-! ## 3. Computed runs -/

/-- **A computed run of the threads `ts`**, under a condition that is decided from their phases: the
    other threads keep theirs. -/
theorem exists_run_of_turns {ok : World σ τ φ → τ × ε → Bool} {cond : World σ τ φ → τ × ε → Prop}
    {p : World σ τ φ → Bool} {w₀ : World σ τ φ} {ls : List (τ × ε)} (ts : List τ)
    (hok : ∀ w l, (∀ t, t ∉ ts → w.phase t = w₀.phase t) → ok w l = true → cond w l)
    (h : (execAll (execWhen (fun w l => decide (l.1 ∈ ts) && ok w l) (Interleaved.turn prog)) w₀
      ls).any p = true) :
    ∃ w, Run (guarded (Turn prog) cond) w₀ ls w ∧ p w = true := by
  have hboth : ∀ (w : World σ τ φ) (l : τ × ε), (decide (l.1 ∈ ts) && ok w l) = true →
      l.1 ∈ ts ∧ ok w l = true := fun w l hc => by simpa using hc
  obtain ⟨w, hr, hp⟩ := exists_guarded_run hboth h
  refine ⟨w, ?_, hp⟩
  have hkeep : Run (guarded (Turn prog) cond) w₀ ls w ∧ ∀ t, t ∉ ts → w.phase t = w₀.phase t := by
    clear h hp
    induction hr with
    | start => exact ⟨.start, fun _ _ => rfl⟩
    | step l _ hs ih =>
        obtain ⟨hrun, hothers⟩ := ih
        refine ⟨.step l hrun ⟨hok _ l hothers hs.1.2, hs.2⟩, fun t ht => ?_⟩
        obtain ⟨s, q, -, rfl⟩ := turn_some.mp hs.2
        have hne : t ≠ l.1 := fun e => ht (e ▸ hs.1.1)
        rw [World.move_phase_other hne]
        exact hothers t ht
  exact hkeep.1

end Interleaved
