/-
  File:      RetroBridge/Library/Unwinding.lean
  Subject:   WHAT ONE OBSERVER IS TOLD OF THE OTHERS' DOINGS: unwinding, for a machine of events
             some of which answer the observer.

  What an event leaves for the observer is chosen in the state it happens in: nothing, itself, or
  an event that says less.

  * `Machine`, `answers` -- the machine, and what the observer is answered along a history;
  * `residues` -- a history with every event replaced by what it leaves;
  * `Unwinding` -- the three conditions on one event;
  * `Unwinding.reads` -- **the observer is answered the same by the residue of a history**, and the
    states at the end look the same to it.
-/
import Mathlib.Tactic.Common

namespace Noninterference

variable {State Event Answer : Type*}

/-! ## Histories -/

/-- **A machine of events**, with what an event answers the observer. -/
structure Machine (State Event Answer : Type*) where
  next : State → Event → State
  answer : State → Event → Option Answer

namespace Machine

variable (m : Machine State Event Answer)

/-- The state after a history. -/
def run (s : State) (es : List Event) : State := es.foldl m.next s

/-- **What the observer is answered** along a history. -/
def answers : State → List Event → List Answer
  | _, [] => []
  | s, e :: es => (m.answer s e).toList ++ answers (m.next s e) es

/-- **What a history leaves**, each event judged in the state it happens in. -/
def residues (residue : State → Event → Option Event) : State → List Event → List Event
  | _, [] => []
  | s, e :: es => (residue s e).toList ++ residues residue (m.next s e) es

end Machine

/-! ## Unwinding -/

/-- **The conditions on one event**: it keeps what states are known to meet, one that leaves nothing
    answers nothing and changes nothing the observer could see, and one that leaves an event does
    and answers what that event does. -/
structure Unwinding (m : Machine State Event Answer) (residue : State → Event → Option Event)
    (Known : State → Prop) (alike : State → State → Prop) : Prop where
  keeps : ∀ s e, Known s → Known (m.next s e)
  silent : ∀ s t e, Known s → alike s t → residue s e = none →
    m.answer s e = none ∧ alike (m.next s e) t
  heard : ∀ s t e e', Known s → Known t → alike s t → residue s e = some e' →
    m.answer s e = m.answer t e' ∧ alike (m.next s e) (m.next t e')

namespace Unwinding

variable {m : Machine State Event Answer} {residue : State → Event → Option Event}
  {Known : State → Prop} {alike : State → State → Prop} {s t : State}

/-- **The observer is answered the same by what a history leaves**, from a state that looks like the
    first, and the two end in states that look the same. -/
theorem reads (h : Unwinding m residue Known alike) (hs : Known s) (ht : Known t)
    (ha : alike s t) (es : List Event) :
    m.answers s es = m.answers t (m.residues residue s es) ∧
      alike (m.run s es) (m.run t (m.residues residue s es)) := by
  induction es generalizing s t with
  | nil => exact ⟨rfl, ha⟩
  | cons e es ih =>
      cases hr : residue s e with
      | none =>
          obtain ⟨hanswer, halike⟩ := h.silent s t e hs ha hr
          simp only [Machine.answers, Machine.residues, Machine.run, hr, hanswer, List.foldl_cons,
            Option.toList_none, List.nil_append]
          exact ih (h.keeps s e hs) ht halike
      | some e' =>
          obtain ⟨hanswer, halike⟩ := h.heard s t e e' hs ht ha hr
          obtain ⟨hrest, hend⟩ := ih (h.keeps s e hs) (h.keeps t e' ht) halike
          simp only [Machine.answers, Machine.residues, Machine.run, hr, hanswer, List.foldl_cons,
            Option.toList_some, List.cons_append, List.nil_append]
          exact ⟨congrArg _ hrest, hend⟩

end Unwinding

end Noninterference
