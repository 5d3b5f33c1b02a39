/-
  File:      RetroBridge/Library/Transducer.lean
  Subject:   A TRANSDUCER WHOSE INPUT ARRIVES IN PIECES, and what the cuts between them may change.

  * `Transducer` -- states, what a symbol does and emits, and what the end of a piece does and
    emits;
  * `state`, `output` -- the run over a list, with the lemmas for `++`;
  * `pieces` -- the run over pieces, with the end of a piece after each;
  * `Seamless`, `SeamlessCuts` -- a state that the end of a piece leaves alone, and pieces that all
    end in one;
  * `SeamlessCuts.pieces_last` -- **seamless cuts change nothing**: the pieces emit what their
    concatenation emits; `SeamlessCuts.pieces_cut`: what one more cut emits.
-/
import Mathlib.Data.List.Basic
import Mathlib.Tactic.Common

namespace Piecewise

/-- **A transducer**: `cut` and `flush` are what the end of a piece does and emits. -/
structure Transducer (σ α β : Type*) where
  next : σ → α → σ
  emit : σ → α → List β
  cut : σ → σ
  flush : σ → List β

namespace Transducer

variable {σ α β : Type*} (T : Transducer σ α β)

/-! ## 1. One piece -/

/-- The state after a list. -/
def state (q : σ) (l : List α) : σ := l.foldl T.next q

/-- What a list emits. -/
def output : σ → List α → List β
  | _, [] => []
  | q, a :: l => T.emit q a ++ output (T.next q a) l

@[simp] theorem state_nil (q : σ) : T.state q [] = q := rfl
@[simp] theorem state_cons (q : σ) (a : α) (l : List α) :
    T.state q (a :: l) = T.state (T.next q a) l := rfl
@[simp] theorem output_nil (q : σ) : T.output q [] = [] := rfl
@[simp] theorem output_cons (q : σ) (a : α) (l : List α) :
    T.output q (a :: l) = T.emit q a ++ T.output (T.next q a) l := rfl

theorem state_append (q : σ) (l m : List α) : T.state q (l ++ m) = T.state (T.state q l) m :=
  List.foldl_append

theorem output_append (q : σ) (l m : List α) :
    T.output q (l ++ m) = T.output q l ++ T.output (T.state q l) m := by
  induction l generalizing q with
  | nil => rfl
  | cons a l ih =>
      rw [List.cons_append, output_cons, output_cons, ih, List.append_assoc, state_cons]

/-- What a piece emits, its end included. -/
def piece (q : σ) (l : List α) : List β := T.output q l ++ T.flush (T.state q l)

theorem piece_append (q : σ) (l m : List α) :
    T.piece q (l ++ m) = T.output q l ++ T.piece (T.state q l) m := by
  rw [piece, piece, output_append, state_append, List.append_assoc]

/-- The state after a piece. -/
def after (q : σ) (l : List α) : σ := T.cut (T.state q l)

/-! ## 2. Pieces -/

/-- What a list of pieces emits. -/
def pieces : σ → List (List α) → List β
  | _, [] => []
  | q, l :: ls => T.piece q l ++ pieces (T.after q l) ls

/-- The state after a list of pieces. -/
def afterAll (q : σ) (ls : List (List α)) : σ := ls.foldl T.after q

theorem pieces_append (q : σ) (ls ms : List (List α)) :
    T.pieces q (ls ++ ms) = T.pieces q ls ++ T.pieces (T.afterAll q ls) ms := by
  induction ls generalizing q with
  | nil => rfl
  | cons l ls ih =>
      show T.piece q l ++ T.pieces (T.after q l) (ls ++ ms) =
        (T.piece q l ++ T.pieces (T.after q l) ls) ++ _
      rw [ih, List.append_assoc]
      rfl

/-- Pieces that lead back to the state they begin in. -/
theorem pieces_loop {q : σ} {ls : List (List α)} (h : ∀ l ∈ ls, T.after q l = q)
    (rest : List (List α)) :
    T.pieces q (ls ++ rest) = ls.flatMap (T.piece q) ++ T.pieces q rest ∧
      T.afterAll q (ls ++ rest) = T.afterAll q rest := by
  induction ls with
  | nil => exact ⟨rfl, rfl⟩
  | cons l ls ih =>
      obtain ⟨hpieces, hafter⟩ := ih fun m hm => h m (List.mem_cons_of_mem l hm)
      have hl := h l List.mem_cons_self
      show T.piece q l ++ T.pieces (T.after q l) (ls ++ rest) = _ ∧
        T.afterAll (T.after q l) (ls ++ rest) = _
      rw [hl, hpieces, hafter, List.flatMap_cons, List.append_assoc]
      exact ⟨rfl, rfl⟩

/-- The end of a piece leaves the state alone and emits nothing. -/
def Seamless (q : σ) : Prop := T.cut q = q ∧ T.flush q = []

/-- Every piece ends in a seamless state. -/
def SeamlessCuts : σ → List (List α) → Prop
  | _, [] => True
  | q, l :: ls => T.Seamless (T.state q l) ∧ SeamlessCuts (T.state q l) ls

variable {T}

/-- Under seamless cuts the state after the pieces is the state after their concatenation. -/
theorem SeamlessCuts.afterAll {q : σ} {ls : List (List α)} (h : T.SeamlessCuts q ls) :
    T.afterAll q ls = T.state q ls.flatten := by
  induction ls generalizing q with
  | nil => rfl
  | cons l ls ih =>
      have hafter : T.after q l = T.state q l := h.1.1
      show T.afterAll (T.after q l) ls = T.state q (l ++ ls.flatten)
      rw [hafter, state_append, ih h.2]

/-- Under seamless cuts the pieces emit what their concatenation emits without its end. -/
theorem SeamlessCuts.pieces {q : σ} {ls : List (List α)} (h : T.SeamlessCuts q ls) :
    T.pieces q ls = T.output q ls.flatten := by
  induction ls generalizing q with
  | nil => rfl
  | cons l ls ih =>
      have hafter : T.after q l = T.state q l := h.1.1
      have hpiece : T.piece q l = T.output q l := by rw [piece, h.1.2, List.append_nil]
      show T.piece q l ++ T.pieces (T.after q l) ls = T.output q (l ++ ls.flatten)
      rw [hpiece, hafter, ih h.2, output_append]

theorem pieces_singleton (q : σ) (l : List α) : T.pieces q [l] = T.piece q l := List.append_nil _

/-- **Seamless cuts change nothing**, whatever the last piece. -/
theorem SeamlessCuts.pieces_last {q : σ} {ls : List (List α)} (h : T.SeamlessCuts q ls)
    (last : List α) : T.pieces q (ls ++ [last]) = T.pieces q [ls.flatten ++ last] := by
  rw [pieces_append, h.pieces, h.afterAll, pieces_singleton, pieces_singleton, piece_append]

/-- One more cut after seamless ones: what its state flushes, then the last piece from what the cut
    made of the state. -/
theorem SeamlessCuts.pieces_cut {q : σ} {ls : List (List α)} (h : T.SeamlessCuts q ls)
    (l last : List α) : T.pieces q (ls ++ [l] ++ [last]) =
      T.output q (ls.flatten ++ l) ++ (T.flush (T.state q (ls.flatten ++ l)) ++
        T.piece (T.cut (T.state q (ls.flatten ++ l))) last) := by
  have hafter : T.after (T.state q ls.flatten) l = T.cut (T.state q (ls.flatten ++ l)) := by
    rw [after, state_append]
  have htwo : T.pieces (T.state q ls.flatten) [l, last] =
      T.piece (T.state q ls.flatten) l ++ T.piece (T.after (T.state q ls.flatten) l) last := by
    show _ ++ T.pieces _ [last] = _
    rw [pieces_singleton]
  rw [List.append_assoc, pieces_append, h.pieces, h.afterAll]
  show _ ++ T.pieces _ [l, last] = _
  rw [htwo, hafter, piece, output_append, state_append]
  simp only [List.append_assoc]

/-- Seamless cuts, seen from the concatenations of the first pieces. -/
theorem seamlessCuts_iff {q : σ} {ls : List (List α)} : T.SeamlessCuts q ls ↔
    ∀ n, 0 < n → n ≤ ls.length → T.Seamless (T.state q (ls.take n).flatten) := by
  induction ls generalizing q with
  | nil =>
      refine ⟨fun _ n h0 hn => ?_, fun _ => trivial⟩
      exact absurd (Nat.lt_of_lt_of_le h0 hn) (Nat.lt_irrefl _)
  | cons l ls ih =>
      constructor
      · rintro ⟨hl, hls⟩ n h0 hn
        cases n with
        | zero => exact absurd h0 (Nat.lt_irrefl _)
        | succ n =>
            show T.Seamless (T.state q (l ++ (ls.take n).flatten))
            rw [state_append]
            cases n with
            | zero => exact hl
            | succ n => exact ih.mp hls (n + 1) (Nat.succ_pos n) (Nat.le_of_succ_le_succ hn)
      · intro h
        refine ⟨?_, ih.mpr fun n h0 hn => ?_⟩
        · have hone := h 1 Nat.one_pos (Nat.succ_le_succ (Nat.zero_le _))
          simpa using hone
        · have hsucc := h (n + 1) (Nat.succ_pos n) (Nat.succ_le_succ hn)
          rw [List.take_succ_cons, List.flatten_cons, state_append] at hsucc
          exact hsucc

end Transducer

end Piecewise
