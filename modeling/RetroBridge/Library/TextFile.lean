/-
  File:      RetroBridge/Library/TextFile.lean
  Subject:   FILES READ AS TEXT: bytes decoded as UTF-8 with replacement, line ends normalised as
             Python's text mode does, and the lines of the result.

  * `newlines`, `translate` -- CR and CR LF become LF;
  * `text` -- what text mode makes of the bytes;
  * `translate_append` -- a cut that splits no CR LF pair changes nothing;
  * `text_lf` -- **an LF byte is such a cut, whatever stands before it**;
  * `replaceAll` -- `str.replace`; `replaceAll_newlines`: its two calls are the same translation;
  * `iterate`, `dropBlankEnd` -- the lines of a text; `iterate_rstrip`: they are the pieces between
    the LFs, without an empty last one.
-/
import RetroBridge.Library.Utf8
import Mathlib.Data.List.Basic
import Mathlib.Algebra.Ring.Nat

namespace TextFiles

open Piecewise

/-! ## 1. Line ends -/

/-- **Universal newlines**: a CR is a line end, and an LF right after it belongs to it. The state
    says that the last character was a CR. -/
def newlines : Transducer Bool Char Char where
  next _ c := c == '\r'
  emit q c := if c = '\r' then ['\n'] else if c = '\n' ∧ q = true then [] else [c]
  cut _ := false
  flush _ := []

/-- A text with its line ends normalised. -/
def translate (t : List Char) : List Char := newlines.output false t

/-- **What text mode reads**: `open(path, "r", encoding="utf-8", errors="replace")`. -/
def text (bytes : List UInt8) : List Char := translate (Utf8.decode bytes)

/-- The last character decides the state. -/
theorem newlines_state (q : Bool) (t : List Char) :
    newlines.state q t = (t.getLast?.map (· == '\r')).getD q := by
  induction t generalizing q with
  | nil => rfl
  | cons c t ih =>
      rw [Transducer.state_cons, ih, List.getLast?_cons]
      cases t.getLast? <;> rfl

/-- After a CR an LF is dropped, and nothing else changes. -/
theorem output_after_cr {t : List Char} (h : t.head? ≠ some '\n') :
    newlines.output true t = translate t := by
  cases t with
  | nil => rfl
  | cons c t =>
      have hc : c ≠ '\n' := fun e => h (congrArg some e)
      have hemit : newlines.emit true c = newlines.emit false c := by
        simp only [newlines, hc, false_and, if_false]
      rw [translate, Transducer.output_cons, Transducer.output_cons, hemit]
      rfl

/-- The cut stands between a CR and its LF. -/
def SplitsPair (t u : List Char) : Prop := t.getLast? = some '\r' ∧ u.head? = some '\n'

theorem translate_append {t u : List Char} (h : ¬SplitsPair t u) :
    translate (t ++ u) = translate t ++ translate u := by
  rw [translate, Transducer.output_append, newlines_state]
  cases hlast : t.getLast? with
  | none => rfl
  | some c =>
      by_cases hc : c = '\r'
      · subst hc
        have hu : u.head? ≠ some '\n' := fun hu => h ⟨hlast, hu⟩
        show newlines.output false t ++ newlines.output true u = _
        rw [output_after_cr hu]
        rfl
      · have hq : (c == '\r') = false := beq_eq_false_iff_ne.mpr hc
        show newlines.output false t ++ newlines.output (c == '\r') u = _
        rw [hq]
        rfl

/-- A text is never longer than its bytes. -/
theorem length_output_le (q : Bool) (t : List Char) : (newlines.output q t).length ≤ t.length := by
  induction t generalizing q with
  | nil => exact Nat.le_refl _
  | cons c t ih =>
      have hone : (newlines.emit q c).length ≤ 1 := by
        simp only [newlines]
        split_ifs
        · exact Nat.le_refl 1
        · exact Nat.zero_le 1
        · exact Nat.le_refl 1
      have hrest := ih (newlines.next q c)
      rw [Transducer.output_cons, List.length_append, List.length_cons]
      omega

/-! ## 2. An LF byte -/

/-- **An LF byte ends whatever stands before it.** -/
theorem decode_lf (x v : List UInt8) :
    Utf8.decode (x ++ 0x0A :: v) = Utf8.decode x ++ '\n' :: Utf8.decode v := by
  have hclean : ¬Utf8.Splits x (0x0A :: v) := by
    rintro ⟨b, hb, hgoes⟩
    cases hb
    cases hplace : Utf8.decoder.state .start x with
    | start =>
        rw [hplace] at hgoes
        cases hgoes
    | inside bits more range =>
        rw [hplace] at hgoes
        have hlow := (of_decide_eq_true hgoes).1
        have hrange := range.bounds.1
        have hten : (0x0A : UInt8).toNat = 10 := rfl
        omega
  rw [← Utf8.decode_append_iff.mpr hclean]
  rfl

/-- **And its line end ends whatever stands before it**, a CR or not. -/
theorem translate_lf (x : List Char) :
    ∃ x', ∀ y, translate (x ++ '\n' :: y) = x' ++ '\n' :: translate y := by
  rcases List.eq_nil_or_concat x with rfl | ⟨init, last, rfl⟩
  · exact ⟨[], fun _ => rfl⟩
  · by_cases hcr : last = '\r'
    · subst hcr
      refine ⟨newlines.output false init, fun y => ?_⟩
      rw [translate, List.concat_eq_append, List.append_assoc, Transducer.output_append]
      rfl
    · refine ⟨translate (init ++ [last]), fun y => ?_⟩
      have hclean : ¬SplitsPair (init ++ [last]) ('\n' :: y) := by
        rintro ⟨hlast, -⟩
        rw [List.getLast?_append] at hlast
        exact hcr (Option.some.inj hlast)
      rw [List.concat_eq_append, translate_append hclean]
      rfl

theorem text_lf (x : List UInt8) : ∃ x', ∀ v, text (x ++ 0x0A :: v) = x' ++ '\n' :: text v := by
  obtain ⟨x', h⟩ := translate_lf (Utf8.decode x)
  refine ⟨x', fun v => ?_⟩
  rw [text, decode_lf, h]
  rfl

/-- Every LF byte is a line end of the text. -/
theorem count_lf_le (v : List UInt8) : v.count 0x0A ≤ (text v).count '\n' := by
  induction hn : v.count 0x0A generalizing v with
  | zero => exact Nat.zero_le _
  | succ n ih =>
      have hmem : (0x0A : UInt8) ∈ v := List.count_pos_iff.mp (by omega)
      obtain ⟨x, w, rfl, hx⟩ := List.eq_append_cons_of_mem hmem
      rw [List.count_append, List.count_eq_zero.mpr hx, List.count_cons_self] at hn
      obtain ⟨x', h⟩ := text_lf x
      have hw := ih w (by omega)
      rw [h, List.count_append, List.count_cons_self]
      omega

theorem text_ne_nil {v : List UInt8} (h : v ≠ []) : text v ≠ [] := by
  cases hd : Utf8.decode v with
  | nil => exact absurd hd (Utf8.decode_ne_nil h)
  | cons c t =>
      rw [text, hd, translate, Transducer.output_cons]
      -- the first character has no CR before it
      have hemit : newlines.emit false c ≠ [] := by
        simp only [newlines, Bool.false_eq_true, and_false, if_false]
        split_ifs <;> exact List.cons_ne_nil _ _
      exact fun hnil => hemit (List.append_eq_nil_iff.mp hnil).1

theorem length_text_le (v : List UInt8) : (text v).length ≤ v.length :=
  Nat.le_trans (length_output_le false (Utf8.decode v)) (Utf8.length_decode_le v)

/-! ## 3. str.replace -/

/-- The text after a match at its head is skipped: `skip` characters of it are left. -/
def replaceFrom (old new : List Char) : Nat → List Char → List Char
  | _, [] => []
  | skip + 1, _ :: cs => replaceFrom old new skip cs
  | 0, c :: cs =>
    if old.isPrefixOf (c :: cs) then new ++ replaceFrom old new (old.length - 1) cs
    else c :: replaceFrom old new 0 cs

/-- **`text.replace(old, new)`** for an `old` that is not empty. -/
def replaceAll (old new t : List Char) : List Char := replaceFrom old new 0 t

/-- The two calls of a text with CR LF pairs and CRs, as one translation: after a CR LF pair has
    been replaced its LF is skipped. -/
theorem replaceFrom_newlines (t : List Char) :
    replaceAll ['\r'] ['\n'] (replaceFrom ['\r', '\n'] ['\n'] 0 t) = newlines.output false t := by
  induction hn : t.length using Nat.strongRecOn generalizing t with
  | _ n ih =>
      cases t with
      | nil => rfl
      | cons c t =>
          by_cases hc : c = '\r'
          · subst hc
            cases t with
            | nil => rfl
            | cons d t =>
                have hlt : t.length < n := by
                  rw [← hn, List.length_cons, List.length_cons]
                  omega
                by_cases hd : d = '\n'
                · subst hd
                  exact congrArg (List.cons '\n') (ih t.length hlt t rfl)
                · have hpair : ['\r', '\n'].isPrefixOf ('\r' :: d :: t) = false := by
                    simp [List.isPrefixOf, Ne.symm hd]
                  have hrest :=
                    ih (d :: t).length (by rw [← hn]; exact Nat.lt_succ_self _) (d :: t) rfl
                  have hcr : newlines.output true (d :: t) = newlines.output false (d :: t) :=
                    output_after_cr fun e => hd (Option.some.inj e)
                  rw [replaceFrom, hpair, if_neg Bool.false_ne_true, Transducer.output_cons]
                  show '\n' ::
                    replaceAll ['\r'] ['\n'] (replaceFrom ['\r', '\n'] ['\n'] 0 (d :: t)) =
                    '\n' :: newlines.output true (d :: t)
                  rw [hrest, hcr]
          · have hpair : ['\r', '\n'].isPrefixOf (c :: t) = false := by
              simp [List.isPrefixOf, Ne.symm hc]
            have hone : ∀ u, ['\r'].isPrefixOf (c :: u) = false := by
              simp [List.isPrefixOf, Ne.symm hc]
            have hrest := ih t.length (by rw [← hn]; exact Nat.lt_succ_self _) t rfl
            have hemit : newlines.emit false c = [c] := by simp [newlines, hc]
            have hnext : newlines.next false c = false := beq_eq_false_iff_ne.mpr hc
            rw [replaceFrom, hpair, if_neg Bool.false_ne_true, Transducer.output_cons, hemit, hnext,
              replaceAll, replaceFrom, hone, if_neg Bool.false_ne_true]
            exact congrArg (List.cons c) hrest

/-- **`text.replace("\r\n", "\n").replace("\r", "\n")`** normalises the line ends. -/
theorem replaceAll_newlines (t : List Char) :
    replaceAll ['\r'] ['\n'] (replaceAll ['\r', '\n'] ['\n'] t) = translate t :=
  replaceFrom_newlines t

/-! ## 4. Lines -/

/-- The lines that iteration over a file yields, each with its line end. -/
def iterate : List Char → List (List Char)
  | [] => []
  | c :: cs =>
    if c = '\n' then [c] :: iterate cs
    else
      match iterate cs with
      | [] => [[c]]
      | l :: ls => (c :: l) :: ls

/-- `line.rstrip("\n")`. -/
def rstrip (l : List Char) : List Char := (l.reverse.dropWhile (· == '\n')).reverse

/-- The pieces without an empty last one. -/
def dropBlankEnd (ls : List (List Char)) : List (List Char) :=
  if ls.getLast? = some [] then ls.dropLast else ls

theorem rstrip_cons {c : Char} (h : c ≠ '\n') (l : List Char) :
    rstrip (c :: l) = c :: rstrip l := by
  have hone : [c].dropWhile (· == '\n') = [c] :=
    List.dropWhile_cons_of_neg (by simpa using h)
  rw [rstrip, List.reverse_cons, List.dropWhile_append, hone]
  cases hd : (l.reverse.dropWhile (· == '\n')) with
  | nil =>
      rw [rstrip, hd]
      rfl
  | cons d ds =>
      rw [rstrip, hd, List.isEmpty_cons, if_neg Bool.false_ne_true, List.reverse_append]
      rfl

/-- A piece between line ends has none. -/
theorem rstrip_of_not_mem {l : List Char} (h : '\n' ∉ l) : rstrip l = l := by
  induction l with
  | nil => rfl
  | cons c l ih =>
      rw [rstrip_cons (fun e => h (e ▸ List.mem_cons_self)),
        ih fun hm => h (List.mem_cons_of_mem c hm)]

theorem not_mem_splitOn {t : List Char} : ∀ l ∈ t.splitOn '\n', '\n' ∉ l := by
  induction t with
  | nil =>
      intro l hl
      rw [List.mem_singleton.mp hl]
      exact List.not_mem_nil
  | cons c t ih =>
      intro l hl
      rw [List.splitOn_cons_eq_if_modifyHead] at hl
      by_cases hc : c = '\n'
      · subst hc
        rw [beq_self_eq_true, if_pos rfl] at hl
        rcases List.mem_cons.mp hl with rfl | hl
        · exact List.not_mem_nil
        · exact ih l hl
      · rw [beq_eq_false_iff_ne.mpr hc, if_neg Bool.false_ne_true] at hl
        cases hs : t.splitOn '\n' with
        | nil => exact absurd hs (List.splitOn_ne_nil '\n' t)
        | cons k ks =>
            rw [hs] at hl ih
            rcases List.mem_cons.mp hl with rfl | hl
            · intro hmem
              rcases List.mem_cons.mp hmem with heq | hmem
              · exact hc heq.symm
              · exact ih k List.mem_cons_self hmem
            · exact ih l (List.mem_cons_of_mem k hl)

theorem dropBlankEnd_append (ls : List (List Char)) {ks : List (List Char)} (h : ks ≠ []) :
    dropBlankEnd (ls ++ ks) = ls ++ dropBlankEnd ks := by
  have hlast : (ls ++ ks).getLast? = ks.getLast? := by
    rw [List.getLast?_append]
    cases hk : ks.getLast? with
    | none => exact absurd (List.getLast?_eq_none_iff.mp hk) h
    | some k => rfl
  unfold dropBlankEnd
  rw [hlast]
  split_ifs
  · rw [List.dropLast_append_of_ne_nil h]
  · rfl

/-- The first character of a line that is not its end. -/
theorem dropBlankEnd_modifyHead {c : Char} {k : List Char} {ks : List (List Char)}
    (h : k ≠ [] ∨ ks ≠ []) : dropBlankEnd ((c :: k) :: ks) =
      match dropBlankEnd (k :: ks) with
      | [] => [[c]]
      | l :: ls => (c :: l) :: ls := by
  cases ks with
  | nil =>
      have hk : k ≠ [] := h.resolve_right fun hne => hne rfl
      simp [dropBlankEnd, hk]
  | cons k' ks =>
      have hcons : ∀ l, dropBlankEnd (l :: k' :: ks) = l :: dropBlankEnd (k' :: ks) := fun l =>
        dropBlankEnd_append [l] (List.cons_ne_nil k' ks)
      rw [hcons, hcons]

/-- **The lines of a text, without their ends, are the pieces between its line ends**, without an
    empty last one. -/
theorem iterate_rstrip (t : List Char) :
    (iterate t).map rstrip = dropBlankEnd (t.splitOn '\n') := by
  induction t with
  | nil => rfl
  | cons c t ih =>
      rw [List.splitOn_cons_eq_if_modifyHead]
      by_cases hc : c = '\n'
      · subst hc
        rw [iterate, if_pos rfl, beq_self_eq_true, if_pos rfl, List.map_cons, ih]
        exact (dropBlankEnd_append [[]] (List.splitOn_ne_nil '\n' t)).symm
      · rw [iterate, if_neg hc, beq_eq_false_iff_ne.mpr hc, if_neg Bool.false_ne_true]
        cases hs : t.splitOn '\n' with
        | nil => exact absurd hs (List.splitOn_ne_nil '\n' t)
        | cons k ks =>
            rw [hs] at ih
            rw [List.modifyHead_cons]
            cases hi : iterate t with
            | nil =>
                -- the text ends here
                have ht : t = [] := by
                  cases t with
                  | nil => rfl
                  | cons d t =>
                      rw [iterate] at hi
                      split at hi
                      · cases hi
                      · split at hi <;> cases hi
                subst ht
                cases hs
                rw [List.map_cons, rstrip_cons hc]
                rfl
            | cons l ls =>
                rw [hi] at ih
                have hne : k ≠ [] ∨ ks ≠ [] := by
                  by_contra hno
                  obtain ⟨hk, hks⟩ := not_or.mp hno
                  rw [not_not.mp hk, not_not.mp hks] at ih
                  cases ih
                rw [dropBlankEnd_modifyHead hne, ← ih, List.map_cons, List.map_cons, rstrip_cons hc]

/-- An empty last piece is what a line end leaves. -/
theorem getLast?_splitOn {t : List Char} (h : t ≠ []) :
    (t.splitOn '\n').getLast? = some [] ↔ t.getLast? = some '\n' := by
  induction t with
  | nil => exact absurd rfl h
  | cons c t ih =>
      rw [List.splitOn_cons_eq_if_modifyHead]
      by_cases ht : t = []
      · subst ht
        by_cases hc : c = '\n'
        · subst hc
          exact iff_of_true rfl rfl
        · rw [beq_eq_false_iff_ne.mpr hc, if_neg Bool.false_ne_true]
          exact iff_of_false (by simp) (by simpa using hc)
      · have hlast : (c :: t).getLast? = t.getLast? := by
          rw [List.getLast?_cons]
          cases hl : t.getLast? with
          | none => exact absurd (List.getLast?_eq_none_iff.mp hl) ht
          | some d => rfl
        rw [hlast, ← ih ht]
        cases hs : t.splitOn '\n' with
        | nil => exact absurd hs (List.splitOn_ne_nil '\n' t)
        | cons k ks =>
            by_cases hc : c = '\n'
            · subst hc
              rw [beq_self_eq_true, if_pos rfl, List.getLast?_cons_cons]
            · rw [beq_eq_false_iff_ne.mpr hc, if_neg Bool.false_ne_true, List.modifyHead_cons]
              cases ks with
              | cons k' ks => rw [List.getLast?_cons_cons, List.getLast?_cons_cons]
              | nil =>
                  -- one piece is the whole text
                  have hk : k ≠ [] := by
                    rintro rfl
                    have hjoin : ['\n'].intercalate (t.splitOn '\n') = t :=
                      List.intercalate_splitOn '\n'
                    rw [hs] at hjoin
                    exact ht hjoin.symm
                  exact iff_of_false (by simp) (by simpa using hk)

end TextFiles
