/-
  File:      RetroBridge/Library/Numeral.lean
  Subject:   NUMBERS AS TEXT: Python's `str(n)` and `int(text)` on integers, with ASCII digits.

  * `isSpace`, `strip` -- white space, and a text without the white space at its ends;
    `exists_pad`, what a strip takes away;
  * `isNumeral` -- digits, with single underscores between them;
  * `parseInt` -- `int(text)`, none where it raises `ValueError`;
  * `parseInt_toString` -- **the text of an integer reads back as the integer.**
-/
import Mathlib.Data.List.TakeWhile
import Mathlib.Tactic.Common

namespace Numerals

/-! ## 1. White space -/

/-- `str.isspace` of one character. -/
def isSpace (c : Char) : Bool :=
  let n := c.toNat
  (decide (9 ≤ n) && decide (n ≤ 13)) || (decide (28 ≤ n) && decide (n ≤ 32)) || n == 0x85 ||
    n == 0xa0 || n == 0x1680 || (decide (0x2000 ≤ n) && decide (n ≤ 0x200a)) || n == 0x2028 ||
    n == 0x2029 || n == 0x202f || n == 0x205f || n == 0x3000

/-- `text.strip()`. -/
def strip (cs : List Char) : List Char :=
  ((cs.dropWhile isSpace).reverse.dropWhile isSpace).reverse

theorem strip_of_no_space {cs : List Char} (h : ∀ c ∈ cs, isSpace c = false) : strip cs = cs := by
  have hdrop : ∀ l : List Char, (∀ c ∈ l, isSpace c = false) → l.dropWhile isSpace = l := by
    intro l hl
    cases l with
    | nil => rfl
    | cons c l => rw [List.dropWhile_cons_of_neg (by simp [hl c (List.mem_cons_self ..)])]
  rw [strip, hdrop cs h, hdrop cs.reverse fun c hc => h c (List.mem_reverse.mp hc),
    List.reverse_reverse]

/-- A text is its strip with space around it. -/
theorem exists_pad (cs : List Char) : ∃ u w, cs = u ++ strip cs ++ w ∧
    (∀ c ∈ u, isSpace c = true) ∧ ∀ c ∈ w, isSpace c = true := by
  refine ⟨cs.takeWhile isSpace, ((cs.dropWhile isSpace).reverse.takeWhile isSpace).reverse, ?_,
    fun c hc => List.mem_takeWhile_imp hc,
    fun c hc => List.mem_takeWhile_imp (List.mem_reverse.mp hc)⟩
  have hback : strip cs ++ ((cs.dropWhile isSpace).reverse.takeWhile isSpace).reverse =
      cs.dropWhile isSpace := by
    rw [strip, ← List.reverse_append, List.takeWhile_append_dropWhile, List.reverse_reverse]
  rw [List.append_assoc, hback, List.takeWhile_append_dropWhile]

/-! ## 2. Numerals -/

/-- Digits, with single underscores between them. -/
def isNumeral : List Char → Bool
  | [] => false
  | [c] => c.isDigit
  | c :: c' :: cs =>
    c.isDigit && if c' = '_' then isNumeral cs else isNumeral (c' :: cs)

/-- The number that a numeral denotes. -/
def parseNat (cs : List Char) : Option Nat :=
  if isNumeral cs then some (Nat.ofDigitChars 10 (cs.filter fun c => c ≠ '_') 0) else none

/-- A numeral with a sign or without. -/
def parseSigned : List Char → Option Int
  | [] => none
  | c :: cs =>
    if c = '-' then (parseNat cs).map fun n => -(n : Int)
    else if c = '+' then (parseNat cs).map Int.ofNat
    else (parseNat (c :: cs)).map Int.ofNat

/-- `int(text)`. -/
def parseInt (text : String) : Option Int := parseSigned (strip text.toList)

/-! ## 3. Digits -/

theorem digit_range {c : Char} (h : c.isDigit = true) : 48 ≤ c.toNat ∧ c.toNat ≤ 57 := by
  simpa [Char.isDigit, UInt32.le_iff_toNat_le] using h

theorem digit_ne {c d : Char} (h : c.isDigit = true) (hd : d.isDigit = false) : c ≠ d := by
  intro e
  rw [e, hd] at h
  cases h

theorem isSpace_digit {c : Char} (h : c.isDigit = true) : isSpace c = false := by
  obtain ⟨hlo, hhi⟩ := digit_range h
  unfold isSpace
  simp only [Bool.or_eq_false_iff, Bool.and_eq_false_iff, decide_eq_false_iff_not,
    beq_eq_false_iff_ne]
  omega

theorem isNumeral_digits {cs : List Char} (hne : cs ≠ []) (h : ∀ c ∈ cs, c.isDigit = true) :
    isNumeral cs = true := by
  induction cs with
  | nil => exact absurd rfl hne
  | cons c cs ih =>
      have hc := h c (List.mem_cons_self ..)
      have hcs : ∀ d ∈ cs, d.isDigit = true := fun d hd => h d (List.mem_cons_of_mem _ hd)
      cases cs with
      | nil => exact hc
      | cons d ds =>
          rw [isNumeral, hc, if_neg (digit_ne (hcs d (List.mem_cons_self ..)) (by decide)),
            ih (List.cons_ne_nil d ds) hcs]
          rfl

/-- The decimal digits of a number denote it. -/
theorem parseNat_digits (n : Nat) : parseNat (Nat.toDigits 10 n) = some n := by
  have hdigits : ∀ c ∈ Nat.toDigits 10 n, c.isDigit = true := fun c hc =>
    Nat.isDigit_of_mem_toDigits (by decide) (by decide) hc
  have hfilter : (Nat.toDigits 10 n).filter (fun c => c ≠ '_') = Nat.toDigits 10 n := by
    refine List.filter_eq_self.mpr fun c hc => decide_eq_true (digit_ne (hdigits c hc) (by decide))
  rw [parseNat, isNumeral_digits Nat.toDigits_ne_nil hdigits, if_pos rfl, hfilter,
    Nat.ofDigitChars_ten_toDigits]

/-! ## 4. Integers -/

theorem parseInt_nat (n : Nat) : parseInt (toString n) = some (n : Int) := by
  have hlist : (toString n).toList = Nat.toDigits 10 n := Nat.toList_repr
  have hdigits : ∀ c ∈ Nat.toDigits 10 n, c.isDigit = true := fun c hc =>
    Nat.isDigit_of_mem_toDigits (by decide) (by decide) hc
  have hparse := parseNat_digits n
  rw [parseInt, hlist, strip_of_no_space fun c hc => isSpace_digit (hdigits c hc)]
  cases e : Nat.toDigits 10 n with
  | nil => exact absurd e Nat.toDigits_ne_nil
  | cons c cs =>
      rw [e] at hdigits hparse
      have hc := hdigits c (List.mem_cons_self ..)
      rw [parseSigned, if_neg (digit_ne hc (by decide)), if_neg (digit_ne hc (by decide)), hparse]
      rfl

theorem parseInt_neg (n : Nat) : parseInt ("-" ++ toString n) = some (-(n : Int)) := by
  have hlist : ("-" ++ toString n).toList = '-' :: Nat.toDigits 10 n := by
    rw [String.toList_append]
    exact congrArg (List.cons '-') Nat.toList_repr
  have hspace : ∀ c ∈ '-' :: Nat.toDigits 10 n, isSpace c = false := by
    intro c hc
    rcases List.mem_cons.mp hc with rfl | hc
    · decide
    · exact isSpace_digit (Nat.isDigit_of_mem_toDigits (by decide) (by decide) hc)
  rw [parseInt, hlist, strip_of_no_space hspace, parseSigned, if_pos rfl, parseNat_digits]
  rfl

/-- **The text of an integer reads back as the integer.** -/
theorem parseInt_toString (n : Int) : parseInt (toString n) = some n := by
  cases n with
  | ofNat n => exact parseInt_nat n
  | negSucc n => exact parseInt_neg (n + 1)

end Numerals
