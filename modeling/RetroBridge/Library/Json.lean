/-
  File:      RetroBridge/Library/Json.lean
  Subject:   READING JSON, as Python's `json.loads` reads a `str`: what a text is read as, and which
             of its exceptions it raises.

  The reader takes one character after the other and keeps the open arrays and objects on a stack.

  * `Value` -- what is read. A string is a list of code points, for an escape may leave a surrogate
    alone; a float is the decimal it was written as;
  * `Limits` -- the interpreter's limits on the digits of an integer and on the nesting;
  * `LoadError` -- a `JSONDecodeError`, or one of the two exceptions that are none;
  * `step`, `finish`, `loads` -- the reader;
  * `Value.truthy` -- Python's truth value; a decimal is false where it is rounded to zero;
  * `loads_pad` -- **space around a text** does not change its value, unless a character of it is a
    space for `str.strip` and not for JSON: then the text is not JSON.
-/
import RetroBridge.Library.Numeral
import Mathlib.Algebra.Ring.Nat

namespace Json

open Numerals

/-! ## 1. Values -/

/-- Code points. -/
abbrev Text := List Nat

/-- **A value.** -/
inductive Value where
  | null
  | bool (b : Bool)
  | int (n : Int)
  | decimal (negative : Bool) (mantissa : Nat) (exponent : Int)
  | nan
  | infinity (negative : Bool)
  | str (s : Text)
  | arr (items : List Value)
  | obj (members : List (Text × Value))

/-- The nearest float of `mantissa * 10 ^ exponent` is zero: it is at most half the least one. -/
def roundsToZero (mantissa : Nat) : Int → Bool
  | .ofNat _ => mantissa == 0
  | .negSucc k => decide (mantissa * 2 ^ 1075 ≤ 10 ^ (k + 1))

/-- Python's truth value. -/
def Value.truthy : Value → Bool
  | .null => false
  | .bool b => b
  | .int n => n != 0
  | .decimal _ mantissa exponent => !roundsToZero mantissa exponent
  | .nan => true
  | .infinity _ => true
  | .str s => !s.isEmpty
  | .arr items => !items.isEmpty
  | .obj members => !members.isEmpty

/-- The limits of the interpreter: the digits of an integer that is converted, and how deep the
    reader may nest from where it is called. -/
structure Limits where
  digits : Nat
  depth : Nat

/-- What `json.loads` raises; only the first is a `JSONDecodeError`. -/
inductive LoadError where
  | decodeError
  | valueError
  | recursionError
  deriving DecidableEq, Repr

/-! ## 2. Numbers -/

/-- A number part way: its digits so far, how many are before the point and after it, and its
    exponent. -/
structure Num where
  negative : Bool := false
  mantissa : Nat := 0
  digits : Nat := 0
  scale : Nat := 0
  expNegative : Bool := false
  exponent : Nat := 0

/-- The part of a number that has been read last. -/
inductive NumPart where
  | minus
  | zero
  | whole
  | point
  | frac
  | e
  | sign
  | expo
  deriving DecidableEq, Repr

def digitVal (c : Char) : Nat := c.toNat - 48

namespace Num

/-- A digit before the point, after it, and of the exponent. -/
def pushWhole (n : Num) (c : Char) : Num :=
  { n with mantissa := n.mantissa * 10 + digitVal c, digits := n.digits + 1 }

def pushFrac (n : Num) (c : Char) : Num :=
  { n with mantissa := n.mantissa * 10 + digitVal c, scale := n.scale + 1 }

def pushExp (n : Num) (c : Char) : Num := { n with exponent := n.exponent * 10 + digitVal c }

/-- The integer part, under the limit on its digits. -/
def toInt (lim : Limits) (n : Num) : Except LoadError Value :=
  if lim.digits < n.digits then .error .valueError
  else .ok (.int (if n.negative then -(n.mantissa : Int) else n.mantissa))

def toDecimal (n : Num) : Value :=
  .decimal n.negative n.mantissa
    ((if n.expNegative then -(n.exponent : Int) else n.exponent) - n.scale)

/-- **The number goes on.** -/
def advance (n : Num) (part : NumPart) (c : Char) : Option (Num × NumPart) :=
  match part with
  | .minus => if c = '0' then some (n.pushWhole c, .zero)
      else if c.isDigit then some (n.pushWhole c, .whole) else none
  | .zero => if c = '.' then some (n, .point)
      else if c = 'e' ∨ c = 'E' then some (n, .e) else none
  | .whole => if c.isDigit then some (n.pushWhole c, .whole)
      else if c = '.' then some (n, .point)
      else if c = 'e' ∨ c = 'E' then some (n, .e) else none
  | .point => if c.isDigit then some (n.pushFrac c, .frac) else none
  | .frac => if c.isDigit then some (n.pushFrac c, .frac)
      else if c = 'e' ∨ c = 'E' then some (n, .e) else none
  | .e => if c.isDigit then some (n.pushExp c, .expo)
      else if c = '+' then some (n, .sign)
      else if c = '-' then some ({ n with expNegative := true }, .sign) else none
  | .sign | .expo => if c.isDigit then some (n.pushExp c, .expo) else none

/-- **The number is over.** A point or an exponent without a digit is not of the number: the integer
    before it is converted first, and then there is a character that nothing admits. -/
def finish (lim : Limits) (n : Num) : NumPart → Except LoadError Value
  | .minus => .error .decodeError
  | .zero | .whole => n.toInt lim
  | .frac | .expo => .ok n.toDecimal
  | .point => do
    let _ ← n.toInt lim
    .error .decodeError
  | .e | .sign =>
    if n.scale = 0 then do
      let _ ← n.toInt lim
      .error .decodeError
    else .error .decodeError

end Num

/-! ## 3. Strings -/

def isHighSurrogate (u : Nat) : Bool := decide (0xD800 ≤ u ∧ u ≤ 0xDBFF)

def isLowSurrogate (u : Nat) : Bool := decide (0xDC00 ≤ u ∧ u ≤ 0xDFFF)

/-- Two escapes that are a surrogate pair are one code point. -/
def joinSurrogates : Text → Text
  | u :: v :: rest =>
    if isHighSurrogate u && isLowSurrogate v then
      (0x10000 + (u - 0xD800) * 0x400 + (v - 0xDC00)) :: joinSurrogates rest
    else u :: joinSurrogates (v :: rest)
  | [u] => [u]
  | [] => []

/-- The character an escape of two characters stands for. -/
def escaped : Char → Option Nat
  | '"' => some 0x22
  | '\\' => some 0x5C
  | '/' => some 0x2F
  | 'b' => some 0x08
  | 'f' => some 0x0C
  | 'n' => some 0x0A
  | 'r' => some 0x0D
  | 't' => some 0x09
  | _ => none

def hexVal (c : Char) : Option Nat :=
  if c.isDigit then some (c.toNat - 48)
  else if 'a' ≤ c ∧ c ≤ 'f' then some (c.toNat - 87)
  else if 'A' ≤ c ∧ c ≤ 'F' then some (c.toNat - 55)
  else none

/-! ## 4. The reader -/

/-- An open array with its items, or an open object with its members and the key that was read. -/
inductive Frame where
  | array (items : List Value)
  | object (members : List (Text × Value)) (key : Text)

/-- What the reader is in. `first` is set right after the opening bracket. -/
inductive Mode where
  | value (first : Bool)
  | key (first : Bool)
  | colon
  | after (v : Value)
  | string (isKey : Bool) (units : Text)
  | escape (isKey : Bool) (units : Text)
  | hex (isKey : Bool) (units : Text) (more : Nat) (acc : Nat)
  | number (n : Num) (part : NumPart)
  | literal (rest : List Char) (v : Value)

structure State where
  stack : List Frame
  mode : Mode

/-- JSON's white space. -/
def isWs (c : Char) : Bool := c = ' ' || c = '\t' || c = '\n' || c = '\r'

/-- A bracket opens, unless the interpreter's stack is used up. -/
def openFrame (lim : Limits) (stack : List Frame) (f : Frame) (mode : Mode) :
    Except LoadError State :=
  if lim.depth ≤ stack.length then .error .recursionError else .ok ⟨f :: stack, mode⟩

/-- A character where a value is to begin. -/
def stepValue (lim : Limits) (stack : List Frame) (first : Bool) (c : Char) :
    Except LoadError State :=
  if isWs c then .ok ⟨stack, .value first⟩
  else if c = '"' then .ok ⟨stack, .string false []⟩
  else if c = '{' then openFrame lim stack (.object [] []) (.key true)
  else if c = '[' then openFrame lim stack (.array []) (.value true)
  else if c = ']' ∧ first = true then .ok ⟨stack.tail, .after (.arr [])⟩
  else if c = 'n' then .ok ⟨stack, .literal ['u', 'l', 'l'] .null⟩
  else if c = 't' then .ok ⟨stack, .literal ['r', 'u', 'e'] (.bool true)⟩
  else if c = 'f' then .ok ⟨stack, .literal ['a', 'l', 's', 'e'] (.bool false)⟩
  else if c = 'N' then .ok ⟨stack, .literal ['a', 'N'] .nan⟩
  else if c = 'I' then
    .ok ⟨stack, .literal ['n', 'f', 'i', 'n', 'i', 't', 'y'] (.infinity false)⟩
  else if c = '-' then .ok ⟨stack, .number { negative := true } .minus⟩
  else if c = '0' then .ok ⟨stack, .number (Num.pushWhole {} c) .zero⟩
  else if c.isDigit then .ok ⟨stack, .number (Num.pushWhole {} c) .whole⟩
  else .error .decodeError

/-- A character after a value. -/
def stepAfter (stack : List Frame) (v : Value) (c : Char) : Except LoadError State :=
  if isWs c then .ok ⟨stack, .after v⟩
  else
    match stack with
    | [] => .error .decodeError
    | .array items :: rest =>
      if c = ',' then .ok ⟨.array (items ++ [v]) :: rest, .value false⟩
      else if c = ']' then .ok ⟨rest, .after (.arr (items ++ [v]))⟩
      else .error .decodeError
    | .object members key :: rest =>
      if c = ',' then .ok ⟨.object (members ++ [(key, v)]) [] :: rest, .key false⟩
      else if c = '}' then .ok ⟨rest, .after (.obj (members ++ [(key, v)]))⟩
      else .error .decodeError

/-- A string is over. -/
def endString (stack : List Frame) (isKey : Bool) (units : Text) : State :=
  match isKey, stack with
  | true, .object members _ :: rest =>
    ⟨.object members (joinSurrogates units) :: rest, .colon⟩
  | _, _ => ⟨stack, .after (.str (joinSurrogates units))⟩

/-- **One character.** -/
def step (lim : Limits) (s : State) (c : Char) : Except LoadError State :=
  match s.mode with
  | .value first => stepValue lim s.stack first c
  | .after v => stepAfter s.stack v c
  | .key first =>
    if isWs c then .ok s
    else if c = '"' then .ok ⟨s.stack, .string true []⟩
    else if c = '}' ∧ first = true then .ok ⟨s.stack.tail, .after (.obj [])⟩
    else .error .decodeError
  | .colon =>
    if isWs c then .ok s
    else if c = ':' then .ok ⟨s.stack, .value false⟩
    else .error .decodeError
  | .string isKey units =>
    if c = '"' then .ok (endString s.stack isKey units)
    else if c = '\\' then .ok ⟨s.stack, .escape isKey units⟩
    else if c.toNat < 0x20 then .error .decodeError
    else .ok ⟨s.stack, .string isKey (units ++ [c.toNat])⟩
  | .escape isKey units =>
    if c = 'u' then .ok ⟨s.stack, .hex isKey units 3 0⟩
    else
      match escaped c with
      | some u => .ok ⟨s.stack, .string isKey (units ++ [u])⟩
      | none => .error .decodeError
  | .hex isKey units more acc =>
    match hexVal c, more with
    | none, _ => .error .decodeError
    | some d, 0 => .ok ⟨s.stack, .string isKey (units ++ [acc * 16 + d])⟩
    | some d, more + 1 => .ok ⟨s.stack, .hex isKey units more (acc * 16 + d)⟩
  | .literal rest v =>
    match rest with
    | [] => stepAfter s.stack v c
    | d :: rest =>
      if c ≠ d then .error .decodeError
      else if rest = [] then .ok ⟨s.stack, .after v⟩
      else .ok ⟨s.stack, .literal rest v⟩
  | .number n part =>
    -- only `-Infinity` has a letter after its sign
    if part = .minus ∧ c = 'I' then
      .ok ⟨s.stack, .literal ['n', 'f', 'i', 'n', 'i', 't', 'y'] (.infinity true)⟩
    else
      match n.advance part c with
      | some (n', part') => .ok ⟨s.stack, .number n' part'⟩
      | none => do
        let v ← n.finish lim part
        stepAfter s.stack v c

/-- What a text that ends here is read as. -/
def finish (lim : Limits) (s : State) : Except LoadError Value :=
  match s.mode with
  | .after v => if s.stack.isEmpty then .ok v else .error .decodeError
  | .number n part => do
    let v ← n.finish lim part
    if s.stack.isEmpty then .ok v else .error .decodeError
  | _ => .error .decodeError

/-- U+FEFF. -/
def bom : Char := Char.ofNat 0xFEFF

/-- The reader before the first character. -/
def start : State := ⟨[], .value false⟩

/-- **`json.loads`**. -/
def loads (lim : Limits) (text : List Char) : Except LoadError Value :=
  if text.head? = some bom then .error .decodeError
  else do
    let s ← text.foldlM (step lim) start
    finish lim s

example : loads ⟨4300, 900⟩ "[1, \"\\ud83d\\ude00\", -0.5e1]".toList =
    .ok (.arr [.int 1, .str [0x1F600], .decimal true 5 0]) := by rfl

/-! ## 5. Space around a text -/

section Pad

variable {lim : Limits} {s : State} {v : Value} {c : Char}

/-- A space for Python lies outside the characters JSON gives a meaning to. -/
theorem space_outside (h : isSpace c = true) : c.toNat ≤ 0x20 ∨ 0x7F ≤ c.toNat := by
  simp only [isSpace, Bool.or_eq_true, Bool.and_eq_true, decide_eq_true_eq, beq_iff_eq] at h
  omega

theorem ne_of_space {d : Char} (h : isSpace c = true) (hlow : 0x20 < d.toNat)
    (hhigh : d.toNat < 0x7F) : c ≠ d := by
  rintro rfl
  have := space_outside h
  omega

theorem not_digit_of_space (h : isSpace c = true) : c.isDigit = false := by
  cases hd : c.isDigit with
  | false => rfl
  | true =>
      rw [isSpace_digit hd] at h
      cases h

/-- A space ends a number. -/
theorem advance_space (h : isSpace c = true) (n : Num) (part : NumPart) :
    n.advance part c = none := by
  have hzero : c ≠ '0' := ne_of_space h (by decide) (by decide)
  have hdot : c ≠ '.' := ne_of_space h (by decide) (by decide)
  have he : c ≠ 'e' := ne_of_space h (by decide) (by decide)
  have hE : c ≠ 'E' := ne_of_space h (by decide) (by decide)
  have hplus : c ≠ '+' := ne_of_space h (by decide) (by decide)
  have hminus : c ≠ '-' := ne_of_space h (by decide) (by decide)
  cases part <;>
    simp [Num.advance, hzero, hdot, he, hE, hplus, hminus, not_digit_of_space h]

theorem step_number_space (h : isSpace c = true) (stack : List Frame) (n : Num) (part : NumPart) :
    step lim ⟨stack, .number n part⟩ c = (n.finish lim part).bind fun w => stepAfter stack w c := by
  have hI : c ≠ 'I' := ne_of_space h (by decide) (by decide)
  simp only [step, hI, and_false, if_false, advance_space h]
  rfl

/-- Where the reader accepts, it is after a value, or at the end of a number. -/
theorem finish_ok (h : finish lim s = .ok v) :
    s = ⟨[], .after v⟩ ∨ ∃ n part, s = ⟨[], .number n part⟩ ∧ n.finish lim part = .ok v := by
  obtain ⟨stack, mode⟩ := s
  cases mode with
  | after w =>
      cases stack with
      | nil =>
          cases h
          exact .inl rfl
      | cons f stack => cases h
  | number n part =>
      cases hn : n.finish lim part with
      | error e =>
          simp only [finish, hn] at h
          cases h
      | ok w =>
          simp only [finish, hn] at h
          cases stack with
          | nil =>
              cases h
              exact .inr ⟨n, part, rfl, hn⟩
          | cons f stack => cases h
  | value first => cases h
  | key first => cases h
  | colon => cases h
  | string isKey units => cases h
  | escape isKey units => cases h
  | hex isKey units more acc => cases h
  | literal rest w => cases h

/-- **A space after a text that is read**: JSON's own is passed over, another is an error. -/
theorem step_accepting (h : finish lim s = .ok v) (hc : isSpace c = true) :
    step lim s c = if isWs c then .ok ⟨[], .after v⟩ else .error .decodeError := by
  have hafter : stepAfter [] v c = if isWs c then .ok ⟨[], .after v⟩ else .error .decodeError := by
    unfold stepAfter
    rfl
  rcases finish_ok h with rfl | ⟨n, part, rfl, hn⟩
  · exact hafter
  · rw [step_number_space hc, hn]
    exact hafter

theorem step_start (hc : isSpace c = true) :
    step lim start c = if isWs c then .ok start else .error .decodeError := by
  have hnum : c ≠ '0' := ne_of_space hc (by decide) (by decide)
  have hminus : c ≠ '-' := ne_of_space hc (by decide) (by decide)
  have hquote : c ≠ '"' := ne_of_space hc (by decide) (by decide)
  have hbrace : c ≠ '\x7b' := ne_of_space hc (by decide) (by decide)
  have hbracket : c ≠ '[' := ne_of_space hc (by decide) (by decide)
  have hclose : c ≠ ']' := ne_of_space hc (by decide) (by decide)
  have hn : c ≠ 'n' := ne_of_space hc (by decide) (by decide)
  have ht : c ≠ 't' := ne_of_space hc (by decide) (by decide)
  have hf : c ≠ 'f' := ne_of_space hc (by decide) (by decide)
  have hN : c ≠ 'N' := ne_of_space hc (by decide) (by decide)
  have hI : c ≠ 'I' := ne_of_space hc (by decide) (by decide)
  show stepValue lim [] false c = _
  unfold stepValue
  simp only [hnum, hminus, hquote, hbrace, hbracket, hclose, hn, ht, hf, hN, hI,
    not_digit_of_space hc, false_and, if_false, Bool.false_eq_true]
  rfl

/-- The space before a text. -/
theorem foldlM_start {u : List Char} (hu : ∀ c ∈ u, isSpace c = true) :
    u.foldlM (step lim) start = if u.all isWs then .ok start else .error .decodeError := by
  induction u with
  | nil => rfl
  | cons c u ih =>
      rw [List.foldlM_cons, step_start (hu c List.mem_cons_self), List.all_cons]
      cases hc : isWs c with
      | false => rfl
      | true => exact ih fun d hd => hu d (List.mem_cons_of_mem c hd)

/-- The space after it. -/
theorem foldlM_accepting {w : List Char} (hw : ∀ c ∈ w, isSpace c = true)
    (h : finish lim s = .ok v) :
    (w.foldlM (step lim) s).bind (finish lim) =
      if w.all isWs then .ok v else .error .decodeError := by
  induction w generalizing s with
  | nil => exact h
  | cons c w ih =>
      rw [List.foldlM_cons, step_accepting h (hw c List.mem_cons_self), List.all_cons]
      cases hc : isWs c with
      | false => rfl
      | true => exact @ih ⟨[], .after v⟩ (fun d hd => hw d (List.mem_cons_of_mem c hd)) rfl

/-- **SPACE AROUND A TEXT** leaves its value, or is no JSON. -/
theorem loads_pad {u t w : List Char} (hu : ∀ c ∈ u, isSpace c = true)
    (hw : ∀ c ∈ w, isSpace c = true) (h : loads lim t = .ok v) :
    loads lim (u ++ t ++ w) =
      if (u ++ w).all isWs then .ok v else .error .decodeError := by
  have hbom : t.head? ≠ some bom := fun hb => by
    rw [loads, if_pos hb] at h
    cases h
  rw [loads, if_neg hbom] at h
  have hhead : (u ++ t ++ w).head? ≠ some bom := by
    cases u with
    | cons c u =>
        intro he
        have hc : c = bom := Option.some.inj he
        have hspace := hu c List.mem_cons_self
        rw [hc] at hspace
        exact absurd hspace (by decide)
    | nil =>
        cases t with
        | cons c t => exact hbom
        | nil => cases h
  rw [loads, if_neg hhead, List.append_assoc, List.foldlM_append, foldlM_start hu, List.all_append]
  cases hall : u.all isWs with
  | false => rfl
  | true =>
      rw [Bool.true_and]
      show ((t ++ w).foldlM (step lim) start).bind (finish lim) = _
      rw [List.foldlM_append]
      cases hs : t.foldlM (step lim) start with
      | error e =>
          rw [hs] at h
          cases h
      | ok s =>
          rw [hs] at h
          exact foldlM_accepting hw h

/-- A blank text is no JSON. -/
theorem loads_blank {t : List Char} (h : ∀ c ∈ t, isSpace c = true) :
    loads lim t = .error .decodeError := by
  unfold loads
  split
  · rfl
  · rw [foldlM_start h]
    split <;> rfl

end Pad

end Json
