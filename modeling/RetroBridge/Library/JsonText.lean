/-
  File:      RetroBridge/Library/JsonText.lean
  Subject:   WRITING JSON, as Python's `json.dumps` writes a `dict` without nesting, and reading it
             back.

  * `Scalar` -- what such a `dict` holds; `Scalar.value`, what it is read as;
  * `escapeChar` -- one character of a string: everything outside printable ASCII is escaped, above
    U+FFFF by two surrogates;
  * `dumps` -- the text of a `dict`;
  * `dumps_printable` -- the text is printable ASCII, so that it has no line end;
  * `loads_dumps` -- **the text reads back as the `dict`**, within the interpreter's limits.
-/
import RetroBridge.Library.Json

namespace Json

/-! ## 1. The writer -/

/-- `None`, a `bool`, an `int` or a `str`. -/
inductive Scalar where
  | null
  | bool (b : Bool)
  | int (n : Int)
  | str (s : List Char)
  deriving DecidableEq, Repr

/-- The code points of a text. -/
def codePoints (s : List Char) : Text := s.map Char.toNat

/-- What a scalar is read as. -/
def Scalar.value : Scalar → Value
  | .null => .null
  | .bool b => .bool b
  | .int n => .int n
  | .str s => .str (codePoints s)

/-- `\uXXXX`. -/
def unitText (u : Nat) : List Char :=
  ['\\', 'u', Nat.digitChar (u / 4096), Nat.digitChar (u / 256 % 16), Nat.digitChar (u / 16 % 16),
    Nat.digitChar (u % 16)]

/-- The code units of a character in UTF-16. -/
def codeUnits (c : Char) : List Nat :=
  if c.toNat < 0x10000 then [c.toNat]
  else [0xD800 + (c.toNat - 0x10000) / 0x400, 0xDC00 + (c.toNat - 0x10000) % 0x400]

/-- The letter behind the backslash, for the characters that have one. -/
def shortEscape : Char → Option Char
  | '"' => some '"'
  | '\\' => some '\\'
  | '\n' => some 'n'
  | '\r' => some 'r'
  | '\t' => some 't'
  | '\x0c' => some 'f'
  | '\x08' => some 'b'
  | _ => none

/-- Printable ASCII. -/
def Printable (c : Char) : Prop := 0x20 ≤ c.toNat ∧ c.toNat ≤ 0x7E

instance (c : Char) : Decidable (Printable c) := inferInstanceAs (Decidable (_ ∧ _))

/-- **A character of a string.** -/
def escapeChar (c : Char) : List Char :=
  match shortEscape c with
  | some d => ['\\', d]
  | none => if Printable c then [c] else (codeUnits c).flatMap unitText

/-- A string with its quotes. -/
def stringText (s : List Char) : List Char := '"' :: (s.flatMap escapeChar ++ ['"'])

/-- `int.__repr__`. -/
def intText : Int → List Char
  | .ofNat n => Nat.toDigits 10 n
  | .negSucc n => '-' :: Nat.toDigits 10 (n + 1)

def Scalar.text : Scalar → List Char
  | .null => ['n', 'u', 'l', 'l']
  | .bool true => ['t', 'r', 'u', 'e']
  | .bool false => ['f', 'a', 'l', 's', 'e']
  | .int n => intText n
  | .str s => stringText s

/-- A key with its value. -/
def memberText (m : List Char × Scalar) : List Char := stringText m.1 ++ [':', ' '] ++ m.2.text

/-- The members behind the opening brace, with the closing one. -/
def membersText : List (List Char × Scalar) → List Char
  | [] => ['\x7d']
  | [m] => memberText m ++ ['\x7d']
  | m :: ms => memberText m ++ [',', ' '] ++ membersText ms

/-- **`json.dumps`** of a `dict`. -/
def dumps (members : List (List Char × Scalar)) : List Char := '\x7b' :: membersText members

/-- What a `dict` is read as. -/
def members (ms : List (List Char × Scalar)) : List (Text × Value) :=
  ms.map fun m => (codePoints m.1, m.2.value)

example : dumps [(['a'], .str ['é', '\n', '😀']), (['b'], .int (-3))] =
    "\x7b\"a\": \"\\u00e9\\n\\ud83d\\ude00\", \"b\": -3\x7d".toList := by decide

/-- An integer within the limit on its digits. -/
def Scalar.Fits (lim : Limits) : Scalar → Prop
  | .int n => (Nat.toDigits 10 n.natAbs).length ≤ lim.digits
  | _ => True

instance (lim : Limits) (v : Scalar) : Decidable (v.Fits lim) := by
  cases v <;> unfold Scalar.Fits <;> infer_instance

/-! ## 2. Characters -/

theorem printable_of_all {l : List Char} (h : (l.all fun c => decide (Printable c)) = true)
    {c : Char} (hc : c ∈ l) : Printable c := of_decide_eq_true (List.all_eq_true.mp h c hc)

theorem digitChar_hex {d : Nat} (h : d < 16) :
    Printable (Nat.digitChar d) ∧ hexVal (Nat.digitChar d) = some d := by
  have hall : ∀ d < 16, Printable (Nat.digitChar d) ∧ hexVal (Nat.digitChar d) = some d := by
    decide
  exact hall d h

theorem codeUnits_lt {c : Char} {u : Nat} (h : u ∈ codeUnits c) : u < 0x10000 := by
  have hvalid : c.toNat < 0x110000 := by
    rcases c.valid with hlt | hrange
    · exact Nat.lt_trans hlt (by decide)
    · exact hrange.2
  unfold codeUnits at h
  split at h
  · rw [List.mem_singleton.mp h]
    assumption
  · simp only [List.mem_cons, List.not_mem_nil, or_false] at h
    omega

theorem unitText_printable {u : Nat} (h : u < 0x10000) {c : Char} (hc : c ∈ unitText u) :
    Printable c := by
  simp only [unitText, List.mem_cons, List.not_mem_nil, or_false] at hc
  rcases hc with rfl | rfl | rfl | rfl | rfl | rfl
  · decide
  · decide
  · exact (digitChar_hex (by omega)).1
  · exact (digitChar_hex (by omega)).1
  · exact (digitChar_hex (by omega)).1
  · exact (digitChar_hex (by omega)).1

/-- A letter behind the backslash stands for its character. -/
theorem shortEscape_spec {c d : Char} (h : shortEscape c = some d) :
    Printable d ∧ d ≠ 'u' ∧ escaped d = some c.toNat := by
  unfold shortEscape at h
  split at h <;> cases h <;> decide

theorem escapeChar_printable {c d : Char} (h : d ∈ escapeChar c) : Printable d := by
  unfold escapeChar at h
  split at h
  · rename_i e he
    simp only [List.mem_cons, List.not_mem_nil, or_false] at h
    rcases h with rfl | rfl
    · decide
    · exact (shortEscape_spec he).1
  · split at h
    · rw [List.mem_singleton.mp h]
      assumption
    · obtain ⟨u, hu, hd⟩ := List.mem_flatMap.mp h
      exact unitText_printable (codeUnits_lt hu) hd

theorem stringText_printable {s : List Char} {c : Char} (h : c ∈ stringText s) : Printable c := by
  rcases List.mem_cons.mp h with rfl | h
  · decide
  · rcases List.mem_append.mp h with h | h
    · obtain ⟨d, -, hc⟩ := List.mem_flatMap.mp h
      exact escapeChar_printable hc
    · rw [List.mem_singleton.mp h]
      decide

theorem intText_printable {n : Int} {c : Char} (h : c ∈ intText n) : Printable c := by
  have hdigits : ∀ k : Nat, c ∈ Nat.toDigits 10 k → Printable c := fun k hk => by
    obtain ⟨hlo, hhi⟩ := Numerals.digit_range
      (Nat.isDigit_of_mem_toDigits (by decide) (by decide) hk)
    exact ⟨by omega, by omega⟩
  cases n with
  | ofNat n => exact hdigits n h
  | negSucc n =>
      rcases List.mem_cons.mp h with rfl | h
      · decide
      · exact hdigits (n + 1) h

theorem Scalar.text_printable {v : Scalar} {c : Char} (h : c ∈ v.text) : Printable c := by
  cases v with
  | null => exact printable_of_all (by decide) h
  | bool b => cases b <;> exact printable_of_all (by decide) h
  | int n => exact intText_printable h
  | str s => exact stringText_printable h

theorem memberText_printable {m : List Char × Scalar} {c : Char} (h : c ∈ memberText m) :
    Printable c := by
  rcases List.mem_append.mp h with h | h
  · rcases List.mem_append.mp h with h | h
    · exact stringText_printable h
    · exact printable_of_all (by decide) h
  · exact Scalar.text_printable h

/-- **The text of a `dict` is printable ASCII.** -/
theorem dumps_printable {ms : List (List Char × Scalar)} {c : Char} (h : c ∈ dumps ms) :
    Printable c := by
  rcases List.mem_cons.mp h with rfl | h
  · decide
  · induction ms with
    | nil =>
        rw [List.mem_singleton.mp h]
        decide
    | cons m ms ih =>
        cases ms with
        | nil =>
            rcases List.mem_append.mp h with h | h
            · exact memberText_printable h
            · rw [List.mem_singleton.mp h]
              decide
        | cons m' ms =>
            rcases List.mem_append.mp h with h | h
            · rcases List.mem_append.mp h with h | h
              · exact memberText_printable h
              · exact printable_of_all (by decide) h
            · exact ih (List.mem_cons_of_mem _ h) h

/-! ## 3. Strings, read back -/

/-- The reader on a text. -/
def feed (lim : Limits) (s : State) (t : List Char) : Except LoadError State :=
  t.foldlM (step lim) s

section Reading

variable {lim : Limits} {s s' : State} {stack : List Frame} {c : Char} {t u : List Char}

theorem feed_cons (s' : State) (h : step lim s c = .ok s') :
    feed lim s (c :: t) = feed lim s' t := by
  rw [feed, List.foldlM_cons, h]
  rfl

theorem feed_append (h : feed lim s t = .ok s') : feed lim s (t ++ u) = feed lim s' u := by
  rw [feed, List.foldlM_append, ← feed, h]
  rfl

theorem step_hex {isKey : Bool} {units : Text} {acc d : Nat} (hd : d < 16) (more : Nat) :
    step lim ⟨stack, .hex isKey units more acc⟩ (Nat.digitChar d) =
      match more with
      | 0 => .ok ⟨stack, .string isKey (units ++ [acc * 16 + d])⟩
      | more + 1 => .ok ⟨stack, .hex isKey units more (acc * 16 + d)⟩ := by
  cases more <;> simp only [step, (digitChar_hex hd).2]

/-- `\uXXXX` is a code unit. -/
theorem feed_unit {isKey : Bool} {units : Text} {n : Nat} (hn : n < 0x10000) :
    feed lim ⟨stack, .string isKey units⟩ (unitText n) =
      .ok ⟨stack, .string isKey (units ++ [n])⟩ := by
  have hsum : (((0 * 16 + n / 4096) * 16 + n / 256 % 16) * 16 + n / 16 % 16) * 16 + n % 16 = n := by
    omega
  unfold unitText
  rw [feed_cons ⟨stack, .escape isKey units⟩ rfl,
    feed_cons ⟨stack, .hex isKey units 3 0⟩ rfl,
    feed_cons _ (step_hex (by omega) 3), feed_cons _ (step_hex (by omega) 2),
    feed_cons _ (step_hex (by omega) 1), feed_cons _ (step_hex (by omega) 0), hsum]
  rfl

/-- **A character is its code units.** -/
theorem feed_escapeChar {isKey : Bool} {units : Text} (c : Char) :
    feed lim ⟨stack, .string isKey units⟩ (escapeChar c) =
      .ok ⟨stack, .string isKey (units ++ codeUnits c)⟩ := by
  unfold escapeChar
  split
  · rename_i d hd
    obtain ⟨-, hu, hescaped⟩ := shortEscape_spec hd
    have hlow : c.toNat < 0x10000 := by
      unfold shortEscape at hd
      split at hd <;> first | decide | cases hd
    have hstep : step lim ⟨stack, .escape isKey units⟩ d =
        .ok ⟨stack, .string isKey (units ++ [c.toNat])⟩ := by
      simp only [step, hu, if_false, hescaped]
    rw [feed_cons ⟨stack, .escape isKey units⟩ rfl, feed_cons _ hstep, codeUnits, if_pos hlow]
    rfl
  · rename_i hshort
    have hquote : c ≠ '"' := by rintro rfl; cases hshort
    have hslash : c ≠ '\\' := by rintro rfl; cases hshort
    split
    · rename_i hc
      have hc' : ¬ c.toNat < 0x20 := Nat.not_lt.mpr hc.1
      have hlow : c.toNat < 0x10000 := Nat.lt_of_le_of_lt hc.2 (by decide)
      have hstep : step lim ⟨stack, .string isKey units⟩ c =
          .ok ⟨stack, .string isKey (units ++ [c.toNat])⟩ := by
        simp only [step, hquote, hslash, hc', if_false]
      rw [feed_cons _ hstep, codeUnits, if_pos hlow]
      rfl
    · have hunits : ∀ l : List Nat, (∀ n ∈ l, n < 0x10000) → ∀ units : Text,
          feed lim ⟨stack, .string isKey units⟩ (l.flatMap unitText) =
            .ok ⟨stack, .string isKey (units ++ l)⟩ := by
        intro l
        induction l with
        | nil =>
            intro _ units
            rw [List.append_nil]
            rfl
        | cons n l ih =>
            intro hl units
            rw [List.flatMap_cons, feed_append (feed_unit (hl n List.mem_cons_self)),
              ih (fun m hm => hl m (List.mem_cons_of_mem n hm)), List.append_assoc]
            rfl
      exact hunits _ (fun n hn => codeUnits_lt hn) units

theorem feed_escaped {isKey : Bool} (text : List Char) : ∀ units : Text,
    feed lim ⟨stack, .string isKey units⟩ (text.flatMap escapeChar) =
      .ok ⟨stack, .string isKey (units ++ text.flatMap codeUnits)⟩ := by
  induction text with
  | nil =>
      intro units
      have hnil : units ++ [].flatMap codeUnits = units := List.append_nil units
      rw [hnil]
      rfl
  | cons c text ih =>
      intro units
      rw [List.flatMap_cons, feed_append (feed_escapeChar c), ih, List.flatMap_cons,
        List.append_assoc]

theorem joinSurrogates_cons {n : Nat} (h : isHighSurrogate n = false) (rest : Text) :
    joinSurrogates (n :: rest) = n :: joinSurrogates rest := by
  cases rest with
  | nil => rfl
  | cons m rest =>
      rw [joinSurrogates, h, Bool.false_and]
      rfl

/-- **The code units of a text are its code points.** -/
theorem joinSurrogates_units (text : List Char) :
    joinSurrogates (text.flatMap codeUnits) = codePoints text := by
  induction text with
  | nil => rfl
  | cons c text ih =>
      have hvalid : c.toNat < 0xD800 ∨ 0xDFFF < c.toNat ∧ c.toNat < 0x110000 := c.valid
      rw [List.flatMap_cons, codeUnits]
      split
      · have hhigh : isHighSurrogate c.toNat = false := by
          rw [isHighSurrogate, decide_eq_false_iff_not]
          omega
        rw [List.singleton_append, joinSurrogates_cons hhigh, ih]
        rfl
      · have hpair : (isHighSurrogate (0xD800 + (c.toNat - 0x10000) / 0x400) &&
            isLowSurrogate (0xDC00 + (c.toNat - 0x10000) % 0x400)) = true := by
          rw [isHighSurrogate, isLowSurrogate, Bool.and_eq_true, decide_eq_true_eq,
            decide_eq_true_eq]
          omega
        have hjoin : 0x10000 + (0xD800 + (c.toNat - 0x10000) / 0x400 - 0xD800) * 0x400 +
            (0xDC00 + (c.toNat - 0x10000) % 0x400 - 0xDC00) = c.toNat := by
          omega
        show joinSurrogates (_ :: _ :: text.flatMap codeUnits) = _
        rw [joinSurrogates, if_pos hpair, hjoin, ih]
        rfl

/-- **A string, read back**, as a key or as a value. -/
theorem feed_string {isKey : Bool} (text : List Char) :
    feed lim ⟨stack, .string isKey []⟩ (text.flatMap escapeChar ++ ['"']) =
      .ok (endString stack isKey (text.flatMap codeUnits)) := by
  rw [feed_append (feed_escaped text []), List.nil_append]
  rfl

/-! ## 4. Scalars and members, read back -/

/-- A digit goes on an integer. -/
theorem step_digit {n : Num} {d : Nat} (hd : d < 10) :
    step lim ⟨stack, .number n .whole⟩ (Nat.digitChar d) = .ok ⟨stack, .number
      { n with mantissa := n.mantissa * 10 + d, digits := n.digits + 1 } .whole⟩ := by
  have hall : ∀ d < 10, (Nat.digitChar d).isDigit = true ∧ digitVal (Nat.digitChar d) = d ∧
      Nat.digitChar d ≠ 'I' := by decide
  obtain ⟨hdigit, hval, hI⟩ := hall d hd
  simp only [step, hI, and_false, if_false, Num.advance, hdigit, if_true, Num.pushWhole, hval]

/-- **The digits of a number**, from a state that takes the first of them. -/
theorem feed_digits {negative : Bool} (hfirst : ∀ d, 0 < d → d < 10 →
      step lim s (Nat.digitChar d) = .ok ⟨stack, .number ⟨negative, d, 1, 0, false, 0⟩ .whole⟩)
    {n : Nat} (hn : 0 < n) :
    feed lim s (Nat.toDigits 10 n) = .ok ⟨stack, .number
      ⟨negative, n, (Nat.toDigits 10 n).length, 0, false, 0⟩ .whole⟩ := by
  induction n using Nat.strong_induction_on with
  | _ n ih =>
      rcases Nat.lt_or_ge n 10 with hlt | hge
      · rw [Nat.toDigits_of_lt_base hlt, feed_cons _ (hfirst n hn hlt)]
        rfl
      · have hdiv : n / 10 * 10 + n % 10 = n := by omega
        rw [Nat.toDigits_of_base_le (by decide) hge,
          feed_append (ih (n / 10) (by omega) (by omega)), feed_cons _ (step_digit (by omega)),
          List.length_append]
        simp only [hdiv]
        rfl

/-- A comma or a closing brace behind an integer. -/
theorem step_endNumber {n : Num} (hc : c = ',' ∨ c = '\x7d') (h : n.digits ≤ lim.digits)
    {part : NumPart} (hpart : part = .zero ∨ part = .whole) :
    step lim ⟨stack, .number n part⟩ c =
      stepAfter stack (.int (if n.negative then -(n.mantissa : Int) else n.mantissa)) c := by
  have hadvance : n.advance part c = none := by
    rcases hc with rfl | rfl <;> rcases hpart with rfl | rfl <;> rfl
  have hfinish : n.finish lim part =
      .ok (.int (if n.negative then -(n.mantissa : Int) else n.mantissa)) := by
    rcases hpart with rfl | rfl <;> rw [Num.finish, Num.toInt, if_neg (Nat.not_lt.mpr h)]
  have hI : c ≠ 'I' := by rcases hc with rfl | rfl <;> decide
  simp only [step, hI, and_false, if_false, hadvance, hfinish]
  rfl

/-- **An integer, read back.** -/
theorem feed_int {n : Int} {first : Bool} (hc : c = ',' ∨ c = '\x7d')
    (hn : (Nat.toDigits 10 n.natAbs).length ≤ lim.digits) :
    feed lim ⟨stack, .value first⟩ (intText n ++ c :: t) =
      (stepAfter stack (.int n) c).bind fun s => feed lim s t := by
  have hend : ∀ {m : Num} {part : NumPart}, part = .zero ∨ part = .whole →
      m.digits ≤ lim.digits → (if m.negative then -(m.mantissa : Int) else m.mantissa) = n →
      feed lim ⟨stack, .number m part⟩ (c :: t) =
        (stepAfter stack (.int n) c).bind fun s => feed lim s t := by
    intro m part hpart hdigits hvalue
    rw [feed, List.foldlM_cons, step_endNumber hc hdigits hpart, hvalue]
    rfl
  have hnine : ∀ d, 0 < d → d < 10 →
      d = 1 ∨ d = 2 ∨ d = 3 ∨ d = 4 ∨ d = 5 ∨ d = 6 ∨ d = 7 ∨ d = 8 ∨ d = 9 := by omega
  cases n with
  | ofNat n =>
      rcases Nat.eq_zero_or_pos n with rfl | hpos
      · show feed lim ⟨stack, .value first⟩ ('0' :: c :: t) = _
        rw [feed_cons ⟨stack, .number ⟨false, 0, 1, 0, false, 0⟩ .zero⟩ rfl]
        exact hend (.inl rfl) hn rfl
      · have hread := @feed_digits lim ⟨stack, .value first⟩ stack false (fun d h0 h10 => by
          rcases hnine d h0 h10 with rfl | rfl | rfl | rfl | rfl | rfl | rfl | rfl | rfl <;> rfl)
          n hpos
        show feed lim _ (Nat.toDigits 10 n ++ c :: t) = _
        rw [feed_append hread]
        exact hend (.inr rfl) hn rfl
  | negSucc n =>
      have hread := @feed_digits lim ⟨stack, .number ⟨true, 0, 0, 0, false, 0⟩ .minus⟩ stack true
        (fun d h0 h10 => by
          rcases hnine d h0 h10 with rfl | rfl | rfl | rfl | rfl | rfl | rfl | rfl | rfl <;> rfl)
        (n + 1) (Nat.succ_pos n)
      show feed lim ⟨stack, .value first⟩ ('-' :: (Nat.toDigits 10 (n + 1) ++ c :: t)) = _
      rw [feed_cons ⟨stack, .number ⟨true, 0, 0, 0, false, 0⟩ .minus⟩ rfl,
        feed_append hread]
      exact hend (.inr rfl) hn rfl

/-- **A scalar, read back.** -/
theorem feed_scalar {v : Scalar} {first : Bool} (hc : c = ',' ∨ c = '\x7d') (hv : v.Fits lim) :
    feed lim ⟨stack, .value first⟩ (v.text ++ c :: t) =
      (stepAfter stack v.value c).bind fun s => feed lim s t := by
  have hafter : ∀ w : Value, feed lim ⟨stack, .after w⟩ (c :: t) =
      (stepAfter stack w c).bind fun s => feed lim s t := fun w => rfl
  cases v with
  | null => exact hafter .null
  | bool b => cases b <;> exact hafter _
  | int n => exact feed_int hc hv
  | str text =>
      show feed lim _ ('"' :: (text.flatMap escapeChar ++ ['"'] ++ c :: t)) = _
      have hend : endString stack false (text.flatMap codeUnits) =
          ⟨stack, .after (.str (codePoints text))⟩ := by
        rw [← joinSurrogates_units]
        rfl
      rw [feed_cons ⟨stack, .string false []⟩ rfl, feed_append (feed_string text), hend]
      exact hafter _

/-- **A member, read back**, up to the comma or the brace behind it. -/
theorem feed_member {m : List Char × Scalar} {done : List (Text × Value)} {key : Text}
    {first : Bool} (hc : c = ',' ∨ c = '\x7d') (hm : m.2.Fits lim) :
    feed lim ⟨.object done key :: stack, .key first⟩ (memberText m ++ c :: t) =
      (stepAfter (.object done (codePoints m.1) :: stack) m.2.value c).bind fun s =>
        feed lim s t := by
  have hkey : feed lim ⟨.object done key :: stack, .key first⟩ (stringText m.1) =
      .ok ⟨.object done (codePoints m.1) :: stack, .colon⟩ := by
    rw [stringText, feed_cons ⟨.object done key :: stack, .string true []⟩ rfl,
      feed_string, endString, joinSurrogates_units]
  rw [memberText, List.append_assoc, List.append_assoc, feed_append hkey, List.cons_append,
    feed_cons ⟨.object done (codePoints m.1) :: stack, .value false⟩ rfl,
    List.cons_append, feed_cons ⟨.object done (codePoints m.1) :: stack, .value false⟩ rfl]
  exact feed_scalar hc hm

/-- **The members, read back**, behind those that have been read. -/
theorem feed_members {ms : List (List Char × Scalar)} {first : Bool}
    (hms : ∀ m ∈ ms, m.2.Fits lim) (hfirst : ms = [] → first = true) :
    ∀ (done : List (Text × Value)) (key : Text), (ms = [] → done = []) →
    feed lim ⟨[.object done key], .key first⟩ (membersText ms) =
      .ok ⟨[], .after (.obj (done ++ members ms))⟩ := by
  induction ms generalizing first with
  | nil =>
      intro done key hdone
      rw [hfirst rfl, hdone rfl]
      rfl
  | cons m ms ih =>
      intro done key _
      have hm := hms m List.mem_cons_self
      cases ms with
      | nil =>
          show feed lim _ (memberText m ++ '\x7d' :: []) = _
          rw [feed_member (.inr rfl) hm]
          rfl
      | cons m' ms =>
          show feed lim _ (memberText m ++ [',', ' '] ++ membersText (m' :: ms)) = _
          rw [List.append_assoc, List.cons_append, feed_member (.inl rfl) hm]
          have hrest := @ih false (fun n hn => hms n (List.mem_cons_of_mem m hn))
            nofun (done ++ [(codePoints m.1, m.2.value)]) [] nofun
          rw [List.append_assoc] at hrest
          exact hrest

/-- **WHAT `json.dumps` WRITES, `json.loads` READS BACK**, within the limits. -/
theorem loads_dumps {ms : List (List Char × Scalar)} (hdepth : 0 < lim.depth)
    (hms : ∀ m ∈ ms, m.2.Fits lim) : loads lim (dumps ms) = .ok (.obj (members ms)) := by
  have hopen : step lim start '\x7b' = .ok ⟨[.object [] []], .key true⟩ := by
    have hroom : ¬lim.depth ≤ ([] : List Frame).length := Nat.not_le.mpr hdepth
    show openFrame lim [] (.object [] []) (.key true) = _
    rw [openFrame, if_neg hroom]
  have hread : feed lim start (dumps ms) = .ok ⟨[], .after (.obj (members ms))⟩ := by
    rw [dumps, feed_cons _ hopen]
    exact feed_members hms (fun _ => rfl) [] [] fun _ => rfl
  have hbom : (dumps ms).head? ≠ some bom := by
    show some '\x7b' ≠ some bom
    decide
  rw [loads, if_neg hbom]
  show (feed lim start (dumps ms)).bind (finish lim) = _
  rw [hread]
  rfl

end Reading

end Json
