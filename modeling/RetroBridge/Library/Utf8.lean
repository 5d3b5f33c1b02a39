/-
  File:      RetroBridge/Library/Utf8.lean
  Subject:   UTF-8 DECODING WITH REPLACEMENT, as `bytes.decode("utf-8", errors="replace")` does it,
             and what becomes of it when the bytes are cut into chunks that are decoded one by one.

  * `Range`, `Place` -- where the decoder stands: between characters, or inside a sequence, with the
    range its next byte must be in;
  * `decoder`, `decode` -- the decoder as a transducer. A byte that cannot go on ends its sequence
    with one U+FFFD and is read anew; so does the end of the bytes;
  * `length_piece_le` -- a cut never makes the text shorter; `length_piece_bounds`: a text is never
    longer than its bytes;
  * `Splits` -- a cut inside a sequence that the next byte goes on with;
  * `decode_chunks` -- **decoding chunk by chunk is decoding the whole exactly when no cut splits a
    sequence**;
  * `decode_flatMap` -- decoding inverts `String.utf8EncodeChar`, character by character;
  * `Valid`, `valid_of_not_mem` -- **the bytes that encode a text**: all those whose decoding has no
    replacement.
-/
import RetroBridge.Library.Transducer

namespace Utf8

open Piecewise

/-! ## 1. The decoder -/

/-- U+FFFD. -/
def replacement : Char := Char.ofNat 0xFFFD

/-- What the next byte of a sequence may be: any continuation byte, or the part of them that the
    first byte leaves (no overlong form, no surrogate, nothing past U+10FFFF). -/
inductive Range where
  | any
  | afterE0
  | afterED
  | afterF0
  | afterF4
  deriving DecidableEq, Repr

def Range.low : Range → Nat
  | .afterE0 => 0xA0
  | .afterF0 => 0x90
  | _ => 0x80

def Range.high : Range → Nat
  | .afterED => 0x9F
  | .afterF4 => 0x8F
  | _ => 0xBF

/-- Where the decoder stands: between characters, or in a sequence with its bits so far, the bytes
    it still needs after the next one, and the range of the next one. -/
inductive Place where
  | start
  | inside (bits more : Nat) (range : Range)
  deriving DecidableEq, Repr

/-- A byte between characters. -/
def first (n : Nat) : Place × List Char :=
  if n < 0x80 then (.start, [Char.ofNat n])
  else if n < 0xC2 then (.start, [replacement])
  else if n < 0xE0 then (.inside (n - 0xC0) 0 .any, [])
  else if n < 0xF0 then
    (.inside (n - 0xE0) 1 (if n = 0xE0 then .afterE0 else if n = 0xED then .afterED else .any), [])
  else if n < 0xF5 then
    (.inside (n - 0xF0) 2 (if n = 0xF0 then .afterF0 else if n = 0xF4 then .afterF4 else .any), [])
  else (.start, [replacement])

/-- The byte is in the range. -/
def Range.holds (r : Range) (b : UInt8) : Bool := decide (r.low ≤ b.toNat ∧ b.toNat ≤ r.high)

/-- A byte that goes on with a sequence: the character, if it is complete. -/
def goOn (bits more n : Nat) : Place × List Char :=
  match more with
  | 0 => (.start, [Char.ofNat (bits * 64 + (n - 0x80))])
  | more + 1 => (.inside (bits * 64 + (n - 0x80)) more .any, [])

/-- **One byte.** -/
def step : Place → UInt8 → Place × List Char
  | .start, b => first b.toNat
  | .inside bits more range, b =>
    if range.holds b then goOn bits more b.toNat
    else ((first b.toNat).1, replacement :: (first b.toNat).2)

/-- What an end leaves of a sequence. -/
def leftover : Place → List Char
  | .start => []
  | .inside _ _ _ => [replacement]

/-- **The decoder**; a cut is an end of the bytes. -/
def decoder : Transducer Place UInt8 Char where
  next q b := (step q b).1
  emit q b := (step q b).2
  cut _ := .start
  flush := leftover

/-- **`decode("utf-8", errors="replace")`**. -/
def decode (bytes : List UInt8) : List Char := decoder.piece .start bytes

/-- The byte goes on with the sequence the decoder is in. -/
def Place.continues : Place → UInt8 → Bool
  | .start, _ => false
  | .inside _ _ range, b => range.holds b

/-! ## 2. One cut -/

theorem Range.bounds (r : Range) : 0x80 ≤ r.low ∧ r.high ≤ 0xBF := by cases r <;> decide

/-- A byte that goes on with a sequence begins none. -/
theorem first_of_holds {r : Range} {b : UInt8} (h : r.holds b = true) :
    first b.toNat = (.start, [replacement]) := by
  obtain ⟨hlow, hhigh⟩ := of_decide_eq_true h
  obtain ⟨hr, hr'⟩ := r.bounds
  unfold first
  rw [if_neg (by omega), if_pos (by omega)]

theorem decode_nil : decode [] = [] := rfl

theorem piece_nil (q : Place) : decoder.piece q [] = leftover q := rfl

theorem piece_cons (q : Place) (b : UInt8) (l : List UInt8) :
    decoder.piece q (b :: l) = (step q b).2 ++ decoder.piece (step q b).1 l := by
  rw [show b :: l = [b] ++ l from rfl, Transducer.piece_append, Transducer.output_cons,
    Transducer.output_nil, List.append_nil]
  rfl

/-- **A cut that splits no sequence**: what it leaves and the rest are the uncut text. -/
theorem leftover_append {q : Place} {l : List UInt8}
    (h : ∀ b ∈ l.head?, q.continues b = false) : leftover q ++ decode l = decoder.piece q l := by
  cases q with
  | start => rfl
  | inside bits more range =>
      cases l with
      | nil => rfl
      | cons b l =>
          have hb : ¬range.holds b = true := by
            rw [show range.holds b = false from h b rfl]
            decide
          have hstep : step (.inside bits more range) b =
              ((first b.toNat).1, replacement :: (first b.toNat).2) := if_neg hb
          rw [decode, piece_cons, piece_cons, hstep]
          rfl

/-- A sequence that goes on, decoded from between characters: its byte is one replacement. -/
theorem decode_cons_of_holds {range : Range} {b : UInt8} {l : List UInt8}
    (h : range.holds b = true) : (decode (b :: l)).length = (decode l).length + 1 := by
  have hstep : step .start b = (.start, [replacement]) := first_of_holds h
  rw [decode, piece_cons, hstep, List.length_append, Nat.add_comm]
  rfl

/-- **A cut never makes the text shorter**, and one that splits a sequence makes it longer: the
    induction is on the bytes after the cut. -/
theorem length_piece_le (l : List UInt8) : ∀ q : Place,
    (decoder.piece q l).length ≤ (leftover q).length + (decode l).length ∧
      ((∃ b ∈ l.head?, q.continues b = true) →
        (decoder.piece q l).length < (leftover q).length + (decode l).length) := by
  induction l with
  | nil =>
      intro q
      refine ⟨?_, ?_⟩
      · rw [piece_nil, decode_nil]
        exact Nat.le_refl _
      · rintro ⟨b, hb, -⟩
        cases hb
  | cons b l ih =>
      intro q
      cases q with
      | start =>
          refine ⟨?_, ?_⟩
          · exact Nat.le_of_eq (Nat.zero_add _).symm
          · rintro ⟨c, -, hc⟩
            cases hc
      | inside bits more range =>
          by_cases hb : range.holds b = true
          · have hstep : step (.inside bits more range) b = goOn bits more b.toNat := if_pos hb
            have hlonger := @decode_cons_of_holds range b l hb
            have hlt : (decoder.piece (.inside bits more range) (b :: l)).length <
                (leftover (.inside bits more range)).length + (decode (b :: l)).length := by
              rw [piece_cons, hstep, hlonger]
              show _ < 1 + _
              cases more with
              | zero =>
                  show ((goOn bits 0 b.toNat).2 ++ decode l).length < _
                  rw [List.length_append]
                  show 1 + (decode l).length < _
                  omega
              | succ more =>
                  have hrest := (ih (goOn bits (more + 1) b.toNat).1).1
                  have hone : (leftover (goOn bits (more + 1) b.toNat).1).length = 1 := rfl
                  rw [hone] at hrest
                  show (decoder.piece (goOn bits (more + 1) b.toNat).1 l).length < _
                  omega
            exact ⟨Nat.le_of_lt hlt, fun _ => hlt⟩
          · have hnot : ∀ c ∈ (b :: l).head?,
                (Place.inside bits more range).continues c = false := by
              intro c hc
              cases hc
              exact Bool.eq_false_iff.mpr hb
            have heq := leftover_append hnot
            refine ⟨?_, ?_⟩
            · exact Nat.le_of_eq (by rw [← heq, List.length_append])
            · rintro ⟨c, hc, hholds⟩
              rw [hnot c hc] at hholds
              cases hholds

/-- What a byte emits, with what an end right after it would leave: one character between
    characters, and at least one, at most two, inside a sequence. -/
theorem step_weight (q : Place) (b : UInt8) :
    1 ≤ (step q b).2.length + (leftover (step q b).1).length ∧
      (step q b).2.length + (leftover (step q b).1).length ≤ (leftover q).length + 1 := by
  have hfirst : ∀ n, (first n).2.length + (leftover (first n).1).length = 1 := by
    intro n
    unfold first
    split_ifs <;> rfl
  cases q with
  | start => exact ⟨Nat.le_of_eq (hfirst b.toNat).symm, Nat.le_of_eq (hfirst b.toNat)⟩
  | inside bits more range =>
      by_cases hb : range.holds b = true
      · have hstep : step (.inside bits more range) b = goOn bits more b.toNat := if_pos hb
        rw [hstep]
        cases more with
        | zero => exact ⟨Nat.le_refl 1, Nat.le_succ 1⟩
        | succ more => exact ⟨Nat.le_refl 1, Nat.le_succ 1⟩
      · have hstep : step (.inside bits more range) b =
            ((first b.toNat).1, replacement :: (first b.toNat).2) := if_neg hb
        have hone := hfirst b.toNat
        have htwo : (leftover (.inside bits more range)).length = 1 := rfl
        rw [hstep, htwo]
        show 1 ≤ ((first b.toNat).2.length + 1) + (leftover (first b.toNat).1).length ∧
          ((first b.toNat).2.length + 1) + (leftover (first b.toNat).1).length ≤ 1 + 1
        omega

/-- **A text is never longer than its bytes**, and every byte is heard: the induction is on the
    bytes, with what the place before them would leave. -/
theorem length_piece_bounds (l : List UInt8) : ∀ q : Place,
    (leftover q).length ≤ (decoder.piece q l).length ∧
      (decoder.piece q l).length ≤ (leftover q).length + l.length := by
  induction l with
  | nil =>
      intro q
      rw [piece_nil]
      exact ⟨Nat.le_refl _, Nat.le_refl _⟩
  | cons b l ih =>
      intro q
      obtain ⟨hlow, hhigh⟩ := step_weight q b
      obtain ⟨hrest, hrest'⟩ := ih (step q b).1
      have hone : (leftover q).length ≤ 1 := by
        cases q with
        | start => exact Nat.zero_le 1
        | inside => exact Nat.le_refl 1
      rw [piece_cons, List.length_append, List.length_cons]
      omega

theorem length_decode_le (l : List UInt8) : (decode l).length ≤ l.length :=
  Nat.le_trans (length_piece_bounds l .start).2 (Nat.le_of_eq (Nat.zero_add _))

theorem decode_ne_nil {l : List UInt8} (h : l ≠ []) : decode l ≠ [] := by
  cases l with
  | nil => exact absurd rfl h
  | cons b l =>
      have hlow := (step_weight .start b).1
      have hrest := (length_piece_bounds l (step .start b).1).1
      intro hnil
      have hlength := congrArg List.length hnil
      rw [decode, piece_cons, List.length_append, List.length_nil] at hlength
      omega

/-! ## 3. Chunks -/

/-- **The cut between `l` and `rest` splits a sequence**: `l` ends inside one, and the first byte of
    `rest` goes on with it. -/
def Splits (l rest : List UInt8) : Prop :=
  ∃ b ∈ rest.head?, (decoder.state .start l).continues b = true

instance (l rest : List UInt8) : Decidable (Splits l rest) :=
  decidable_of_iff (rest.head?.any (decoder.state .start l).continues = true)
    (Option.any_eq_true _ _)

/-- The text before a cut, and the text after it. -/
theorem decode_append (l rest : List UInt8) :
    decode (l ++ rest) = decoder.output .start l ++ decoder.piece (decoder.state .start l) rest :=
  decoder.piece_append .start l rest

theorem decode_eq (l : List UInt8) :
    decode l = decoder.output .start l ++ leftover (decoder.state .start l) := rfl

/-- Two decodings are never shorter than one, and longer if the cut splits a sequence. -/
theorem length_decode_append (l rest : List UInt8) :
    (decode (l ++ rest)).length ≤ (decode l).length + (decode rest).length ∧
      (Splits l rest → (decode (l ++ rest)).length < (decode l).length + (decode rest).length) := by
  obtain ⟨hle, hlt⟩ := length_piece_le rest (decoder.state .start l)
  rw [decode_append, decode_eq l, List.length_append, List.length_append]
  refine ⟨by omega, fun hsplits => ?_⟩
  have hlt' := hlt hsplits
  omega

/-- **Two decodings are one exactly when the cut splits no sequence.** -/
theorem decode_append_iff {l rest : List UInt8} :
    decode l ++ decode rest = decode (l ++ rest) ↔ ¬Splits l rest := by
  constructor
  · intro h hsplits
    have hlt := (length_decode_append l rest).2 hsplits
    rw [← h, List.length_append] at hlt
    exact absurd hlt (Nat.lt_irrefl _)
  · intro h
    have hcut : ∀ b ∈ rest.head?, (decoder.state .start l).continues b = false := fun b hb =>
      Bool.eq_false_iff.mpr fun hc => h ⟨b, hb, hc⟩
    rw [decode_append, decode_eq l, List.append_assoc, leftover_append hcut]

/-- No chunk is split from what follows it. -/
def WholeSequences : List (List UInt8) → Prop
  | [] => True
  | chunk :: chunks => ¬Splits chunk chunks.flatten ∧ WholeSequences chunks

/-- Chunk by chunk the text is never shorter. -/
theorem length_decode_flatten_le (chunks : List (List UInt8)) :
    (decode chunks.flatten).length ≤ (chunks.flatMap decode).length := by
  induction chunks with
  | nil => exact Nat.le_refl _
  | cons chunk chunks ih =>
      have hle := (length_decode_append chunk chunks.flatten).1
      rw [List.flatten_cons, List.flatMap_cons, List.length_append]
      omega

/-- **Decoding chunk by chunk is decoding the whole exactly when no cut splits a sequence.** -/
theorem decode_chunks (chunks : List (List UInt8)) :
    chunks.flatMap decode = decode chunks.flatten ↔ WholeSequences chunks := by
  induction chunks with
  | nil => exact iff_of_true rfl trivial
  | cons chunk chunks ih =>
      rw [List.flatMap_cons, List.flatten_cons, WholeSequences, ← decode_append_iff, ← ih]
      constructor
      · intro h
        -- neither the cut nor the rest can have made the text longer
        have hle := length_decode_flatten_le chunks
        have hlength := congrArg List.length h
        rw [List.length_append] at hlength
        have hwhole : ¬Splits chunk chunks.flatten := by
          intro hsplits
          have hlt := (length_decode_append chunk chunks.flatten).2 hsplits
          omega
        have hcut := decode_append_iff.mpr hwhole
        exact ⟨hcut, List.append_cancel_left (h.trans hcut.symm)⟩
      · rintro ⟨hcut, hrest⟩
        rw [hrest, hcut]

/-! ## 4. Encoding -/

/-- From `q` over these bytes the decoder emits this and stands at `q'`. -/
def Reads (q : Place) (l : List UInt8) (t : List Char) (q' : Place) : Prop :=
  decoder.output q l = t ∧ decoder.state q l = q'

section Encode

variable {q q' q'' : Place} {l : List UInt8} {t : List Char} {v n bits more : Nat} {r : Range}

theorem toNat_ofNat_of_lt (h : n < 256) : (UInt8.ofNat n).toNat = n := by
  rw [UInt8.toNat_ofNat']
  exact Nat.mod_eq_of_lt h

/-- The first byte of a sequence. -/
theorem Reads.lead (hn : n < 256) (hfirst : first n = (q', [])) (h : Reads q' l t q'') :
    Reads .start (UInt8.ofNat n :: l) t q'' := by
  have hstep : step .start (UInt8.ofNat n) = (q', []) := by
    show first (UInt8.ofNat n).toNat = _
    rw [toNat_ofNat_of_lt hn, hfirst]
  have hnext : decoder.next .start (UInt8.ofNat n) = q' := congrArg Prod.fst hstep
  have hemit : decoder.emit .start (UInt8.ofNat n) = [] := congrArg Prod.snd hstep
  refine ⟨?_, ?_⟩
  · rw [Transducer.output_cons, hnext, hemit, h.1, List.nil_append]
  · rw [Transducer.state_cons, hnext, h.2]

/-- A continuation byte in its range. -/
theorem step_tail (h : r.low ≤ n + 0x80 ∧ n + 0x80 ≤ r.high) :
    step (.inside bits more r) (UInt8.ofNat (n + 0x80)) = goOn bits more (n + 0x80) := by
  have hr := r.bounds
  have hn : (UInt8.ofNat (n + 0x80)).toNat = n + 0x80 := toNat_ofNat_of_lt (by omega)
  have hholds : r.holds (UInt8.ofNat (n + 0x80)) = true := by
    show decide _ = true
    rw [hn]
    exact decide_eq_true h
  show (if r.holds (UInt8.ofNat (n + 0x80)) = true then
    goOn bits more (UInt8.ofNat (n + 0x80)).toNat else _) = _
  rw [if_pos hholds, hn]

/-- A continuation byte that is not the last. -/
theorem Reads.tail (hr : r.low ≤ n + 0x80 ∧ n + 0x80 ≤ r.high)
    (h : Reads (.inside (bits * 64 + n) more .any) l t q') :
    Reads (.inside bits (more + 1) r) (UInt8.ofNat (n + 0x80) :: l) t q' := by
  have hstep := @step_tail n bits (more + 1) r hr
  have hgo : goOn bits (more + 1) (n + 0x80) = (.inside (bits * 64 + n) more .any, []) := by
    show (Place.inside (bits * 64 + (n + 0x80 - 0x80)) more .any, []) = _
    rw [Nat.add_sub_cancel]
  rw [hgo] at hstep
  have hnext := congrArg Prod.fst hstep
  have hemit := congrArg Prod.snd hstep
  refine ⟨?_, ?_⟩
  · exact (congrArg₂ _ hemit (congrArg (decoder.output · l) hnext)).trans h.1
  · exact (congrArg (decoder.state · l) hnext).trans h.2

/-- The last byte of a sequence. -/
theorem Reads.last (hr : r.low ≤ n + 0x80 ∧ n + 0x80 ≤ r.high) (hv : bits * 64 + n = v) :
    Reads (.inside bits 0 r) [UInt8.ofNat (n + 0x80)] [Char.ofNat v] .start := by
  have hstep := @step_tail n bits 0 r hr
  have hgo : goOn bits 0 (n + 0x80) = (.start, [Char.ofNat v]) := by
    show (Place.start, [Char.ofNat (bits * 64 + (n + 0x80 - 0x80))]) = _
    rw [Nat.add_sub_cancel, hv]
  rw [hgo] at hstep
  exact ⟨(List.append_nil _).trans (congrArg Prod.snd hstep), congrArg Prod.fst hstep⟩

theorem any_bounds (h : n < 64) : Range.any.low ≤ n + 0x80 ∧ n + 0x80 ≤ Range.any.high := by
  show 0x80 ≤ _ ∧ _ ≤ 0xBF
  omega

theorem reads_two (hlow : 0x80 ≤ v) (hhigh : v ≤ 0x7ff) :
    Reads .start [UInt8.ofNat (v / 64 % 0x20 + 0xc0), UInt8.ofNat (v % 0x40 + 0x80)]
      [Char.ofNat v] .start := by
  have hlast : Reads (.inside (v / 64 % 0x20) 0 .any) [UInt8.ofNat (v % 0x40 + 0x80)]
      [Char.ofNat v] .start := .last (any_bounds (by omega)) (by omega)
  refine .lead (by omega) ?_ hlast
  unfold first
  rw [if_neg (by omega), if_neg (by omega), if_pos (by omega), Nat.add_sub_cancel]

theorem reads_three (hlow : 0x800 ≤ v) (hhigh : v ≤ 0xffff) (hscalar : v < 0xD800 ∨ 0xDFFF < v) :
    Reads .start [UInt8.ofNat (v / 4096 % 0x10 + 0xe0), UInt8.ofNat (v / 64 % 0x40 + 0x80),
      UInt8.ofNat (v % 0x40 + 0x80)] [Char.ofNat v] .start := by
  have hlast : Reads (.inside (v / 4096 % 0x10 * 64 + v / 64 % 0x40) 0 .any)
      [UInt8.ofNat (v % 0x40 + 0x80)] [Char.ofNat v] .start :=
    .last (any_bounds (by omega)) (by omega)
  have hfirst : ∀ r, (if v / 4096 % 0x10 + 0xe0 = 0xE0 then Range.afterE0
      else if v / 4096 % 0x10 + 0xe0 = 0xED then .afterED else .any) = r →
        first (v / 4096 % 0x10 + 0xe0) = (.inside (v / 4096 % 0x10) 1 r, []) := by
    intro r hr
    unfold first
    rw [if_neg (by omega), if_neg (by omega), if_neg (by omega), if_pos (by omega),
      Nat.add_sub_cancel, hr]
  refine .lead (by omega) (hfirst _ rfl) (.tail ?_ hlast)
  split_ifs
  · show 0xA0 ≤ _ ∧ _ ≤ 0xBF
    omega
  · show 0x80 ≤ _ ∧ _ ≤ 0x9F
    omega
  · exact any_bounds (by omega)

theorem reads_four (hlow : 0x10000 ≤ v) (hhigh : v < 0x110000) :
    Reads .start [UInt8.ofNat (v / 262144 % 0x08 + 0xf0), UInt8.ofNat (v / 4096 % 0x40 + 0x80),
      UInt8.ofNat (v / 64 % 0x40 + 0x80), UInt8.ofNat (v % 0x40 + 0x80)] [Char.ofNat v] .start := by
  have hlast : Reads (.inside ((v / 262144 % 0x08 * 64 + v / 4096 % 0x40) * 64 + v / 64 % 0x40) 0
      .any) [UInt8.ofNat (v % 0x40 + 0x80)] [Char.ofNat v] .start :=
    .last (any_bounds (by omega)) (by omega)
  have hthird := hlast.tail (n := v / 64 % 0x40) (any_bounds (by omega))
  have hfirst : ∀ r, (if v / 262144 % 0x08 + 0xf0 = 0xF0 then Range.afterF0
      else if v / 262144 % 0x08 + 0xf0 = 0xF4 then .afterF4 else .any) = r →
        first (v / 262144 % 0x08 + 0xf0) = (.inside (v / 262144 % 0x08) 2 r, []) := by
    intro r hr
    unfold first
    rw [if_neg (by omega), if_neg (by omega), if_neg (by omega), if_neg (by omega),
      if_pos (by omega), Nat.add_sub_cancel, hr]
  refine .lead (by omega) (hfirst _ rfl) (.tail ?_ hthird)
  split_ifs
  · show 0x90 ≤ _ ∧ _ ≤ 0xBF
    omega
  · show 0x80 ≤ _ ∧ _ ≤ 0x8F
    omega
  · exact any_bounds (by omega)

/-- The encoding of a character, by its size. -/
theorem utf8EncodeChar_eq (c : Char) : String.utf8EncodeChar c =
    if c.toNat ≤ 0x7f then [UInt8.ofNat c.toNat]
    else if c.toNat ≤ 0x7ff then
      [UInt8.ofNat (c.toNat / 64 % 0x20 + 0xc0), UInt8.ofNat (c.toNat % 0x40 + 0x80)]
    else if c.toNat ≤ 0xffff then
      [UInt8.ofNat (c.toNat / 4096 % 0x10 + 0xe0), UInt8.ofNat (c.toNat / 64 % 0x40 + 0x80),
        UInt8.ofNat (c.toNat % 0x40 + 0x80)]
    else
      [UInt8.ofNat (c.toNat / 262144 % 0x08 + 0xf0), UInt8.ofNat (c.toNat / 4096 % 0x40 + 0x80),
        UInt8.ofNat (c.toNat / 64 % 0x40 + 0x80), UInt8.ofNat (c.toNat % 0x40 + 0x80)] := rfl

/-- **A character's encoding is read as the character.** -/
theorem reads_encode (c : Char) : Reads .start (String.utf8EncodeChar c) [c] .start := by
  have hvalid : c.toNat < 0xD800 ∨ (0xDFFF < c.toNat ∧ c.toNat < 0x110000) := c.valid
  have hchar : Char.ofNat c.toNat = c := Char.ofNat_toNat c
  rw [utf8EncodeChar_eq]
  split_ifs with h1 h2 h3
  · have hfirst : first (UInt8.ofNat c.toNat).toNat = (.start, [c]) := by
      rw [toNat_ofNat_of_lt (by omega), first, if_pos (by omega), hchar]
    exact ⟨(List.append_nil _).trans (congrArg Prod.snd hfirst), congrArg Prod.fst hfirst⟩
  · have h := @reads_two c.toNat (by omega) h2
    rw [hchar] at h
    exact h
  · have h := @reads_three c.toNat (by omega) h3 (by omega)
    rw [hchar] at h
    exact h
  · have h := @reads_four c.toNat (by omega) (by omega)
    rw [hchar] at h
    exact h

theorem reads_text (text : List Char) :
    Reads .start (text.flatMap String.utf8EncodeChar) text .start := by
  induction text with
  | nil => exact ⟨rfl, rfl⟩
  | cons c text ih =>
      obtain ⟨houtput, hstate⟩ := reads_encode c
      rw [List.flatMap_cons]
      refine ⟨?_, ?_⟩
      · rw [Transducer.output_append, houtput, hstate, ih.1]
        rfl
      · rw [Transducer.state_append, hstate, ih.2]

/-- **Decoding inverts encoding.** -/
theorem decode_flatMap (text : List Char) : decode (text.flatMap String.utf8EncodeChar) = text := by
  obtain ⟨houtput, hstate⟩ := reads_text text
  rw [decode_eq, houtput, hstate]
  exact List.append_nil text

/-- **Chunks of whole characters** are not split, nor is their last one. -/
theorem wholeSequences_text (texts : List (List Char)) :
    WholeSequences (texts.map fun text => text.flatMap String.utf8EncodeChar) := by
  induction texts with
  | nil => exact trivial
  | cons text texts ih =>
      refine ⟨?_, ih⟩
      rintro ⟨b, -, hb⟩
      rw [(reads_text text).2] at hb
      cases hb

/-! ## 5. Valid bytes -/

/-- **The bytes are the encoding of characters**: what a strict decoding accepts. -/
def Valid (l : List UInt8) : Prop := ∃ text : List Char, l = text.flatMap String.utf8EncodeChar

/-- Valid bytes are the encoding of their text. -/
theorem valid_iff : Valid l ↔ (decode l).flatMap String.utf8EncodeChar = l := by
  refine ⟨?_, fun h => ⟨_, h.symm⟩⟩
  rintro ⟨text, rfl⟩
  rw [decode_flatMap]

/-- Behind valid bytes the text goes on with that of the rest. -/
theorem decode_valid_append (h : Valid l) (rest : List UInt8) :
    decode (l ++ rest) = decode l ++ decode rest := by
  obtain ⟨text, rfl⟩ := h
  obtain ⟨houtput, hstate⟩ := reads_text text
  rw [decode_append, houtput, hstate, decode_flatMap]
  rfl

theorem Valid.append_iff (h : Valid l) (rest : List UInt8) : Valid (l ++ rest) ↔ Valid rest := by
  rw [valid_iff, valid_iff, decode_valid_append h, List.flatMap_append, valid_iff.mp h]
  exact List.append_right_inj l

theorem toNat_ofNat_char (h : v < 0xD800 ∨ (0xDFFF < v ∧ v < 0x110000)) :
    (Char.ofNat v).toNat = v := by
  unfold Char.ofNat
  rw [dif_pos h]
  rfl

/-- Inside a sequence, a text without replacements goes on with a continuation byte in its range. -/
theorem goes_on (h : replacement ∉ decoder.piece (.inside bits more r) l) :
    ∃ n rest, l = UInt8.ofNat (n + 0x80) :: rest ∧ n < 64 ∧
      (r.low ≤ n + 0x80 ∧ n + 0x80 ≤ r.high) ∧
      decoder.piece (.inside bits more r) l =
        (goOn bits more (n + 0x80)).2 ++ decoder.piece (goOn bits more (n + 0x80)).1 rest := by
  cases l with
  | nil => exact absurd List.mem_cons_self h
  | cons b l =>
      by_cases hb : r.holds b = true
      · obtain ⟨hlow, hhigh⟩ := of_decide_eq_true hb
        obtain ⟨hr, hr'⟩ := r.bounds
        have hbyte : b.toNat - 0x80 + 0x80 = b.toNat := by omega
        refine ⟨b.toNat - 0x80, l, ?_, by omega, by omega, ?_⟩
        · rw [hbyte, UInt8.ofNat_toNat]
        · have hstep : step (.inside bits more r) b = goOn bits more b.toNat := if_pos hb
          rw [piece_cons, hstep, hbyte]
      · have hstep : step (.inside bits more r) b =
            ((first b.toNat).1, replacement :: (first b.toNat).2) := if_neg hb
        rw [piece_cons, hstep] at h
        exact absurd List.mem_cons_self h

/-- A character of one size, from the bytes that spell it. -/
theorem encode_two {m n : Nat} (hm : 2 ≤ m) (hm' : m < 32) (hn : n < 64) :
    String.utf8EncodeChar (Char.ofNat (m * 64 + n)) =
      [UInt8.ofNat (m + 0xC0), UInt8.ofNat (n + 0x80)] := by
  have hv := @toNat_ofNat_char (m * 64 + n) (by omega)
  have h1 : (m * 64 + n) / 64 % 0x20 = m := by omega
  have h2 : (m * 64 + n) % 0x40 = n := by omega
  rw [utf8EncodeChar_eq, hv, if_neg (by omega), if_pos (by omega), h1, h2]

theorem encode_three {k m n : Nat} (hk : k < 16) (hm : m < 64) (hn : n < 64)
    (hlow : 0x800 ≤ (k * 64 + m) * 64 + n)
    (hscalar : (k * 64 + m) * 64 + n < 0xD800 ∨ 0xDFFF < (k * 64 + m) * 64 + n) :
    String.utf8EncodeChar (Char.ofNat ((k * 64 + m) * 64 + n)) =
      [UInt8.ofNat (k + 0xE0), UInt8.ofNat (m + 0x80), UInt8.ofNat (n + 0x80)] := by
  have hv := @toNat_ofNat_char ((k * 64 + m) * 64 + n) (by omega)
  have h1 : ((k * 64 + m) * 64 + n) / 4096 % 0x10 = k := by omega
  have h2 : ((k * 64 + m) * 64 + n) / 64 % 0x40 = m := by omega
  have h3 : ((k * 64 + m) * 64 + n) % 0x40 = n := by omega
  rw [utf8EncodeChar_eq, hv, if_neg (by omega), if_neg (by omega), if_pos (by omega), h1, h2, h3]

theorem encode_four {j k m n : Nat} (hk : k < 64) (hm : m < 64) (hn : n < 64)
    (hlow : 0x10000 ≤ ((j * 64 + k) * 64 + m) * 64 + n)
    (hhigh : ((j * 64 + k) * 64 + m) * 64 + n < 0x110000) :
    String.utf8EncodeChar (Char.ofNat (((j * 64 + k) * 64 + m) * 64 + n)) =
      [UInt8.ofNat (j + 0xF0), UInt8.ofNat (k + 0x80), UInt8.ofNat (m + 0x80),
        UInt8.ofNat (n + 0x80)] := by
  have hv := @toNat_ofNat_char (((j * 64 + k) * 64 + m) * 64 + n) (by omega)
  have h1 : (((j * 64 + k) * 64 + m) * 64 + n) / 262144 % 0x08 = j := by omega
  have h2 : (((j * 64 + k) * 64 + m) * 64 + n) / 4096 % 0x40 = k := by omega
  have h3 : (((j * 64 + k) * 64 + m) * 64 + n) / 64 % 0x40 = m := by omega
  have h4 : (((j * 64 + k) * 64 + m) * 64 + n) % 0x40 = n := by omega
  rw [utf8EncodeChar_eq, hv, if_neg (by omega), if_neg (by omega), if_neg (by omega), h1, h2, h3,
    h4]

/-- Three bytes, the first of them read; the range keeps overlong forms and surrogates out. -/
theorem char_of_three {k : Nat} (h : replacement ∉ decoder.piece (.inside k 1 r) l) (hk : k < 16)
    (hr : ∀ m, r.low ≤ m + 0x80 ∧ m + 0x80 ≤ r.high →
      0x20 ≤ k * 64 + m ∧ (k * 64 + m < 0x360 ∨ 0x37F < k * 64 + m)) :
    ∃ c rest, UInt8.ofNat (k + 0xE0) :: l = String.utf8EncodeChar c ++ rest ∧
      decoder.piece (.inside k 1 r) l = c :: decode rest := by
  obtain ⟨m, rest, rfl, hm, hrange, heq⟩ := goes_on h
  obtain ⟨hlow, hscalar⟩ := hr m hrange
  rw [heq, goOn, Nat.add_sub_cancel, List.nil_append] at h ⊢
  obtain ⟨n, rest, rfl, hn, -, heq⟩ := goes_on h
  refine ⟨Char.ofNat ((k * 64 + m) * 64 + n), rest, ?_, ?_⟩
  · rw [encode_three hk hm hn (by omega) (by omega)]
    rfl
  · rw [heq, goOn, Nat.add_sub_cancel]
    rfl

/-- Four bytes; the range keeps overlong forms and what is past U+10FFFF out. -/
theorem char_of_four {j : Nat} (h : replacement ∉ decoder.piece (.inside j 2 r) l)
    (hr : ∀ k, r.low ≤ k + 0x80 ∧ k + 0x80 ≤ r.high → 0x10 ≤ j * 64 + k ∧ j * 64 + k < 0x110) :
    ∃ c rest, UInt8.ofNat (j + 0xF0) :: l = String.utf8EncodeChar c ++ rest ∧
      decoder.piece (.inside j 2 r) l = c :: decode rest := by
  obtain ⟨k, rest, rfl, hk, hrange, heq⟩ := goes_on h
  obtain ⟨hlow, hhigh⟩ := hr k hrange
  rw [heq, goOn, Nat.add_sub_cancel, List.nil_append] at h ⊢
  obtain ⟨m, rest, rfl, hm, -, heq⟩ := goes_on h
  rw [heq, goOn, Nat.add_sub_cancel, List.nil_append] at h ⊢
  obtain ⟨n, rest, rfl, hn, -, heq⟩ := goes_on h
  refine ⟨Char.ofNat (((j * 64 + k) * 64 + m) * 64 + n), rest, ?_, ?_⟩
  · rw [encode_four hk hm hn (by omega) (by omega)]
    rfl
  · rw [heq, goOn, Nat.add_sub_cancel]
    rfl

/-- **The first character of a text without replacements** is spelt by the first bytes: one case a
    size, as `first` tells them apart. -/
theorem first_char {b : UInt8} (h : replacement ∉ decode (b :: l)) :
    ∃ c rest, b :: l = String.utf8EncodeChar c ++ rest ∧ decode (b :: l) = c :: decode rest := by
  have hb : b = UInt8.ofNat b.toNat := UInt8.ofNat_toNat.symm
  have hlt : b.toNat < 256 := b.toNat_lt
  have hpiece : decode (b :: l) = (first b.toNat).2 ++ decoder.piece (first b.toNat).1 l :=
    piece_cons .start b l
  have hlead : ∀ {m k : Nat}, k ≤ b.toNat → b.toNat - k = m → b = UInt8.ofNat (m + k) := by
    intro m k hk hm
    rw [← hm, Nat.sub_add_cancel hk, ← hb]
  rw [hpiece] at h ⊢
  unfold first at h ⊢
  by_cases h1 : b.toNat < 0x80
  · rw [if_pos h1] at h ⊢
    refine ⟨Char.ofNat b.toNat, l, ?_, rfl⟩
    rw [utf8EncodeChar_eq, toNat_ofNat_char (by omega), if_pos (by omega), ← hb]
    rfl
  rw [if_neg h1] at h ⊢
  by_cases h2 : b.toNat < 0xC2
  · rw [if_pos h2] at h
    exact absurd List.mem_cons_self h
  rw [if_neg h2] at h ⊢
  by_cases h3 : b.toNat < 0xE0
  · rw [if_pos h3] at h ⊢
    obtain ⟨n, rest, rfl, hn, -, heq⟩ := goes_on h
    refine ⟨Char.ofNat ((b.toNat - 0xC0) * 64 + n), rest, ?_, ?_⟩
    · rw [encode_two (by omega) (by omega) hn, ← hlead (by omega) rfl]
      rfl
    · rw [List.nil_append, heq, goOn, Nat.add_sub_cancel]
      rfl
  rw [if_neg h3] at h ⊢
  by_cases h4 : b.toNat < 0xF0
  · rw [if_pos h4] at h ⊢
    generalize hk : b.toNat - 0xE0 = k at h ⊢
    change replacement ∉ decoder.piece (.inside k 1 _) l at h
    have hchar := char_of_three h (by omega) fun m hm => ?_
    · rw [← hlead (by omega) hk] at hchar
      exact hchar
    split_ifs at hm
    · change 0xA0 ≤ m + 0x80 ∧ m + 0x80 ≤ 0xBF at hm
      omega
    · change 0x80 ≤ m + 0x80 ∧ m + 0x80 ≤ 0x9F at hm
      omega
    · change 0x80 ≤ m + 0x80 ∧ m + 0x80 ≤ 0xBF at hm
      omega
  rw [if_neg h4] at h ⊢
  by_cases h5 : b.toNat < 0xF5
  · rw [if_pos h5] at h ⊢
    generalize hj : b.toNat - 0xF0 = j at h ⊢
    change replacement ∉ decoder.piece (.inside j 2 _) l at h
    have hchar := char_of_four h fun k hk => ?_
    · rw [← hlead (by omega) hj] at hchar
      exact hchar
    split_ifs at hk
    · change 0x90 ≤ k + 0x80 ∧ k + 0x80 ≤ 0xBF at hk
      omega
    · change 0x80 ≤ k + 0x80 ∧ k + 0x80 ≤ 0x8F at hk
      omega
    · change 0x80 ≤ k + 0x80 ∧ k + 0x80 ≤ 0xBF at hk
      omega
  · rw [if_neg h5] at h
    exact absurd List.mem_cons_self h

/-- **A text without replacements is that of valid bytes.** -/
theorem valid_of_not_mem (h : replacement ∉ decode l) : Valid l := by
  induction hn : l.length using Nat.strongRecOn generalizing l with
  | _ n ih =>
      cases l with
      | nil => exact ⟨[], rfl⟩
      | cons b l =>
          obtain ⟨c, rest, hsplit, htext⟩ := first_char h
          have hshort : rest.length < n := by
            have hlength := congrArg List.length hsplit
            have hpos : 0 < (String.utf8EncodeChar c).length := by
              rw [utf8EncodeChar_eq]
              split_ifs <;> exact Nat.succ_pos _
            rw [List.length_append] at hlength
            omega
          rw [htext] at h
          obtain ⟨text, htail⟩ :=
            ih rest.length hshort (fun hmem => h (List.mem_cons_of_mem c hmem)) rfl
          refine ⟨c :: text, ?_⟩
          rw [hsplit, List.flatMap_cons, ← htail]

/-- ASCII is text without replacements. -/
theorem not_mem_decode_ascii (h : ∀ b ∈ l, b.toNat < 0x80) : replacement ∉ decode l := by
  induction l with
  | nil => exact List.not_mem_nil
  | cons b l ih =>
      obtain ⟨hb, hl⟩ := List.forall_mem_cons.mp h
      have hfirst : step .start b = (.start, [Char.ofNat b.toNat]) := by
        change first b.toNat = _
        rw [first, if_pos hb]
      have hchar : replacement ≠ Char.ofNat b.toNat := by
        intro heq
        have hnat := congrArg Char.toNat heq
        rw [toNat_ofNat_char (.inl (by omega))] at hnat
        have hvalue : replacement.toNat = 0xFFFD := rfl
        omega
      unfold decode
      rw [piece_cons, hfirst, List.mem_append, List.mem_singleton]
      exact fun hmem => hmem.elim hchar (ih hl)

end Encode

end Utf8
