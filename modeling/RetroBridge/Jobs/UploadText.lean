/-
  File:      RetroBridge/Jobs/UploadText.lean
  Subject:   WHAT validate_file_content SAYS OF A TEXT UPLOAD (retrobridge/jobs/utils.py:
             `validate_file_content`), and what the upload is.

  The docstring speaks of the content; the code reads the first `_MIN_UPLOAD_READ` bytes of it, and
  decodes them as if they were a text of their own.

  * `PlainText` -- the upload the docstring describes, over all of its bytes;
  * `validate_none_iff` -- what the checks accept: a first part that is such a text and decodes
    without U+FFFD;
  * `plainText_iff` -- a text is a text in front and goes on as one;
  * `TailUnread`, `HeaderMisread` -- the uploads the cut is wrong about;
  * `judged_whole_iff` -- **the verdict is that of the whole content exactly for the others**;
  * `null_byte_accepted` -- a null byte behind 1024 bytes of text.
-/
import RetroBridge.Jobs.Creation

namespace RetroBridge.Jobs.Creation

/-! ## 1. The text, and the verdict on its first part -/

/-- The first byte that is not white space, if there is one, is a colon. -/
def ColonFirst (content : List UInt8) : Prop := ∀ b ∈ (content.dropWhile isSpace).head?, b = 0x3A

/-- **A text upload** of the extension: not empty, of no rejected format, without null bytes, UTF-8,
    and a `hex` file begins with a colon. -/
structure PlainText (content : List UInt8) (ext : String) : Prop where
  nonempty : content ≠ []
  unsigned : ∀ entry ∈ rejectSignatures, hasSignature content entry = false
  noNull : 0 ∉ content
  valid : Utf8.Valid content
  colon : ext = "hex" → ColonFirst content

/-- `header`. -/
def header (content : List UInt8) : List UInt8 := content.take minUploadRead

/-- What `validate_file_content` does not read. -/
def unread (content : List UInt8) : List UInt8 := content.drop minUploadRead

theorem header_append_unread (content : List UInt8) : header content ++ unread content = content :=
  List.take_append_drop minUploadRead content

theorem header_eq_nil_iff {content : List UInt8} : header content = [] ↔ content = [] := by
  unfold header
  rw [List.take_eq_nil_iff]
  exact or_iff_right (by decide)

/-- A signature stands within the first six bytes. -/
theorem signature_within {entry : Nat × List UInt8 × String} (h : entry ∈ rejectSignatures) :
    entry.1 + entry.2.1.length ≤ 6 := by
  revert entry
  decide

theorem hasSignature_take {entry : Nat × List UInt8 × String} (h : entry ∈ rejectSignatures)
    {n : Nat} (hn : 6 ≤ n) (content : List UInt8) :
    hasSignature (content.take n) entry = hasSignature content entry := by
  have hwithin := signature_within h
  have hlength : entry.1 + entry.2.1.length ≤ (content.take n).length ↔
      entry.1 + entry.2.1.length ≤ content.length := by
    rw [List.length_take]
    omega
  have hbytes : ((content.take n).drop entry.1).take entry.2.1.length =
      (content.drop entry.1).take entry.2.1.length := by
    rw [List.drop_take, List.take_take, Nat.min_eq_left (by omega)]
  unfold hasSignature
  rw [hbytes, decide_eq_decide.mpr hlength]

theorem hasSignature_header {entry : Nat × List UInt8 × String} (h : entry ∈ rejectSignatures)
    (content : List UInt8) : hasSignature (header content) entry = hasSignature content entry :=
  hasSignature_take h (by decide) content

theorem colonFirst_iff {content : List UInt8} :
    ColonFirst content ↔ ¬(content.dropWhile isSpace).head?.any (· ≠ 0x3A) = true := by
  unfold ColonFirst
  cases (content.dropWhile isSpace).head? with
  | none => simp
  | some b => simp

/-- The two readings of the header as text, ASCII or UTF-8 with replacements, differ in nothing. -/
theorem replaced_iff (bytes : List UInt8) :
    (bytes.any (fun b => decide (0x80 ≤ b)) ∧ Utf8.replacement ∈ Utf8.decode bytes) ↔
      Utf8.replacement ∈ Utf8.decode bytes := by
  refine and_iff_right_of_imp fun hmem => ?_
  by_contra hascii
  refine Utf8.not_mem_decode_ascii (fun b hb => ?_) hmem
  by_contra hhigh
  refine hascii (List.any_eq_true.mpr ⟨b, hb, decide_eq_true ?_⟩)
  exact UInt8.le_iff_toNat_le.mpr (Nat.le_of_not_lt hhigh)

theorem textRefusal_none_iff {bytes : List UInt8} {ext : String} :
    textRefusal bytes ext = none ↔
      0 ∉ bytes ∧ Utf8.replacement ∉ Utf8.decode bytes ∧ (ext = "hex" → ColonFirst bytes) := by
  unfold textRefusal
  rw [colonFirst_iff]
  split_ifs with hnull hbad hhex
  · exact iff_of_false nofun fun h => h.1 hnull
  · exact iff_of_false nofun fun h => h.2.1 hbad.2
  · exact iff_of_false nofun fun h => h.2.2 hhex.1 hhex.2
  · rw [replaced_iff] at hbad
    exact iff_of_true rfl ⟨hnull, hbad, fun hext hany => hhex ⟨hext, hany⟩⟩

theorem allowed_of_text {ext : String} (h : ext ∈ textExtensions) : ext ∈ allowedExtensions := by
  revert ext
  decide

/-- **What the checks accept of a file named as text.** -/
theorem validate_none_iff {filename : String} (h : fileExtension filename ∈ textExtensions)
    (content : List UInt8) :
    validateFileContent true content filename = none ↔
      PlainText (header content) (fileExtension filename) ∧
        Utf8.replacement ∉ Utf8.decode (header content) := by
  have hheader : content.take minUploadRead = header content := rfl
  unfold validateFileContent
  rw [if_neg (not_not.mpr (allowed_of_text h)), if_neg (by decide)]
  simp only [hheader, if_pos h]
  by_cases hempty : header content = []
  · rw [if_pos hempty]
    exact iff_of_false nofun fun hp => hp.1.nonempty hempty
  rw [if_neg hempty]
  cases hfind : rejectSignatures.find? (hasSignature (header content)) with
  | some entry =>
      have hsigned := List.find?_some hfind
      have hmem := List.mem_of_find?_eq_some hfind
      exact iff_of_false (Option.some_ne_none _) fun hp =>
        Bool.false_ne_true ((hp.1.unsigned entry hmem).symm.trans hsigned)
  | none =>
      have hunsigned : ∀ entry ∈ rejectSignatures, hasSignature (header content) entry = false :=
        fun entry hmem => Bool.eq_false_iff.mpr (List.find?_eq_none.mp hfind entry hmem)
      rw [textRefusal_none_iff]
      constructor
      · rintro ⟨hnull, htext, hcolon⟩
        exact ⟨⟨hempty, hunsigned, hnull, Utf8.valid_of_not_mem htext, hcolon⟩, htext⟩
      · rintro ⟨hp, htext⟩
        exact ⟨hp.noNull, htext, hp.colon⟩

/-! ## 2. The whole content -/

/-- The part behind the header goes on with the text. -/
structure TextGoesOn (content : List UInt8) (ext : String) : Prop where
  noNull : 0 ∉ unread content
  valid : Utf8.Valid (unread content)
  colon : ext = "hex" → (header content).all isSpace → ColonFirst (unread content)

theorem colonFirst_append {front rest : List UInt8} :
    ColonFirst (front ++ rest) ↔ ColonFirst front ∧ (front.all isSpace → ColonFirst rest) := by
  unfold ColonFirst
  induction front with
  | nil => simp
  | cons b front ih =>
      cases hb : isSpace b with
      | true => simpa [hb] using ih
      | false => simp [hb]

/-- **A text is a text in front that goes on as one**, where the cut splits no character. -/
theorem plainText_iff {content : List UInt8} {ext : String} (h : Utf8.Valid (header content)) :
    PlainText content ext ↔ PlainText (header content) ext ∧ TextGoesOn content ext := by
  have hvalid := h.append_iff (unread content)
  have hcolon := @colonFirst_append (header content) (unread content)
  have hnull : 0 ∈ header content ++ unread content ↔ _ := List.mem_append
  rw [header_append_unread] at hvalid hcolon hnull
  constructor
  · intro hp
    refine ⟨⟨mt header_eq_nil_iff.mp hp.nonempty, fun entry hmem => ?_, ?_, h, ?_⟩, ⟨?_, ?_, ?_⟩⟩
    · rw [hasSignature_header hmem]
      exact hp.unsigned entry hmem
    · exact fun hmem => hp.noNull (hnull.mpr (.inl hmem))
    · exact fun hext => (hcolon.mp (hp.colon hext)).1
    · exact fun hmem => hp.noNull (hnull.mpr (.inr hmem))
    · exact hvalid.mp hp.valid
    · exact fun hext => (hcolon.mp (hp.colon hext)).2
  · rintro ⟨hp, hrest⟩
    refine ⟨mt header_eq_nil_iff.mpr hp.nonempty, fun entry hmem => ?_, ?_, ?_, ?_⟩
    · rw [← hasSignature_header hmem]
      exact hp.unsigned entry hmem
    · exact fun hmem => (hnull.mp hmem).elim hp.noNull hrest.noNull
    · exact hvalid.mpr hrest.valid
    · exact fun hext => hcolon.mpr ⟨hp.colon hext, hrest.colon hext⟩

/-- The header passes and the part behind it, which is not read, is no text. -/
def TailUnread (content : List UInt8) (ext : String) : Prop :=
  PlainText (header content) ext ∧ Utf8.replacement ∉ Utf8.decode (header content) ∧
    ¬TextGoesOn content ext

/-- The content is a text, and decoding its header gives U+FFFD: a character the cut splits, or one
    of the text. -/
def HeaderMisread (content : List UInt8) (ext : String) : Prop :=
  PlainText content ext ∧ Utf8.replacement ∈ Utf8.decode (header content)

/-- **The verdict is that of the whole content exactly where no part of it is unread or
    misread.** -/
theorem judged_whole_iff (content : List UInt8) (filename : String)
    (h : fileExtension filename ∈ textExtensions) :
    (validateFileContent true content filename = none ↔
        PlainText content (fileExtension filename)) ↔
      ¬TailUnread content (fileExtension filename) ∧
        ¬HeaderMisread content (fileExtension filename) := by
  rw [validate_none_iff h]
  unfold TailUnread HeaderMisread
  by_cases hbad : Utf8.replacement ∈ Utf8.decode (header content)
  · tauto
  · rw [plainText_iff (Utf8.valid_of_not_mem hbad)]
    tauto

theorem judged_whole_small :
    fileExtension "a.txt" ∈ textExtensions ∧
      ((validateFileContent true [0x61] "a.txt" = none ↔ PlainText [0x61] (fileExtension "a.txt")) ↔
        ¬TailUnread [0x61] (fileExtension "a.txt") ∧
          ¬HeaderMisread [0x61] (fileExtension "a.txt")) :=
  ⟨by decide, judged_whole_iff [0x61] "a.txt" (by decide)⟩

/-- **1024 bytes of text, then a null byte**: accepted. -/
theorem null_byte_accepted :
    fileExtension "a.txt" ∈ textExtensions ∧
      validateFileContent true (List.replicate 1024 0x61 ++ [0]) "a.txt" = none ∧
      ¬PlainText (List.replicate 1024 0x61 ++ [0]) (fileExtension "a.txt") := by
  have hheader : header (List.replicate 1024 0x61 ++ [0]) = List.replicate 1024 0x61 :=
    List.take_left' List.length_replicate
  have htext : Utf8.replacement ∉ Utf8.decode (List.replicate 1024 0x61) :=
    Utf8.not_mem_decode_ascii fun b hb => by rw [List.eq_of_mem_replicate hb]; decide
  have hsign : ∀ entry ∈ rejectSignatures,
      hasSignature (List.replicate 1024 0x61) entry = false := by
    intro entry hmem
    rw [← hasSignature_take hmem (Nat.le_refl 6), List.take_replicate]
    revert entry
    decide
  refine ⟨by decide, (validate_none_iff (by decide) _).mpr ?_, fun hp => ?_⟩
  · rw [hheader]
    refine ⟨⟨nofun, hsign, fun hmem => ?_, Utf8.valid_of_not_mem htext, ?_⟩, htext⟩
    · exact absurd (List.eq_of_mem_replicate hmem) (by decide)
    · exact fun hext => absurd hext (by decide)
  · exact hp.noNull (List.mem_append_right _ List.mem_cons_self)

end RetroBridge.Jobs.Creation
