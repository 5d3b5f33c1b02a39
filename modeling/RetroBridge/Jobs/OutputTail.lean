/-
  File:      RetroBridge/Jobs/OutputTail.lean
  Subject:   THE TAIL OF AN OUTPUT FILE (retrobridge/jobs/utils.py: `read_output_tail`).

  * `readOutputTail` -- the two readers: the whole file in text mode, or its last blocks;
  * `readBlocks_spec` -- the blocks read are an end of the file, and where they are not all of it
    they hold more line ends than lines are asked for;
  * `linesOf_lf` -- what stands before an LF byte changes none of the lines after it;
  * `tail_agrees` -- **the tail is the end of what the full reader returns.**
-/
import RetroBridge.Library.TextFile
import Mathlib.Data.List.DropRight
import Mathlib.Algebra.Order.Group.Int

namespace RetroBridge.Jobs.Tail

open TextFiles

/-! ## 1. The readers -/

/-- `block`. -/
def block : Nat := 8192

/-- The loop over the blocks, from the end of the file: where it stops, and the chunks in the order
    of the file. -/
def readBlocks (content : List UInt8) (tail : Int) (pos newlines : Nat)
    (chunks : List (List UInt8)) : Nat × List (List UInt8) :=
  if 0 < pos ∧ (newlines : Int) ≤ tail then
    let step := min block pos
    let chunk := (content.drop (pos - step)).take step
    readBlocks content tail (pos - step) (newlines + chunk.count 0x0A) (chunk :: chunks)
  else (pos, chunks)
  termination_by pos
  decreasing_by
    have hblock : 0 < block := by decide
    omega

/-- `lines[-tail:]` where there are more. -/
def lastLines (tail : Int) (lines : List (List Char)) : List (List Char) :=
  if tail < lines.length then lines.rtake tail.toNat else lines

/-- The lines of the blocks: the first is dropped where the blocks begin inside the file. -/
def linesOfBlocks (pos : Nat) (data : List UInt8) (tail : Int) : List (List Char) :=
  let decoded := replaceAll ['\r'] ['\n'] (replaceAll ['\r', '\n'] ['\n'] (Utf8.decode data))
  let pieces := decoded.splitOn '\n'
  let whole := if 0 < pos then pieces.tail else pieces
  let lines :=
    if whole.getLast? = some [] ∧ decoded.getLast? = some '\n' then whole.dropLast else whole
  (lastLines tail lines).map rstrip

/-- **`read_output_tail`**; there is no content where the file is not found. -/
def readOutputTail (content : Option (List UInt8)) (tail : Option Int) : List (List Char) :=
  match content with
  | none => []
  | some content =>
    match tail with
    | none => (iterate (text content)).map rstrip
    | some tail =>
      if tail < 1 then (iterate (text content)).map rstrip
      else if content.length = 0 then []
      else
        let read := readBlocks content tail content.length 0 []
        linesOfBlocks read.1 read.2.flatten tail

/-! ## 2. The blocks -/

/-- **What the loop has read**: an end of the file, with more than `tail` line ends unless it is all
    of it. -/
theorem readBlocks_spec (content : List UInt8) (tail : Int) (pos newlines : Nat)
    (chunks : List (List UInt8)) (hdata : chunks.flatten = content.drop pos)
    (hcount : newlines = chunks.flatten.count 0x0A) (hpos : pos ≤ content.length) :
    ∃ p data, readBlocks content tail pos newlines chunks = (p, data) ∧
      data.flatten = content.drop p ∧ p ≤ content.length ∧
      (0 < p → tail < (content.drop p).count 0x0A) := by
  induction pos, newlines, chunks using readBlocks.induct content tail with
  | case1 pos newlines chunks hgo step chunk ih =>
      rw [readBlocks, if_pos hgo]
      have hsplit : chunk ++ content.drop pos = content.drop (pos - step) := by
        have hrest : content.drop pos = (content.drop (pos - step)).drop step := by
          rw [List.drop_drop]
          congr 1
          omega
        rw [hrest, List.take_append_drop]
      have hall : (chunk :: chunks).flatten = content.drop (pos - step) := by
        rw [List.flatten_cons, hdata, hsplit]
      refine ih hall ?_ (by omega)
      rw [List.flatten_cons, List.count_append, hcount]
      exact Nat.add_comm _ _
  | case2 pos newlines chunks hstop =>
      rw [readBlocks, if_neg hstop]
      refine ⟨pos, chunks, rfl, hdata, hpos, fun h => ?_⟩
      rw [← hdata, ← hcount]
      exact not_le.mp fun hle => hstop ⟨h, hle⟩

/-! ## 3. The lines -/

/-- The lines the full reader returns. -/
def linesOf (t : List Char) : List (List Char) := dropBlankEnd (t.splitOn '\n')

/-- **Before an LF byte**: pieces that the bytes before it decide alone, after it the lines of the
    rest. -/
theorem linesOf_lf (x : List UInt8) : ∃ k ks, ∀ v,
    (text (x ++ 0x0A :: v)).splitOn '\n' = k :: ks ++ (text v).splitOn '\n' := by
  obtain ⟨x', h⟩ := text_lf x
  cases hs : x'.splitOn '\n' with
  | nil => exact absurd hs (List.splitOn_ne_nil '\n' x')
  | cons k ks =>
      refine ⟨k, ks, fun v => ?_⟩
      rw [h, List.splitOn_append_cons_self, hs]

/-- A text with `n` line ends has at least `n` lines. -/
theorem count_le_linesOf (t : List Char) : t.count '\n' ≤ (linesOf t).length := by
  have hpieces : ∀ t : List Char, (t.splitOn '\n').length = t.count '\n' + 1 := by
    intro t
    induction t with
    | nil => rfl
    | cons c t ih =>
        rw [List.splitOn_cons_eq_if_modifyHead, List.count_cons]
        by_cases hc : (c == '\n') = true
        · rw [if_pos hc, if_pos hc, List.length_cons, ih]
        · rw [if_neg hc, if_neg hc, List.length_modifyHead, ih]
  have hcount := hpieces t
  unfold linesOf dropBlankEnd
  split_ifs
  · rw [List.length_dropLast, hcount]
    exact Nat.le_refl _
  · rw [hcount]
    exact Nat.le_succ _

/-- The end of a list is the end of any end that is long enough. -/
theorem rtake_append_of_le {α : Type*} {n : Nat} {ks : List α} (h : n ≤ ks.length) (ls : List α) :
    (ls ++ ks).rtake n = ks.rtake n := by
  rw [List.rtake, List.rtake, List.length_append, List.drop_append,
    List.drop_eq_nil_of_le (by omega), List.nil_append]
  congr 1
  omega

theorem lastLines_eq (tail : Int) (h : 0 ≤ tail) (lines : List (List Char)) :
    lastLines tail lines = lines.rtake tail.toNat := by
  unfold lastLines
  split_ifs with hlong
  · rfl
  · rw [List.rtake, Nat.sub_eq_zero_of_le (by omega), List.drop_zero]

/-- The lines of a text have no line ends. -/
theorem map_rstrip_linesOf {ls : List (List Char)} (h : ∀ l ∈ ls, '\n' ∉ l) : ls.map rstrip = ls :=
  (List.map_congr_left fun l hl => rstrip_of_not_mem (h l hl)).trans (List.map_id' ls)

/-- **The lines of the blocks**: the pieces, without the first where it may be cut, and without an
    empty last one. -/
theorem linesOfBlocks_eq {pos : Nat} {data : List UInt8} {tail : Int} (h0 : 0 ≤ tail)
    (hdata : data ≠ []) (hmany : 0 < pos → ((text data).splitOn '\n').tail ≠ []) :
    linesOfBlocks pos data tail = (dropBlankEnd (if 0 < pos then ((text data).splitOn '\n').tail
      else (text data).splitOn '\n')).rtake tail.toNat := by
  have hdecoded : replaceAll ['\r'] ['\n'] (replaceAll ['\r', '\n'] ['\n'] (Utf8.decode data)) =
      text data := replaceAll_newlines _
  have hend := getLast?_splitOn (text_ne_nil hdata)
  unfold linesOfBlocks
  simp only [hdecoded]
  generalize hw : (if 0 < pos then ((text data).splitOn '\n').tail else (text data).splitOn '\n') =
    whole
  have hlast : whole.getLast? = ((text data).splitOn '\n').getLast? := by
    rw [← hw]
    split_ifs with hpos
    · have hne := hmany hpos
      cases hs : (text data).splitOn '\n' with
      | nil => rfl
      | cons k ks =>
          rw [hs] at hne
          cases ks with
          | nil => exact absurd rfl hne
          | cons k' ks => rw [List.tail_cons, List.getLast?_cons_cons]
    · rfl
  have hcond : whole.getLast? = some [] ∧ (text data).getLast? = some '\n' ↔
      whole.getLast? = some [] := by
    rw [hlast, hend, and_self]
  have hdrop : (if whole.getLast? = some [] ∧ (text data).getLast? = some '\n' then whole.dropLast
      else whole) = dropBlankEnd whole := if_congr hcond rfl rfl
  have hclean : ∀ l ∈ dropBlankEnd whole, '\n' ∉ l := by
    intro l hl
    have hpiece : l ∈ whole := by
      unfold dropBlankEnd at hl
      split_ifs at hl
      · exact (List.dropLast_subset whole) hl
      · exact hl
    rw [← hw] at hpiece
    split_ifs at hpiece
    · exact not_mem_splitOn l (List.mem_of_mem_tail hpiece)
    · exact not_mem_splitOn l hpiece
  rw [hdrop, lastLines_eq tail h0]
  exact map_rstrip_linesOf fun l hl => hclean l (List.mem_of_mem_drop hl)

/-- **Blocks that begin inside the file**: the lines after their first LF are enough, and what
    stands before it in the blocks and in the file does not matter. -/
theorem linesOfBlocks_inside {content : List UInt8} {p : Nat} {n : Int} (hn : 1 ≤ n) (hpos : 0 < p)
    (hmany : n < (content.drop p).count 0x0A) :
    linesOfBlocks p (content.drop p) n = (linesOf (text content)).rtake n.toNat := by
  have hmem : (0x0A : UInt8) ∈ content.drop p := List.count_pos_iff.mp (by omega)
  obtain ⟨u, v, hsplit, hu⟩ := List.eq_append_cons_of_mem hmem
  have hcontent : content = (content.take p ++ u) ++ 0x0A :: v := by
    rw [List.append_assoc, ← hsplit, List.take_append_drop]
  obtain ⟨k, ks, hblocks⟩ := linesOf_lf u
  obtain ⟨k', ks', hwhole⟩ := linesOf_lf (content.take p ++ u)
  have hv : n.toNat ≤ (linesOf (text v)).length := by
    rw [hsplit, List.count_append, List.count_eq_zero.mpr hu, List.count_cons_self] at hmany
    have hlines := count_le_linesOf (text v)
    have hbytes := count_lf_le v
    omega
  have hne : (text v).splitOn '\n' ≠ [] := List.splitOn_ne_nil '\n' (text v)
  have hrest : (k :: ks ++ (text v).splitOn '\n').tail = ks ++ (text v).splitOn '\n' := rfl
  rw [linesOfBlocks_eq (by omega) (List.ne_nil_of_mem hmem) ?_, if_pos hpos, hsplit, hblocks,
    hrest, dropBlankEnd_append ks hne]
  · rw [linesOf, hcontent, hwhole, dropBlankEnd_append _ hne]
    exact (rtake_append_of_le hv ks).trans (rtake_append_of_le hv (k' :: ks')).symm
  · intro _
    rw [hsplit, hblocks, hrest]
    exact List.append_ne_nil_of_right_ne_nil ks hne

/-- **THE TAIL READER AGREES WITH THE FULL READER**, for every content and every number of
    lines. -/
theorem tail_agrees (content : Option (List UInt8)) (n : Int) (hn : 1 ≤ n) :
    readOutputTail content (some n) = (readOutputTail content none).rtake n.toNat := by
  cases content with
  | none => exact (List.rtake_nil _).symm
  | some content =>
      have hfull : readOutputTail (some content) none = linesOf (text content) :=
        iterate_rstrip (text content)
      have htail : readOutputTail (some content) (some n) =
          if content.length = 0 then [] else
            linesOfBlocks (readBlocks content n content.length 0 []).1
              (readBlocks content n content.length 0 []).2.flatten n := if_neg (by omega)
      rw [hfull, htail]
      by_cases hempty : content.length = 0
      · rw [if_pos hempty, List.eq_nil_of_length_eq_zero hempty]
        exact (List.rtake_nil _).symm
      rw [if_neg hempty]
      obtain ⟨p, data, hread, hdata, hp, hmany⟩ := readBlocks_spec content n content.length 0 []
        (List.drop_length).symm rfl (Nat.le_refl _)
      rw [hread, hdata]
      by_cases hpos : 0 < p
      · exact linesOfBlocks_inside hn hpos (hmany hpos)
      · -- the blocks are all of the file
        have hzero : p = 0 := by omega
        have hcontent : content ≠ [] := fun e => hempty (congrArg List.length e)
        have hno : ¬0 < 0 := Nat.lt_irrefl 0
        rw [hzero, List.drop_zero]
        rw [linesOfBlocks_eq (by omega) hcontent (fun h => absurd h hno), if_neg hno]
        rfl

/-- The last two lines of three, where a CR LF pair and a CR end the first two. -/
theorem tail_agrees_small :
    readOutputTail (some [0x61, 0x0D, 0x0A, 0x62, 0x0D, 0x63]) (some 2) = [['b'], ['c']] :=
  (tail_agrees _ 2 (by decide)).trans (by decide)

end RetroBridge.Jobs.Tail
