/-
  File:      RetroBridge/Library/ServerSent.lean
  Subject:   SERVER-SENT EVENTS: the text of an event stream, and what a browser's `EventSource`
             makes of it, however it arrives in pieces.

  * `Message`, `State`, `endLine` -- a message, and the reader line by line: LF, CR and CRLF end a
    line, an empty one dispatches;
  * `reader` -- the reader, character by character;
  * `Block` -- an event with its type and one line of data, or a comment;
  * `pieces_blocks` -- **the blocks of a stream are read back**, however it is cut.

  The fields `id` and `retry`, which set no part of a message, are passed over as unknown ones are.
-/
import RetroBridge.Library.Transducer

namespace ServerSent

open Piecewise

/-! ## 1. The reader -/

/-- **A message**: the type of its event, and its data. -/
structure Message where
  type : List Char
  data : List Char
  deriving DecidableEq, Repr

/-- The line that is being read, whether the last character was a CR, and the two buffers. -/
structure State where
  line : List Char
  afterCr : Bool
  type : List Char
  data : List Char
  deriving DecidableEq, Repr

/-- Nothing is buffered. -/
def start : State := ⟨[], false, [], []⟩

/-- A line's field name, and its value without the space behind the colon. -/
def splitField (line : List Char) : List Char × List Char :=
  let name := line.takeWhile fun c => c ≠ ':'
  let value := line.drop (name.length + 1)
  (name, if value.head? = some ' ' then value.tail else value)

/-- The field is processed. -/
def processField (q : State) (f : List Char × List Char) : State :=
  if f.1 = ['e', 'v', 'e', 'n', 't'] then { q with type := f.2 }
  else if f.1 = ['d', 'a', 't', 'a'] then { q with data := q.data ++ f.2 ++ ['\n'] }
  else q

/-- What an empty line dispatches. -/
def dispatched (q : State) : List Message :=
  if q.data = [] then []
  else [⟨if q.type = [] then ['m', 'e', 's', 's', 'a', 'g', 'e'] else q.type, q.data.dropLast⟩]

/-- **A line is over.** -/
def endLine (q : State) : State :=
  if q.line = [] then start
  else if q.line.head? = some ':' then { q with line := [] }
  else processField { q with line := [] } (splitField q.line)

/-- The character ends a line; behind a CR, a LF belongs to the same end. -/
def endsLine (q : State) (c : Char) : Bool := c = '\r' || (c = '\n' && !q.afterCr)

/-- **The reader.** A piece that ends changes nothing. -/
def reader : Transducer State Char Message where
  next q c :=
    if endsLine q c then { endLine q with afterCr := c = '\r' }
    else if c = '\n' then { q with afterCr := false }
    else { q with line := q.line ++ [c], afterCr := false }
  emit q c := if endsLine q c && q.line.isEmpty then dispatched q else []
  cut q := q
  flush _ := []

theorem reader_seamless (q : State) : reader.Seamless q := ⟨rfl, rfl⟩

theorem reader_seamlessCuts (q : State) (ls : List (List Char)) : reader.SeamlessCuts q ls := by
  induction ls generalizing q with
  | nil => exact trivial
  | cons l ls ih => exact ⟨reader_seamless _, ih _⟩

/-- **The cuts of a stream change nothing.** -/
theorem reader_pieces (q : State) (ls : List (List Char)) :
    reader.pieces q ls = reader.output q ls.flatten := (reader_seamlessCuts q ls).pieces

/-! ## 2. Blocks -/

/-- **A block of a stream**: an event with one line of data, or a comment. -/
inductive Block where
  | event (type data : List Char)
  | comment (text : List Char)
  deriving DecidableEq, Repr

/-- The lines of a block. -/
def Block.text : Block → List Char
  | .event type data =>
    ['e', 'v', 'e', 'n', 't', ':', ' '] ++ type ++ '\n' ::
      (['d', 'a', 't', 'a', ':', ' '] ++ data ++ ['\n', '\n'])
  | .comment text => ':' :: (text ++ ['\n', '\n'])

def Block.message? : Block → Option Message
  | .event type data => some ⟨type, data⟩
  | .comment _ => none

/-- The text is one line. -/
def OneLine (t : List Char) : Prop := ∀ c ∈ t, c ≠ '\n' ∧ c ≠ '\r'

theorem oneLine_of_all {t : List Char} (h : (t.all fun c => c ≠ '\n' && c ≠ '\r') = true) :
    OneLine t := fun c hc => by
  simpa using List.all_eq_true.mp h c hc

/-- Lines that stay lines, and a type that is not empty. -/
def Block.Plain : Block → Prop
  | .event type data => type ≠ [] ∧ OneLine type ∧ OneLine data
  | .comment text => OneLine text

/-! ## 3. Blocks, read back -/

section Reading

variable {q : State} {l : List Char}

/-- The characters of a line. -/
theorem read_line (h : OneLine l) :
    reader.state q l = { q with line := q.line ++ l, afterCr := q.afterCr && l.isEmpty } ∧
      reader.output q l = [] := by
  induction l generalizing q with
  | nil =>
      rw [Transducer.state_nil, List.append_nil, List.isEmpty_nil, Bool.and_true]
      exact ⟨rfl, rfl⟩
  | cons c l ih =>
      obtain ⟨hlf, hcr⟩ := h c List.mem_cons_self
      have hends : endsLine q c = false := by simp [endsLine, hlf, hcr]
      have hnext : reader.next q c = { q with line := q.line ++ [c], afterCr := false } := by
        simp [reader, hends, hlf]
      have hemit : reader.emit q c = [] := by simp [reader, hends]
      obtain ⟨hstate, hout⟩ := @ih (reader.next q c) fun d hd => h d (List.mem_cons_of_mem c hd)
      rw [Transducer.state_cons, Transducer.output_cons, hstate, hout, hemit, hnext]
      simp

/-- The end of a line, by a LF. -/
theorem read_lf (h : q.afterCr = false) :
    reader.next q '\n' = { endLine q with afterCr := false } ∧
      reader.emit q '\n' = if q.line = [] then dispatched q else [] := by
  simp [reader, endsLine, h]

/-- **A line of a field**, from a reader at the start of a line. -/
theorem read_field {name value : List Char} (hq : q.line = [] ∧ q.afterCr = false)
    (hname : name ≠ [] ∧ OneLine name ∧ ':' ∉ name) (hvalue : OneLine value) :
    reader.state q (name ++ [':', ' '] ++ value ++ ['\n']) =
        { processField q (name, value) with afterCr := false } ∧
      reader.output q (name ++ [':', ' '] ++ value ++ ['\n']) = [] := by
  have hline : OneLine (name ++ [':', ' '] ++ value) := by
    intro c hc
    rcases List.mem_append.mp hc with hc | hc
    · rcases List.mem_append.mp hc with hc | hc
      · exact hname.2.1 c hc
      · exact oneLine_of_all (by decide) c hc
    · exact hvalue c hc
  have htake : (name ++ [':', ' '] ++ value).takeWhile (fun c => c ≠ ':') = name := by
    rw [List.append_assoc, List.takeWhile_append_of_pos]
    · exact List.append_nil name
    · exact fun c hc => decide_eq_true fun he => hname.2.2 (he ▸ hc)
  have hsplit : splitField (name ++ [':', ' '] ++ value) = (name, value) := by
    have hdrop : (name ++ [':', ' '] ++ value).drop (name.length + 1) = ' ' :: value := by
      simp
    rw [splitField, htake, hdrop]
    rfl
  have hhead : (name ++ [':', ' '] ++ value).head? ≠ some ':' := by
    cases hn : name with
    | nil => exact absurd hn hname.1
    | cons c cs =>
        rw [List.cons_append, List.cons_append, List.head?_cons]
        rintro ⟨⟩
        rw [hn] at hname
        exact hname.2.2 List.mem_cons_self
  have hne : name ++ [':', ' '] ++ value ≠ [] := by simp
  obtain ⟨hstate, hout⟩ := @read_line q _ hline
  rw [Transducer.state_append, Transducer.output_append, hstate, hout, hq.1, hq.2]
  obtain ⟨hnext, hemit⟩ := @read_lf ⟨name ++ [':', ' '] ++ value, false, q.type, q.data⟩ rfl
  refine ⟨?_, ?_⟩
  · show reader.next ⟨name ++ [':', ' '] ++ value, false, q.type, q.data⟩ '\n' = _
    rw [hnext, endLine, if_neg hne, if_neg hhead, hsplit]
    obtain ⟨line, afterCr, type, data⟩ := q
    obtain ⟨rfl, rfl⟩ := hq
    rfl
  · show reader.emit ⟨name ++ [':', ' '] ++ value, false, q.type, q.data⟩ '\n' ++ [] = _
    rw [hemit, if_neg hne]
    rfl

/-- **A block, read back** from the start of a block. -/
theorem read_block {b : Block} (h : b.Plain) :
    reader.state start b.text = start ∧ reader.output start b.text = b.message?.toList := by
  cases b with
  | comment text =>
      have hline : OneLine (':' :: text) := by
        intro c hc
        rcases List.mem_cons.mp hc with rfl | hc
        · decide
        · exact h c hc
      obtain ⟨hstate, hout⟩ := @read_line start _ hline
      show reader.state start (':' :: text ++ ['\n', '\n']) = start ∧
        reader.output start (':' :: text ++ ['\n', '\n']) = []
      rw [Transducer.state_append, Transducer.output_append, hstate, hout]
      exact ⟨rfl, rfl⟩
  | event type data =>
      obtain ⟨hne, htype, hdata⟩ := h
      obtain ⟨hstate, hout⟩ := @read_field start ['e', 'v', 'e', 'n', 't'] type ⟨rfl, rfl⟩
        ⟨by decide, oneLine_of_all (by decide), by decide⟩ htype
      obtain ⟨hstate', hout'⟩ := @read_field ⟨[], false, type, []⟩ ['d', 'a', 't', 'a'] data
        ⟨rfl, rfl⟩ ⟨by decide, oneLine_of_all (by decide), by decide⟩ hdata
      have htext : (Block.event type data).text =
          (['e', 'v', 'e', 'n', 't'] ++ [':', ' '] ++ type ++ ['\n']) ++
            ((['d', 'a', 't', 'a'] ++ [':', ' '] ++ data ++ ['\n']) ++ ['\n']) := by
        simp [Block.text]
      have hmid : (⟨[], false, type, []⟩ : State) =
          { processField start (['e', 'v', 'e', 'n', 't'], type) with afterCr := false } := rfl
      rw [htext, Transducer.state_append, Transducer.output_append, hstate, hout, ← hmid,
        Transducer.state_append, Transducer.output_append, hstate', hout']
      refine ⟨rfl, ?_⟩
      show reader.emit ⟨[], false, type, [] ++ data ++ ['\n']⟩ '\n' ++ [] = [⟨type, data⟩]
      obtain ⟨-, hemit⟩ := @read_lf ⟨[], false, type, [] ++ data ++ ['\n']⟩ rfl
      rw [hemit, if_pos rfl, dispatched, if_neg (by simp), if_neg hne]
      simp

/-- **THE BLOCKS OF A STREAM ARE READ BACK**, however it is cut into pieces. -/
theorem pieces_blocks {bs : List Block} (h : ∀ b ∈ bs, b.Plain) {ls : List (List Char)}
    (hls : ls.flatten = bs.flatMap Block.text) :
    reader.pieces start ls = bs.filterMap Block.message? := by
  have hread : reader.state start (bs.flatMap Block.text) = start ∧
      reader.output start (bs.flatMap Block.text) = bs.filterMap Block.message? := by
    clear hls
    induction bs with
    | nil => exact ⟨rfl, rfl⟩
    | cons b bs ih =>
        obtain ⟨hstate, hout⟩ := read_block (h b List.mem_cons_self)
        obtain ⟨hstate', hout'⟩ := ih fun c hc => h c (List.mem_cons_of_mem b hc)
        rw [List.flatMap_cons, Transducer.state_append, Transducer.output_append, hstate, hout,
          hstate', hout']
        refine ⟨rfl, ?_⟩
        cases hb : b.message? <;> simp [hb]
  rw [reader_pieces, hls]
  exact hread.2

end Reading

end ServerSent
