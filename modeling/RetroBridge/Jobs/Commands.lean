/-
  File:      RetroBridge/Jobs/Commands.lean
  Subject:   THE TRANSFER COMMANDS, from the text of a form to the bytes on the line (worker.py:
             `_resolve_cmds`, `_apply_newline`, the two command loops of `run_job_on_device`;
             retrobridge/admin/forms.py: `json_array_field`; retrobridge/jobs/routes.py: `new`).

  A port's text has passed `json_array_field`, which asks for an array of anything; an override of a
  job has passed nothing. What `json.loads` reads goes to the loops as it is.

  * `resolveCmds` -- `_resolve_cmds`: a Python value, or an exception of `json.loads` that is no
    `JSONDecodeError`;
  * `applyNewline`, `sendCommands`, `runCommands` -- the loops, with the bytes sent before an
    exception; `runCommands_raises_iff`, which values they raise for;
  * `Runs`, `readsAsCommands`, `runs_iff` -- **a text runs exactly if it is empty, no JSON, a JSON
    string, a value that is false, or an array of strings**;
  * `jsonArrayField`, `accepted_runs_iff` -- which accepted texts run;
  * `commands_raise` -- the override `5`, and `[1]` for a port.
-/
import RetroBridge.Library.Json
import RetroBridge.Jobs.RunJob

namespace RetroBridge.Jobs.Commands

open Json Numerals

/-! ## 1. From the text to a value -/

/-- The columns of a port that name commands and their line ending. -/
structure PortCmds where
  newlineMode : Option String
  preTransferCmds : Option String
  postTransferCmds : Option String

/-- Python's `a or b` on nullable texts. -/
def textOr (a b : Option String) : Option String := if a.getD "" = "" then b else a

/-- The override that `new` stores: none unless an admin submits it. -/
def submittedOverride (isAdmin : Bool) (data : Option String) : Option String :=
  if isAdmin then textOr data none else none

/-- The text that counts: the job's own, or the port's. -/
def rawCmds : CmdKind → Job → PortCmds → Option String
  | .pre, job, port => textOr job.overridePreTransferCmds port.preTransferCmds
  | .post, job, port => textOr job.overridePostTransferCmds port.postTransferCmds

/-- `_resolve_newline_mode`. -/
def resolveNewlineMode (job : Job) (port : PortCmds) : String :=
  (textOr (textOr job.overrideNewlineMode port.newlineMode) (some "crlf")).getD "crlf"

def codePoints (text : String) : Text := text.toList.map Char.toNat

/-- The end of `_resolve_cmds`: a string is wrapped, and what is false is the empty list. -/
def asCommands : Value → Value
  | .str s => .arr [.str s]
  | cmds => if cmds.truthy then cmds else .arr []

/-- **`_resolve_cmds`**. -/
def resolveCmds (lim : Limits) (kind : CmdKind) (job : Job) (port : PortCmds) :
    Except LoadError Value :=
  let raw := (rawCmds kind job port).getD ""
  if raw = "" then .ok (.arr [])
  else
    match loads lim raw.toList with
    | .error .decodeError => .ok (.arr [.str (codePoints raw)])
    | .error e => .error e
    | .ok cmds => .ok (asCommands cmds)

/-! ## 2. The loops -/

/-- What the loops raise for a value of the wrong type. -/
inductive CmdError where
  | typeError
  | attributeError
  deriving DecidableEq, Repr

/-- `_NEWLINE_SEQUENCES.get(mode, "\r\n")`. -/
def newlineSequence (mode : String) : Text :=
  if mode = "cr" then [13] else if mode = "lf" then [10] else [13, 10]

/-- `cmd.endswith(("\r\n", "\r", "\n"))`. -/
def endsInNewline (s : Text) : Bool := [[13, 10], [13], [10]].any fun e => e.isSuffixOf s

/-- **`_apply_newline`**: what is false is left as it is, and only a string has `endswith`. -/
def applyNewline (mode : String) (cmd : Value) : Except CmdError Value :=
  if cmd.truthy = false then .ok cmd
  else
    match cmd with
    | .str s => if endsInNewline s then .ok (.str s) else .ok (.str (s ++ newlineSequence mode))
    | _ => .error .attributeError

/-- A code point in UTF-8; a surrogate is replaced. -/
def encodePoint (u : Nat) : List UInt8 :=
  if isHighSurrogate u || isLowSurrogate u then [0x3F] else String.utf8EncodeChar (Char.ofNat u)

/-- `cmd.encode("utf-8", errors="replace")`. -/
def encode : Value → Except CmdError (List UInt8)
  | .str s => .ok (s.flatMap encodePoint)
  | _ => .error .attributeError

/-- One turn of a loop. -/
def sendOne (mode : String) (cmd : Value) : Except CmdError (List UInt8) :=
  (applyNewline mode cmd).bind encode

/-- **The loop**: what it has sent, and the exception that ends it. -/
def sendCommands (mode : String) : List Value → List (List UInt8) × Option CmdError
  | [] => ([], none)
  | cmd :: rest =>
    match sendOne mode cmd with
    | .error e => ([], some e)
    | .ok bytes => (bytes :: (sendCommands mode rest).1, (sendCommands mode rest).2)

/-- What `for cmd in cmds` goes through: of an object the keys, each once; a number, a truth value
    and None cannot be gone through. -/
def iterate : Value → Option (List Value)
  | .arr items => some items
  | .obj members => some ((members.map Prod.fst).eraseDups.map .str)
  | .str s => some (s.map fun u => .str [u])
  | _ => none

/-- **`for cmd in cmds: …`**. -/
def runCommands (mode : String) (cmds : Value) : List (List UInt8) × Option CmdError :=
  match iterate cmds with
  | none => ([], some .typeError)
  | some items => sendCommands mode items

/-- The value is a string. -/
def isStr : Value → Bool
  | .str _ => true
  | _ => false

/-- The value is an array of strings. -/
def isStrings : Value → Bool
  | .arr items => items.all isStr
  | _ => false

section Loops

variable {mode : String} {cmd : Value} {items : List Value}

theorem isStr_iff : isStr cmd = true ↔ ∃ s, cmd = .str s := by
  constructor
  · intro h
    cases cmd with
    | str s => exact ⟨s, rfl⟩
    | null | nan => cases h
    | bool | int | infinity | arr | obj => cases h
    | decimal => cases h
  · rintro ⟨s, rfl⟩
    rfl

theorem all_isStr_map (cmds : List Text) : (cmds.map Value.str).all isStr = true := by
  induction cmds with
  | nil => rfl
  | cons s cmds ih => exact ih

/-- A list of strings, as such. -/
theorem exists_strings (h : items.all isStr = true) :
    ∃ cmds : List Text, items = cmds.map .str := by
  induction items with
  | nil => exact ⟨[], rfl⟩
  | cons v items ih =>
      rw [List.all_cons, Bool.and_eq_true] at h
      obtain ⟨s, rfl⟩ := isStr_iff.mp h.1
      obtain ⟨cmds, rfl⟩ := ih h.2
      exact ⟨s :: cmds, rfl⟩

theorem isStrings_iff : isStrings cmd = true ↔ ∃ cmds : List Text, cmd = .arr (cmds.map .str) := by
  constructor
  · intro h
    cases cmd with
    | arr items =>
        obtain ⟨cmds, rfl⟩ := exists_strings h
        exact ⟨cmds, rfl⟩
    | null | nan => cases h
    | bool | int | infinity | str | obj => cases h
    | decimal => cases h
  · rintro ⟨cmds, rfl⟩
    exact all_isStr_map cmds

/-- **A turn raises for what is no string**: `_apply_newline` where it is true, `encode` where it is
    false. -/
theorem sendOne_error_iff : sendOne mode cmd = .error .attributeError ↔ isStr cmd = false := by
  unfold sendOne applyNewline
  split
  · cases cmd <;> simp [Except.bind, encode, isStr]
  · cases cmd with
    | str s =>
        simp only [isStr]
        split <;> simp [Except.bind, encode]
    | null | nan => simp [Except.bind, isStr]
    | bool | int | infinity | arr | obj => simp [Except.bind, isStr]
    | decimal => simp [Except.bind, isStr]

theorem sendOne_str (s : Text) : ∃ bytes, sendOne mode (.str s) = .ok bytes := by
  unfold sendOne applyNewline
  split
  · exact ⟨_, rfl⟩
  · simp only
    split <;> exact ⟨_, rfl⟩

/-- **The loop raises exactly for an item that is no string.** -/
theorem sendCommands_raises_iff : (sendCommands mode items).2 = none ↔ items.all isStr = true := by
  induction items with
  | nil => exact ⟨fun _ => rfl, fun _ => rfl⟩
  | cons cmd items ih =>
      rw [List.all_cons, Bool.and_eq_true]
      cases hs : isStr cmd with
      | true =>
          obtain ⟨s, rfl⟩ := isStr_iff.mp hs
          obtain ⟨bytes, hb⟩ := @sendOne_str mode s
          simp only [sendCommands, hb, ih, true_and]
      | false =>
          simp only [sendCommands, sendOne_error_iff.mpr hs, reduceCtorEq, Bool.false_eq_true,
            false_and]

/-- **Which values the loops go through**: strings, objects for their keys, arrays of strings. -/
theorem runCommands_raises_iff :
    (runCommands mode cmd).2 = none ↔
      isStr cmd = true ∨ isStrings cmd = true ∨ ∃ members, cmd = .obj members := by
  unfold runCommands
  cases cmd with
  | arr items => simp [iterate, sendCommands_raises_iff, isStr, isStrings]
  | obj members =>
      simp only [iterate, sendCommands_raises_iff]
      exact ⟨fun _ => .inr (.inr ⟨members, rfl⟩), fun _ => all_isStr_map _⟩
  | str s =>
      simp only [iterate, sendCommands_raises_iff]
      refine ⟨fun _ => .inl rfl, fun _ => ?_⟩
      rw [List.all_map]
      exact List.all_eq_true.mpr fun _ _ => rfl
  | null | nan => simp [iterate, isStr, isStrings]
  | bool | int | infinity => simp [iterate, isStr, isStrings]
  | decimal => simp [iterate, isStr, isStrings]

end Loops

/-! ## 3. The texts that run -/

/-- **The text runs**: `_resolve_cmds` returns a list of strings, and the loop goes through it. -/
def Runs (lim : Limits) (kind : CmdKind) (job : Job) (port : PortCmds) : Prop :=
  ∃ cmds : List Text, resolveCmds lim kind job port = .ok (.arr (cmds.map .str)) ∧
    (runCommands (resolveNewlineMode job port) (.arr (cmds.map .str))).2 = none

/-- What `json.loads` may answer: no JSON, a string, a value that is false, an array of strings. -/
def readsAsCommands : Except LoadError Value → Bool
  | .error e => e == .decodeError
  | .ok v => isStr v || !v.truthy || isStrings v

section Runs

variable {lim : Limits} {kind : CmdKind} {job : Job} {port : PortCmds}

theorem runs_of_strings {v : Value} (h : resolveCmds lim kind job port = .ok v)
    (hv : isStrings v = true) : Runs lim kind job port := by
  obtain ⟨cmds, rfl⟩ := isStrings_iff.mp hv
  exact ⟨cmds, h, runCommands_raises_iff.mpr (.inr (.inl hv))⟩

theorem runs_iff_strings : Runs lim kind job port ↔
    ∃ v, resolveCmds lim kind job port = .ok v ∧ isStrings v = true :=
  ⟨fun ⟨cmds, h, _⟩ => ⟨_, h, all_isStr_map cmds⟩, fun ⟨_, h, hv⟩ => runs_of_strings h hv⟩

/-- What the end of `_resolve_cmds` makes a list of strings of. -/
theorem isStrings_asCommands (v : Value) :
    isStrings (asCommands v) = (isStr v || !v.truthy || isStrings v) := by
  cases v with
  | str s => rfl
  | null | nan | arr | obj | bool | int | infinity | decimal =>
      unfold asCommands
      simp only
      split
      · rename_i ht
        simp [isStr, ht]
      · rename_i ht
        simp only [isStr, Bool.eq_false_of_not_eq_true ht]
        rfl

/-- **A text that counts**, read by `json.loads`. -/
theorem runs_iff_reads {raw : String} (hraw : (rawCmds kind job port).getD "" = raw)
    (hne : raw ≠ "") : Runs lim kind job port ↔ readsAsCommands (loads lim raw.toList) = true := by
  rw [runs_iff_strings]
  unfold resolveCmds
  simp only [hraw, if_neg hne]
  cases h : loads lim raw.toList with
  | ok v =>
      simp only [Except.ok.injEq, exists_eq_left', readsAsCommands]
      rw [isStrings_asCommands]
  | error e =>
      cases e with
      | decodeError =>
          exact ⟨fun _ => rfl, fun _ => ⟨_, rfl, rfl⟩⟩
      | valueError => simp [readsAsCommands]
      | recursionError => simp [readsAsCommands]

/-- **No text**, no command. -/
theorem runs_of_empty (hraw : (rawCmds kind job port).getD "" = "") : Runs lim kind job port := by
  refine @runs_of_strings lim kind job port (.arr []) ?_ rfl
  unfold resolveCmds
  rw [if_pos hraw]

end Runs

/-- **ACCEPTED TEXT RUNS** exactly if it is empty, no JSON, a JSON string, a value that is false, or
    an array of strings; for every override of a job and every text of a port. -/
theorem runs_iff (lim : Limits) (kind : CmdKind) (job : Job) (port : PortCmds) :
    Runs lim kind job port ↔ (rawCmds kind job port).getD "" = "" ∨
      readsAsCommands (loads lim ((rawCmds kind job port).getD "").toList) = true := by
  by_cases h : (rawCmds kind job port).getD "" = ""
  · exact ⟨fun _ => .inl h, fun _ => runs_of_empty h⟩
  · rw [runs_iff_reads rfl h]
    exact ⟨.inr, fun hr => hr.resolve_left h⟩

/-! ## 4. The texts a port may have -/

/-- What `json_array_field` makes of a field; the parser's own message is left out. -/
inductive FieldAnswer where
  | accepted
  | invalid (message : String)
  | raised (e : LoadError)
  deriving DecidableEq, Repr

/-- **`json_array_field`**. -/
def jsonArrayField (lim : Limits) (data : Option String) : FieldAnswer :=
  let value := strip (data.getD "").toList
  if value = [] then .accepted
  else
    match loads lim value with
    | .error .decodeError => .invalid "Invalid JSON: "
    | .error e => .raised e
    | .ok (.arr _) => .accepted
    | .ok _ => .invalid "Must be a JSON array."

section Accepted

variable {lim : Limits} {data : String}

/-- An accepted text that is not blank is an array once the space around it is gone. -/
theorem array_of_accepted (h : jsonArrayField lim (some data) = .accepted)
    (hne : strip data.toList ≠ []) :
    ∃ items, loads lim (strip data.toList) = .ok (.arr items) := by
  unfold jsonArrayField at h
  rw [Option.getD_some, if_neg hne] at h
  cases hl : loads lim (strip data.toList) with
  | error e =>
      rw [hl] at h
      cases e <;> cases h
  | ok v =>
      rw [hl] at h
      cases v with
      | arr items => exact ⟨items, rfl⟩
      | null | nan => cases h
      | bool | int | infinity | str | obj => cases h
      | decimal => cases h

/-- A text that `strip` empties is blank. -/
theorem blank_of_strip {cs : List Char} (h : strip cs = []) : ∀ c ∈ cs, isSpace c = true := by
  obtain ⟨u, w, hpad, hu, hw⟩ := exists_pad cs
  rw [h, List.append_nil] at hpad
  intro c hc
  rw [hpad] at hc
  exact (List.mem_append.mp hc).elim (hu c) (hw c)

/-- The whole of a text whose strip is read, however the space around it is split off. -/
theorem loads_of_strip {cs u w : List Char} {v : Value} (h : loads lim (strip cs) = .ok v)
    (hpad : cs = u ++ strip cs ++ w) (hspace : ∀ c ∈ u ++ w, isSpace c = true) :
    loads lim cs = if (u ++ w).all isWs then .ok v else .error .decodeError := by
  conv => lhs; rw [hpad]
  exact loads_pad (fun c hc => hspace c (List.mem_append_left _ hc))
    (fun c hc => hspace c (List.mem_append_right _ hc)) h

theorem reads_arr (items : List Value) :
    readsAsCommands (.ok (.arr items)) = items.all isStr := by
  cases items <;> rfl

/-- The space around a text, with a character that is no white space of JSON. -/
def PadForeign (cs : List Char) : Prop :=
  ∃ u w, cs = u ++ strip cs ++ w ∧ (∀ c ∈ u ++ w, isSpace c = true) ∧ (u ++ w).all isWs = false

/-- **WHICH ACCEPTED TEXTS OF A PORT RUN**: the blank ones, those with a space around them that JSON
    does not know -- they are sent as they are --, and the arrays of strings. -/
theorem accepted_runs_iff {kind : CmdKind} {job : Job} {port : PortCmds}
    (h : jsonArrayField lim (some data) = .accepted)
    (hraw : (rawCmds kind job port).getD "" = data) :
    Runs lim kind job port ↔ strip data.toList = [] ∨ PadForeign data.toList ∨
      ∃ cmds : List Text, loads lim (strip data.toList) = .ok (.arr (cmds.map .str)) := by
  by_cases he : data = ""
  · subst he
    exact ⟨fun _ => .inl rfl, fun _ => runs_of_empty hraw⟩
  rw [runs_iff_reads hraw he]
  by_cases hblank : strip data.toList = []
  · rw [loads_blank (blank_of_strip hblank)]
    exact ⟨fun _ => .inl hblank, fun _ => rfl⟩
  obtain ⟨items, hitems⟩ := array_of_accepted h hblank
  obtain ⟨u, w, hpad, hu, hw⟩ := exists_pad data.toList
  have huw : ∀ c ∈ u ++ w, isSpace c = true := fun c hc =>
    (List.mem_append.mp hc).elim (hu c) (hw c)
  constructor
  · intro hr
    cases hall : (u ++ w).all isWs with
    | false => exact .inr (.inl ⟨u, w, hpad, huw, hall⟩)
    | true =>
        rw [loads_of_strip hitems hpad huw, hall, if_pos rfl, reads_arr] at hr
        obtain ⟨cmds, rfl⟩ := exists_strings hr
        exact .inr (.inr ⟨cmds, hitems⟩)
  · rintro (hs | ⟨u', w', hpad', huw', hall⟩ | ⟨cmds, hcmds⟩)
    · exact absurd hs hblank
    · rw [loads_of_strip hitems hpad' huw', hall]
      rfl
    · rw [loads_of_strip hcmds hpad huw]
      split
      · rw [reads_arr]
        exact all_isStr_map cmds
      · rfl

end Accepted

/-! ## 5. Two texts that raise -/

/-- The limits of the interpreter, called from a few frames deep. -/
def usualLimits : Limits := ⟨4300, 900⟩

/-- A job with an override of its commands before the transfer. -/
def overriding (text : Option String) : Job :=
  { newJob ⟨1, 1, "hello.hex", 0, none, none, none⟩ 0 1 "job-1/hello.hex" 64 with
    overridePreTransferCmds := text }

/-- A port with commands before the transfer. -/
def portWith (text : Option String) : PortCmds where
  newlineMode := none
  preTransferCmds := text
  postTransferCmds := none

/-- **Accepted text that does not run**: an admin's override `5`, which no loop goes through, and
    `[1]` for a port, whose item has no `endswith`. -/
theorem commands_raise :
    ¬Runs usualLimits .pre (overriding (submittedOverride true (some "5"))) (portWith none) ∧
    jsonArrayField usualLimits (some "[1]") = .accepted ∧
    ¬Runs usualLimits .pre (overriding none) (portWith (some "[1]")) := by
  have hfive : readsAsCommands (loads usualLimits "5".toList) = false := by rfl
  have hone : readsAsCommands (loads usualLimits "[1]".toList) = false := by rfl
  refine ⟨fun hr => ?_, by rfl, fun hr => ?_⟩
  · rw [@runs_iff_reads usualLimits .pre _ _ "5" (by rfl) (by decide), hfive] at hr
    cases hr
  · rw [@runs_iff_reads usualLimits .pre _ _ "[1]" (by rfl) (by decide), hone] at hr
    cases hr

end RetroBridge.Jobs.Commands
