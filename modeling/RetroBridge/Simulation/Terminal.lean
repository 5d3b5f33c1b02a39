/-
  File:      RetroBridge/Simulation/Terminal.lean
  Subject:   THE SIMULATED TERMINAL (retrobridge/simulation.py: `create_terminal_simulation`): a
             login, a shell with rudimentary line editing, and the reads that cut what is typed.

  A read is echoed as a whole, and what follows the first line end in it is lost: at the user name,
  at the password, and behind the command `logout`.

  * `simulate` -- the thread's loops as a transducer: a byte at a time, and what the end of a read
    does;
  * `typed`, `kept` -- the buffer, as the loop edits it, and as one would say it: the bytes that no
    later backspace cancels (`typed_eq`);
  * `Row`, `Row.Shows` -- a row of a display, and what stands left of its cursor;
  * `session_run` -- **however the reads of a shell cut what is typed, every line is answered as its
    kept bytes**, and the row shows what will be run.

  The texts of a device are a parameter, and its name is ASCII. What stops the thread
  (`stop_event`, an `OSError`), and the sleeps, are left out.
-/
import RetroBridge.Library.Numeral
import RetroBridge.Library.Transducer
import Mathlib.Data.List.Induction

namespace RetroBridge.Simulation

open Piecewise

/-! ## 1. The thread -/

/-- An entry of `TERMINAL_COMMANDS`. -/
structure DeviceConfig where
  banner : String
  prompt : String
  commands : List (String × String)

/-- `text.encode()`. -/
def encode (text : String) : List UInt8 := text.toList.flatMap String.utf8EncodeChar

def isLineEnd (b : UInt8) : Bool := b == 0x0D || b == 0x0A

/-- DEL and BS. -/
def erases (b : UInt8) : Bool := b == 0x7F || b == 0x08

/-- `buffer.decode("ascii", errors="replace").strip().lower()`. -/
def commandOf (buffer : List UInt8) : String :=
  let text := buffer.map fun b => if b < 0x80 then Char.ofNat b.toNat else Char.ofNat 0xFFFD
  String.ofList ((Numerals.strip text).map Char.toLower)

section Thread

variable (deviceName : String) (config : DeviceConfig)

/-- What is written for a command that is not empty. -/
def response (cmd : String) : String :=
  match config.commands.find? fun e => e.1 == cmd with
  | some e => e.2
  | none => "\r\n  ?UNKNOWN COMMAND: " ++ cmd.toUpper ++ "\r\n"

/-- What is written at a line end, the prompt included. -/
def answer (buffer : List UInt8) : List UInt8 :=
  let cmd := commandOf buffer
  encode "\r\n" ++ (if cmd = "" then [] else encode (response config cmd)) ++
    encode (if cmd = "logout" then "\r\nDisconnected.\r\n" else config.prompt)

/-- The login prompt, before it what a new round writes. -/
def greeting : List UInt8 := encode config.banner ++ encode "USERNAME: "

/-- What is written when the password has been read. -/
def welcome : List UInt8 :=
  encode "\r\n" ++ encode ("\r\nWelcome to " ++ deviceName.toUpper ++ "!\r\n\r\n") ++
    encode config.prompt

/-- Where the thread is; `ended`: the read has had a line end. -/
inductive SimState where
  | username (ended : Bool)
  | password (ended : Bool)
  | shell (buffer : List UInt8)
  /-- `logout` has been run: the rest of the read is dropped. -/
  | leaving
  deriving DecidableEq

/-- **The thread**, a byte of a read at a time; the end of a read is what stands behind it. -/
def simulate : Transducer SimState UInt8 UInt8 where
  next
    | .username ended, b => .username (ended || isLineEnd b)
    | .password ended, b => .password (ended || isLineEnd b)
    | .shell buffer, b =>
      if isLineEnd b then if commandOf buffer = "logout" then .leaving else .shell []
      else if erases b then .shell buffer.dropLast
      else .shell (buffer ++ [b])
    | .leaving, _ => .leaving
  emit
    | .username _, b => [b]
    | .password _, _ => [0x2A]
    | .shell buffer, b =>
      if isLineEnd b then answer config buffer
      else if erases b then if buffer = [] then [] else [0x08, 0x20, 0x08]
      else [b]
    | .leaving, _ => []
  cut
    | .username ended => if ended then .password false else .username false
    | .password ended => if ended then .shell [] else .password false
    | .shell buffer => .shell buffer
    | .leaving => .username false
  flush
    | .username ended => if ended then encode "\r\nPASSWORD: " else []
    | .password ended => if ended then welcome deviceName config else []
    | .shell _ => []
    | .leaving => greeting config

end Thread

/-! ## 2. A line and its editing -/

/-- No line end. -/
def Plain (line : List UInt8) : Prop := ∀ b ∈ line, isLineEnd b = false

theorem plain_of_all {line : List UInt8} (h : line.all (fun b => !isLineEnd b) = true) :
    Plain line := by
  intro b hb
  have := List.all_eq_true.1 h b hb
  rwa [Bool.not_eq_true'] at this

/-- **The buffer after a line's bytes**, as the loop edits it. -/
def typed : List UInt8 → List UInt8 → List UInt8
  | buffer, [] => buffer
  | buffer, b :: line => typed (if erases b then buffer.dropLast else buffer ++ [b]) line

/-- The backspaces of a line that cancel nothing in it, and the bytes that none cancels. -/
def surviving : List UInt8 → Nat × List UInt8
  | [] => (0, [])
  | b :: line =>
    let rest := surviving line
    if erases b then (rest.1 + 1, rest.2)
    else if 0 < rest.1 then (rest.1 - 1, rest.2)
    else (0, b :: rest.2)

/-- **The bytes of a line that no later backspace cancels.** -/
def kept (line : List UInt8) : List UInt8 := (surviving line).2

/-- The echo of a line, from a buffer. -/
def echo : List UInt8 → List UInt8 → List UInt8
  | _, [] => []
  | buffer, b :: line =>
    if erases b then
      (if buffer = [] then [] else [0x08, 0x20, 0x08]) ++ echo buffer.dropLast line
    else b :: echo (buffer ++ [b]) line

/-- The backspaces left take from the buffer before the line. -/
theorem typed_surviving (line : List UInt8) : ∀ buffer : List UInt8,
    typed buffer line = buffer.take (buffer.length - (surviving line).1) ++ (surviving line).2 := by
  induction line with
  | nil =>
      intro buffer
      rw [typed, surviving, Nat.sub_zero, List.take_length, List.append_nil]
  | cons b line ih =>
      intro buffer
      rw [typed, ih, surviving]
      by_cases hb : erases b = true
      · simp only [if_pos hb]
        rw [List.dropLast_eq_take, List.take_take, List.length_take]
        congr 2
        omega
      · simp only [if_neg hb]
        by_cases hrest : 0 < (surviving line).1
        · rw [if_pos hrest, List.length_append, List.length_singleton, List.take_append_of_le_length
            (by omega)]
          congr 2
          omega
        · have hzero : (surviving line).1 = 0 := by omega
          rw [if_neg hrest, hzero, Nat.sub_zero, Nat.sub_zero, List.take_length, List.take_length,
            List.append_assoc]
          rfl

/-- **The buffer is what is kept.** -/
theorem typed_eq (line : List UInt8) : typed [] line = kept line := by
  rw [typed_surviving, List.take_nil]
  rfl

/-! ## 3. The shell -/

section Shell

variable {deviceName : String} {config : DeviceConfig} {buffer line : List UInt8}

/-- **The bytes of a line** in the shell. -/
theorem shell_line (h : Plain line) :
    (simulate deviceName config).state (.shell buffer) line = .shell (typed buffer line) ∧
      (simulate deviceName config).output (.shell buffer) line = echo buffer line := by
  induction line generalizing buffer with
  | nil => exact ⟨rfl, rfl⟩
  | cons b line ih =>
      have hb := h b List.mem_cons_self
      obtain ⟨hstate, hout⟩ := @ih (if erases b then buffer.dropLast else buffer ++ [b])
        fun c hc => h c (List.mem_cons_of_mem b hc)
      have hnext : (simulate deviceName config).next (.shell buffer) b =
          .shell (if erases b then buffer.dropLast else buffer ++ [b]) := by
        simp only [simulate, hb, Bool.false_eq_true, if_false]
        split <;> rfl
      rw [Transducer.state_cons, Transducer.output_cons, hnext, hstate, hout, typed, echo]
      refine ⟨rfl, ?_⟩
      simp only [simulate, hb, Bool.false_eq_true, if_false]
      split
      · rfl
      · rfl

/-- A line and its end. -/
structure Entered where
  line : List UInt8
  ending : UInt8
  plain : Plain line
  isEnd : isLineEnd ending = true

/-- The bytes that are typed for it. -/
def Entered.bytes (e : Entered) : List UInt8 := e.line ++ [e.ending]

/-- What it writes. -/
def Entered.written (config : DeviceConfig) (e : Entered) : List UInt8 :=
  echo [] e.line ++ answer config (kept e.line)

/-- **A line that is not `logout`.** -/
theorem shell_entered (e : Entered) (h : commandOf (kept e.line) ≠ "logout") :
    (simulate deviceName config).state (.shell []) e.bytes = .shell [] ∧
      (simulate deviceName config).output (.shell []) e.bytes = e.written config := by
  obtain ⟨hstate, hout⟩ := @shell_line deviceName config [] e.line e.plain
  rw [typed_eq] at hstate
  rw [Entered.bytes, Transducer.state_append, Transducer.output_append, hstate, hout]
  refine ⟨?_, ?_⟩
  · show (simulate deviceName config).next (.shell (kept e.line)) e.ending = _
    simp only [simulate, e.isEnd, if_true, if_neg h]
  · show echo [] e.line ++
      ((simulate deviceName config).emit (.shell (kept e.line)) e.ending ++ []) = _
    rw [List.append_nil]
    simp only [simulate, e.isEnd, if_true]
    rfl

/-- **Line after line**, and one that is being typed. -/
theorem shell_lines {es : List Entered} (hes : ∀ e ∈ es, commandOf (kept e.line) ≠ "logout")
    (hlast : Plain line) :
    (simulate deviceName config).state (.shell []) (es.flatMap Entered.bytes ++ line) =
        .shell (kept line) ∧
      (simulate deviceName config).output (.shell []) (es.flatMap Entered.bytes ++ line) =
        es.flatMap (Entered.written config) ++ echo [] line := by
  induction es with
  | nil =>
      obtain ⟨hstate, hout⟩ := @shell_line deviceName config [] line hlast
      exact ⟨hstate.trans (by rw [typed_eq]), hout⟩
  | cons e es ih =>
      obtain ⟨hstate, hout⟩ := @shell_entered deviceName config e (hes e List.mem_cons_self)
      obtain ⟨hstate', hout'⟩ := ih fun d hd => hes d (List.mem_cons_of_mem e hd)
      rw [List.flatMap_cons, List.append_assoc, Transducer.state_append, Transducer.output_append,
        hstate, hout, hstate', hout', List.flatMap_cons, List.append_assoc]
      exact ⟨rfl, rfl⟩

/-- The thread is in its shell. -/
def SimState.inShell : SimState → Bool
  | .shell _ => true
  | _ => false

/-- A thread that leaves its shell does not come back within a read. -/
theorem inShell_prefix {q : SimState} {l : List UInt8}
    (hq : q.inShell = true ∨ q = .leaving)
    (h : ((simulate deviceName config).state q l).inShell = true) : q.inShell = true := by
  rcases hq with hq | rfl
  · exact hq
  · have hstays : (simulate deviceName config).state .leaving l = .leaving := by
      clear h
      induction l with
      | nil => rfl
      | cons b l ih => exact ih
    rw [hstays] at h
    cases h

theorem shell_or_leaving {q : SimState} {l : List UInt8} (hq : q.inShell = true ∨ q = .leaving) :
    ((simulate deviceName config).state q l).inShell = true ∨
      (simulate deviceName config).state q l = .leaving := by
  induction l generalizing q with
  | nil => exact hq
  | cons b l ih =>
      refine ih ?_
      rcases hq with hq | rfl
      · cases q with
        | shell buffer =>
            simp only [simulate]
            split_ifs
            · exact .inr rfl
            · exact .inl rfl
            · exact .inl rfl
            · exact .inl rfl
        | _ => cases hq
      · exact .inr rfl

/-- **The reads of a shell cut seamlessly**, where it is still the shell behind them. -/
theorem shell_seamless {q : SimState} (hq : q.inShell = true) {cs : List (List UInt8)}
    (h : ((simulate deviceName config).state q cs.flatten).inShell = true) :
    (simulate deviceName config).SeamlessCuts q cs := by
  induction cs generalizing q with
  | nil => exact trivial
  | cons c cs ih =>
      rw [List.flatten_cons, Transducer.state_append] at h
      have hc := inShell_prefix (shell_or_leaving (.inl hq)) h
      refine ⟨?_, ih hc h⟩
      generalize (simulate deviceName config).state q c = q' at hc
      cases q' with
      | shell buffer => exact ⟨rfl, rfl⟩
      | _ => cases hc

/-! ## 4. The login -/

/-- **A read at the user name, and one at the password.** -/
theorem login_read (c : List UInt8) :
    (simulate deviceName config).after (.username false) c =
        (if c.any isLineEnd then .password false else .username false) ∧
      (simulate deviceName config).piece (.username false) c =
        c ++ (if c.any isLineEnd then encode "\r\nPASSWORD: " else []) ∧
      (simulate deviceName config).after (.password false) c =
        (if c.any isLineEnd then .shell [] else .password false) ∧
      (simulate deviceName config).piece (.password false) c =
        List.replicate c.length 0x2A ++
          (if c.any isLineEnd then welcome deviceName config else []) := by
  have hall : ∀ (c : List UInt8) (e : Bool),
      (simulate deviceName config).state (.username e) c = .username (e || c.any isLineEnd) ∧
        (simulate deviceName config).output (.username e) c = c ∧
        (simulate deviceName config).state (.password e) c = .password (e || c.any isLineEnd) ∧
        (simulate deviceName config).output (.password e) c = List.replicate c.length 0x2A := by
    intro c
    induction c with
    | nil =>
        intro e
        rw [List.any_nil, Bool.or_false]
        exact ⟨rfl, rfl, rfl, rfl⟩
    | cons b c ih =>
        intro e
        obtain ⟨h₁, h₂, h₃, h₄⟩ := ih (e || isLineEnd b)
        rw [List.any_cons, ← Bool.or_assoc]
        exact ⟨h₁, congrArg (b :: ·) h₂, h₃, congrArg (0x2A :: ·) h₄⟩
  obtain ⟨h₁, h₂, h₃, h₄⟩ := hall c false
  rw [Bool.false_or] at h₁ h₃
  rw [Transducer.after, Transducer.piece, Transducer.after, Transducer.piece, h₁, h₂, h₃, h₄]
  exact ⟨rfl, rfl, rfl, rfl⟩

/-- **The reads of a login**: those without a line end, and the first one with. -/
theorem login_pieces {us ps cs : List (List UInt8)} {u p : List UInt8}
    (hus : ∀ c ∈ us, c.any isLineEnd = false) (hu : u.any isLineEnd = true)
    (hps : ∀ c ∈ ps, c.any isLineEnd = false) (hp : p.any isLineEnd = true) :
    (simulate deviceName config).pieces (.username false) (us ++ u :: (ps ++ p :: cs)) =
        us.flatten ++ (u ++ encode "\r\nPASSWORD: " ++
          (List.replicate ps.flatten.length 0x2A ++ (List.replicate p.length 0x2A ++
            welcome deviceName config ++ (simulate deviceName config).pieces (.shell []) cs))) ∧
      (simulate deviceName config).afterAll (.username false) (us ++ u :: (ps ++ p :: cs)) =
        (simulate deviceName config).afterAll (.shell []) cs := by
  have hback : ∀ c ∈ us, (simulate deviceName config).after (.username false) c =
      .username false := by
    intro c hc
    rw [(login_read c).1, hus c hc]
    rfl
  have hback' : ∀ c ∈ ps, (simulate deviceName config).after (.password false) c =
      .password false := by
    intro c hc
    rw [(login_read c).2.2.1, hps c hc]
    rfl
  have hnames : us.flatMap ((simulate deviceName config).piece (.username false)) = us.flatten := by
    rw [List.flatten_eq_flatMap]
    refine List.flatMap_congr fun c hc => ?_
    rw [(login_read c).2.1, hus c hc]
    exact List.append_nil c
  have hstars : ps.flatMap ((simulate deviceName config).piece (.password false)) =
      List.replicate ps.flatten.length 0x2A := by
    clear hback'
    induction ps with
    | nil => rfl
    | cons c ps ih =>
        rw [List.flatMap_cons, ih fun d hd => hps d (List.mem_cons_of_mem c hd),
          (login_read c).2.2.2, hps c List.mem_cons_self, List.flatten_cons, List.length_append,
          List.replicate_add]
        exact congrArg (· ++ _) (List.append_nil _)
  obtain ⟨hpieces, hafter⟩ := (simulate deviceName config).pieces_loop hback (u :: (ps ++ p :: cs))
  obtain ⟨hpieces', hafter'⟩ := (simulate deviceName config).pieces_loop hback' (p :: cs)
  rw [hpieces, hafter, hnames]
  show us.flatten ++ ((simulate deviceName config).piece _ u ++
      (simulate deviceName config).pieces ((simulate deviceName config).after _ u) _) = _ ∧
    (simulate deviceName config).afterAll ((simulate deviceName config).after _ u) _ = _
  rw [(login_read u).1, (login_read u).2.1, hu, if_pos rfl, if_pos rfl, hpieces', hafter', hstars]
  show _ ++ (_ ++ (_ ++ ((simulate deviceName config).piece _ p ++
      (simulate deviceName config).pieces ((simulate deviceName config).after _ p) cs))) = _ ∧
    (simulate deviceName config).afterAll ((simulate deviceName config).after _ p) cs = _
  rw [(login_read p).2.2.1, (login_read p).2.2.2, hp, if_pos rfl, if_pos rfl]
  exact ⟨rfl, rfl⟩

end Shell

/-! ## 5. The row on the display -/

/-- **A row of a display**, wide enough, and its cursor. -/
structure Row where
  cells : List UInt8
  cursor : Nat

/-- A printable byte, or BS. -/
def Row.put (row : Row) (b : UInt8) : Row :=
  if b = 0x08 then { row with cursor := row.cursor - 1 }
  else ⟨row.cells.take row.cursor ++ b :: row.cells.drop (row.cursor + 1), row.cursor + 1⟩

/-- The row shows a text, and blanks right of its cursor. -/
def Row.Shows (row : Row) (text : List UInt8) : Prop :=
  (∃ k, row.cells = text ++ List.replicate k 0x20) ∧ row.cursor = text.length

/-- A byte that is printed, or erases. -/
def Typable (b : UInt8) : Prop := erases b = true ∨ 0x20 ≤ b ∧ b < 0x7F

section Display

variable {row : Row} {text : List UInt8} {b : UInt8}

theorem shows_put (hb : b ≠ 0x08) (h : row.Shows text) : (row.put b).Shows (text ++ [b]) := by
  obtain ⟨⟨k, hcells⟩, hcursor⟩ := h
  rw [Row.put, if_neg hb, hcells, hcursor]
  refine ⟨⟨k - 1, ?_⟩, by simp⟩
  show (text ++ List.replicate k 0x20).take text.length ++
    b :: (text ++ List.replicate k 0x20).drop (text.length + 1) = _
  rw [List.take_left, List.drop_append, List.drop_eq_nil_of_le (Nat.le_succ _), List.drop_replicate]
  simp

/-- **The three bytes that take a character back.** -/
theorem shows_erase (h : row.Shows (text ++ [b])) :
    (([0x08, 0x20, 0x08] : List UInt8).foldl Row.put row).Shows text := by
  obtain ⟨⟨k, hcells⟩, hcursor⟩ := h
  have hlength : row.cursor - 1 = text.length := by
    rw [hcursor, List.length_append, List.length_singleton]
    omega
  have hback : row.put 0x08 = ⟨text ++ b :: List.replicate k 0x20, text.length⟩ := by
    rw [Row.put, if_pos rfl, hlength, hcells, List.append_assoc]
    rfl
  have hblank : (row.put 0x08).put 0x20 =
      ⟨text ++ 0x20 :: List.replicate k 0x20, text.length + 1⟩ := by
    rw [hback, Row.put, if_neg (by decide), List.take_left, List.drop_append,
      List.drop_eq_nil_of_le (Nat.le_succ _)]
    simp
  show (((row.put 0x08).put 0x20).put 0x08).Shows text
  rw [hblank, Row.put, if_pos rfl]
  exact ⟨⟨k + 1, by rw [List.replicate_succ]⟩, rfl⟩

/-- **The row shows the buffer.** -/
theorem shows_echo {front : List UInt8} {line : List UInt8} (hline : ∀ b ∈ line, Typable b) :
    ∀ {buffer : List UInt8} {row : Row}, row.Shows (front ++ buffer) →
      ((echo buffer line).foldl Row.put row).Shows (front ++ typed buffer line) := by
  induction line with
  | nil => exact fun h => h
  | cons b line ih =>
      intro buffer row h
      have hrest := @ih fun c hc => hline c (List.mem_cons_of_mem b hc)
      rw [echo, typed]
      by_cases hb : erases b = true
      · rw [if_pos hb, if_pos hb, List.foldl_append]
        refine hrest ?_
        rcases List.eq_nil_or_concat buffer with rfl | ⟨front', c, rfl⟩
        · exact h
        · rw [List.concat_eq_append] at h ⊢
          rw [if_neg (by simp), List.dropLast_concat]
          rw [← List.append_assoc] at h
          exact shows_erase h
      · rw [if_neg hb, if_neg hb, List.foldl_cons]
        have hne : b ≠ 0x08 := by
          rintro rfl
          exact hb rfl
        refine hrest ?_
        rw [← List.append_assoc]
        exact shows_put hne h

/-- The row behind a prompt and a line's echo. -/
theorem shows_line {front line : List UInt8} (hfront : 0x08 ∉ front)
    (hline : ∀ b ∈ line, Typable b) :
    ((front ++ echo [] line).foldl Row.put ⟨[], 0⟩).Shows (front ++ kept line) := by
  have hprompt : ∀ l : List UInt8, 0x08 ∉ l → (l.foldl Row.put ⟨[], 0⟩).Shows l := by
    intro l
    induction l using List.reverseRecOn with
    | nil => exact fun _ => ⟨⟨0, rfl⟩, rfl⟩
    | append_singleton l b ih =>
        intro hl
        rw [List.mem_append, not_or] at hl
        rw [List.foldl_append]
        exact shows_put (fun hb => hl.2 (hb ▸ List.mem_singleton_self b)) (ih hl.1)
  rw [List.foldl_append, ← typed_eq]
  refine shows_echo hline ?_
  rw [List.append_nil]
  exact hprompt front hfront

end Display

/-! ## 6. A session -/

/-- **A SESSION OF THE SIMULATED TERMINAL**: behind the login, however the reads cut what is typed,
    every line is answered once, as its kept bytes, and the last one stands in the buffer; where its
    bytes are typable and the prompt has no backspace, a row with the prompt shows it as it is kept;
    and behind `logout` the next login begins. -/
theorem session_run {deviceName : String} {config : DeviceConfig} {us ps cs : List (List UInt8)}
    {u p line : List UInt8} {es : List Entered}
    (hus : ∀ c ∈ us, c.any isLineEnd = false) (hu : u.any isLineEnd = true)
    (hps : ∀ c ∈ ps, c.any isLineEnd = false) (hp : p.any isLineEnd = true)
    (hcs : cs.flatten = es.flatMap Entered.bytes ++ line) (hline : Plain line)
    (hes : ∀ e ∈ es, commandOf (kept e.line) ≠ "logout") :
    (simulate deviceName config).pieces (.username false) (us ++ u :: (ps ++ p :: cs)) =
        us.flatten ++ (u ++ encode "\r\nPASSWORD: " ++
          (List.replicate ps.flatten.length 0x2A ++ (List.replicate p.length 0x2A ++
            welcome deviceName config ++
              (es.flatMap (Entered.written config) ++ echo [] line)))) ∧
      (simulate deviceName config).afterAll (.username false) (us ++ u :: (ps ++ p :: cs)) =
        .shell (kept line) ∧
      ((∀ b ∈ line, Typable b) → 0x08 ∉ encode config.prompt →
        ((encode config.prompt ++ echo [] line).foldl Row.put ⟨[], 0⟩).Shows
          (encode config.prompt ++ kept line)) ∧
      (commandOf (kept line) = "logout" → ∀ b rest, isLineEnd b = true →
        (simulate deviceName config).piece (.shell (kept line)) (b :: rest) =
            answer config (kept line) ++ greeting config ∧
          (simulate deviceName config).after (.shell (kept line)) (b :: rest) =
            .username false) := by
  obtain ⟨hstate, hout⟩ := @shell_lines deviceName config line es hes hline
  have hseams : (simulate deviceName config).SeamlessCuts (.shell []) cs := by
    refine shell_seamless rfl ?_
    rw [hcs, hstate]
    rfl
  obtain ⟨hpieces, hafter⟩ := @login_pieces deviceName config us ps cs u p hus hu hps hp
  refine ⟨?_, ?_, fun htyped hprompt => shows_line hprompt htyped, fun hleave b rest hb => ?_⟩
  · rw [hpieces, hseams.pieces, hcs, hout]
  · rw [hafter, hseams.afterAll, hcs, hstate]
  · have hdropped : (simulate deviceName config).state .leaving rest = .leaving ∧
        (simulate deviceName config).output .leaving rest = [] := by
      induction rest with
      | nil => exact ⟨rfl, rfl⟩
      | cons c rest ih => exact ih
    have hnext : (simulate deviceName config).next (.shell (kept line)) b = .leaving := by
      simp only [simulate, hb, if_true, if_pos hleave]
    have hemit : (simulate deviceName config).emit (.shell (kept line)) b =
        answer config (kept line) := by
      simp only [simulate, hb, if_true]
    rw [Transducer.piece, Transducer.after, Transducer.state_cons, Transducer.output_cons, hnext,
      hdropped.1, hdropped.2, hemit, List.append_nil]
    exact ⟨rfl, rfl⟩

/-- A device with two commands. -/
def smallDevice : DeviceConfig := ⟨"\r\nBANNER\r\n", "> ", [("dir", "\r\n"), ("logout", "\r\n")]⟩

/-- "diz", a backspace and "r", in two reads; then "l". -/
theorem session_run_small :
    (simulate "pdp11" smallDevice).afterAll (.username false)
      [[0x62, 0x6F], [0x62, 0x0D, 0x78], [0x70, 0x0A], [0x64, 0x69, 0x7A],
        [0x7F, 0x72, 0x0D, 0x6C]] = .shell [0x6C] :=
  (@session_run "pdp11" smallDevice [[0x62, 0x6F]] [] [[0x64, 0x69, 0x7A], [0x7F, 0x72, 0x0D, 0x6C]]
    [0x62, 0x0D, 0x78] [0x70, 0x0A] [0x6C]
    [⟨[0x64, 0x69, 0x7A, 0x7F, 0x72], 0x0D, plain_of_all rfl, rfl⟩]
    (by decide) rfl nofun rfl rfl (plain_of_all rfl) (by decide +kernel)).2.1

end RetroBridge.Simulation
