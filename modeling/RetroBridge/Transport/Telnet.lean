/-
  File:      RetroBridge/Transport/Telnet.lean
  Subject:   TELNET NEGOTIATION (retrobridge/transport.py: `_telnet_negotiate`) and the cuts between
             the chunks that recv() returns.

  * `scan` -- the loop over one chunk. Of what a chunk leaves unfinished only a lone IAC is carried
    to the next (`pending_iac`); a command cut after its verb is answered for option 0, and a
    subnegotiation cut anywhere is over;
  * `negotiate`, `telnetNegotiate` -- the loop over the polls of the socket, the data and the
    replies;
  * `telnet` -- the same as a transducer, byte by byte; `scan_eq`: the loop over a chunk is its run
    over a piece;
  * `Items` -- the sequences of whole telnet items, and `items_iff`: they are what leaves the
    transducer between items;
  * `telnet_chunks` -- **chunks that end between items, or right after an IAC, change nothing**, and
    any other cut changes the result for some continuation.
-/
import RetroBridge.Library.Transducer

namespace RetroBridge.Transport

open Piecewise

/-! ## 1. The loop over one chunk -/

def IAC : UInt8 := 255
def WILL : UInt8 := 251
def WONT : UInt8 := 252
def DO : UInt8 := 253
def DONT : UInt8 := 254
def SB : UInt8 := 250
def SE : UInt8 := 240

/-- What the loop does to the outside: a byte of data, or a reply on the socket. -/
inductive Effect where
  | data (b : UInt8)
  | sendall (bytes : List UInt8)
  deriving DecidableEq, Repr

/-- `cmd in (WILL, WONT, DO, DONT)`. -/
def isVerb (cmd : UInt8) : Bool := cmd == WILL || cmd == WONT || cmd == DO || cmd == DONT

/-- The answer to a verb with its option. -/
def answer (cmd opt : UInt8) : List Effect :=
  if cmd = WILL then [.sendall [IAC, DONT, opt]]
  else if cmd = DO then [.sendall [IAC, WONT, opt]]
  else []

/-- Where the loop is: at a byte, at the byte after the IAC of the previous chunk, or in the inner
    loop of a subnegotiation. -/
inductive Mode where
  | byte
  | pending
  | sub
  deriving DecidableEq, Repr

/-- What the loop does to a chunk, and whether it leaves an IAC pending. -/
structure Scan where
  effects : List Effect
  pendingIac : Bool
  deriving DecidableEq, Repr

/-- Effects before the rest of a chunk. -/
def Scan.prepend (es : List Effect) (s : Scan) : Scan := ⟨es ++ s.effects, s.pendingIac⟩

/-- **The loop over what is left of a chunk.** -/
def scan : Mode → List UInt8 → Scan
  | .byte, [] => ⟨[], false⟩
  | .pending, [] => ⟨[], true⟩
  | .sub, [] => ⟨[], false⟩
  | .pending, b :: rest =>
    if b = IAC then (scan .byte rest).prepend [.data IAC]
    else if isVerb b then
      match rest with
      | [] => ⟨answer b 0, false⟩
      | opt :: rest => (scan .byte rest).prepend (answer b opt)
    else if b = SB then scan .sub rest
    else scan .byte rest
  | .byte, b :: rest =>
    if b = IAC then
      match rest with
      | [] => ⟨[], true⟩
      | cmd :: rest =>
        if isVerb cmd then
          match rest with
          | [] => ⟨answer cmd 0, false⟩
          | opt :: rest => (scan .byte rest).prepend (answer cmd opt)
        else if cmd = SB then scan .sub rest
        else if cmd = IAC then (scan .byte rest).prepend [.data IAC]
        else scan .byte rest
    else (scan .byte rest).prepend [.data b]
  | .sub, b :: rest =>
    match rest with
    | [] => ⟨[], false⟩
    | c :: rest' => if b = IAC ∧ c = SE then scan .byte rest' else scan .sub (c :: rest')

/-! ## 2. The loop over the socket -/

/-- How `sock.recv(4096)` answers: no data is the end of the stream. -/
inductive Recv where
  | returns (data : List UInt8)
  | error

/-- One round of the loop before the deadline: whether `select` finds the socket readable within
    0.1 s, and how a `recv` answers. -/
structure Poll where
  readable : Bool
  recv : Recv

/-- **The loop of `_telnet_negotiate`**; the list of rounds ends with the deadline. -/
def negotiate : Bool → List Poll → List Effect
  | _, [] => []
  | pendingIac, p :: ps =>
    if !p.readable && !pendingIac then []
    else
      match p.recv with
      | .error => []
      | .returns data =>
        if data.isEmpty then []
        else
          let s := scan (if pendingIac then .pending else .byte) data
          s.effects ++ negotiate s.pendingIac ps

/-- The bytes of data among the effects. -/
def dataOf (es : List Effect) : List UInt8 :=
  es.filterMap fun e => match e with
    | .data b => some b
    | .sendall _ => none

/-- The replies among the effects. -/
def repliesOf (es : List Effect) : List (List UInt8) :=
  es.filterMap fun e => match e with
    | .data _ => none
    | .sendall bytes => some bytes

/-- **`_telnet_negotiate`**: the data it returns and the replies it sends. -/
def telnetNegotiate (polls : List Poll) : List UInt8 × List (List UInt8) :=
  (dataOf (negotiate false polls), repliesOf (negotiate false polls))

/-- The rounds that receive these chunks, one after the other. -/
def received (chunks : List (List UInt8)) : List Poll := chunks.map fun c => ⟨true, .returns c⟩

/-! ## 3. The same, byte by byte -/

/-- Where a byte stands: between items, after an IAC, at the option of a verb, in a subnegotiation,
    after an IAC in one. -/
inductive Place where
  | between
  | command
  | option (verb : UInt8)
  | sub
  | subIac
  deriving DecidableEq, Repr

/-- **Telnet, byte by byte**, with what `scan` makes of the end of a chunk. -/
def telnet : Transducer Place UInt8 Effect where
  next q b :=
    match q with
    | .between => if b = IAC then .command else .between
    | .command =>
      if b = IAC then .between else if isVerb b then .option b else if b = SB then .sub
      else .between
    | .option _ => .between
    | .sub => if b = IAC then .subIac else .sub
    | .subIac => if b = SE then .between else if b = IAC then .subIac else .sub
  emit q b :=
    match q with
    | .between => if b = IAC then [] else [.data b]
    | .command => if b = IAC then [.data IAC] else []
    | .option v => answer v b
    | .sub | .subIac => []
  cut q :=
    match q with
    | .command => .command
    | _ => .between
  flush q :=
    match q with
    | .option v => answer v 0
    | _ => []

def Mode.place : Mode → Place
  | .byte => .between
  | .pending => .command
  | .sub => .sub

/-- The place a chunk leaves. -/
def Scan.place (s : Scan) : Place := if s.pendingIac then .command else .between

/-- A chunk of the transducer, as the loop reports it. -/
def IsPiece (s : Scan) (q : Place) (l : List UInt8) : Prop :=
  s.effects = telnet.piece q l ∧ s.place = telnet.after q l

section Piece

variable {s : Scan} {q q' : Place} {l : List UInt8} {b : UInt8} {es : List Effect}

/-- A byte before a piece. -/
theorem IsPiece.prepend (h : IsPiece s q' l) (hnext : telnet.next q b = q')
    (hemit : telnet.emit q b = es) : IsPiece (s.prepend es) q (b :: l) := by
  subst hnext hemit
  refine ⟨?_, h.2⟩
  show telnet.emit q b ++ s.effects =
    telnet.output q (b :: l) ++ telnet.flush (telnet.state q (b :: l))
  rw [h.1, Transducer.output_cons, List.append_assoc]
  rfl

theorem IsPiece.cons (h : IsPiece s q' l) (hnext : telnet.next q b = q')
    (hemit : telnet.emit q b = []) : IsPiece s q (b :: l) := h.prepend hnext hemit

/-- After an IAC in a subnegotiation only a SE is read differently. -/
theorem IsPiece.subIac (h : IsPiece s .sub l) (hl : l.head? ≠ some SE) : IsPiece s .subIac l := by
  cases l with
  | nil => exact h
  | cons c l =>
      have hc : c ≠ SE := fun e => hl (by rw [e]; rfl)
      have hnext : telnet.next .subIac c = telnet.next .sub c := if_neg hc
      have hemit : telnet.emit .subIac c = telnet.emit .sub c := rfl
      refine ⟨?_, ?_⟩
      · rw [h.1, Transducer.piece, Transducer.piece, Transducer.output_cons,
          Transducer.output_cons, Transducer.state_cons, Transducer.state_cons, hnext, hemit]
      · rw [h.2, Transducer.after, Transducer.after, Transducer.state_cons,
          Transducer.state_cons, hnext]

end Piece

theorem iac_not_verb : isVerb IAC = false := by decide

/-- The verb of a command. -/
theorem next_verb {b : UInt8} (hb : b ≠ IAC) (hv : isVerb b = true) :
    telnet.next .command b = .option b := by
  show (if b = IAC then _ else if isVerb b = true then _ else _) = _
  rw [if_neg hb, if_pos hv]

/-- A command that is its byte only. -/
theorem next_plain {b : UInt8} (hv : ¬isVerb b = true) (hs : b ≠ SB) :
    telnet.next .command b = .between := by
  show (if b = IAC then _ else if isVerb b = true then _ else if b = SB then _ else _) = _
  rw [if_neg hv, if_neg hs, ite_self]

theorem emit_command {b : UInt8} (hb : b ≠ IAC) : telnet.emit .command b = [] := if_neg hb

/-- **The loop over a chunk is the transducer's run over a piece.** -/
theorem scan_eq (m : Mode) (l : List UInt8) : IsPiece (scan m l) m.place l := by
  -- an IAC in the chunk and one pending from the chunk before are read alike
  have iac : ∀ {s : Scan} {l : List UInt8}, IsPiece s .command l → IsPiece s .between (IAC :: l) :=
    fun h => h.cons rfl rfl
  have option : ∀ {v opt : UInt8} {rest : List UInt8}, v ≠ IAC → isVerb v = true →
      IsPiece (scan .byte rest) .between rest →
      IsPiece ((scan .byte rest).prepend (answer v opt)) .command (v :: opt :: rest) := by
    intro v opt rest hv hverb ih
    exact (ih.prepend rfl rfl).cons (next_verb hv hverb) (emit_command hv)
  have cutOption : ∀ {v : UInt8}, v ≠ IAC → isVerb v = true →
      IsPiece ⟨answer v 0, false⟩ .command [v] := by
    intro v hv hverb
    have hend : IsPiece ⟨answer v 0, false⟩ (.option v) [] := ⟨rfl, rfl⟩
    exact hend.cons (next_verb hv hverb) (emit_command hv)
  have verb_ne : ∀ {v : UInt8}, isVerb v = true → v ≠ IAC := fun hv e => by
    rw [e, iac_not_verb] at hv
    cases hv
  fun_induction scan m l with
  | case1 => exact ⟨rfl, rfl⟩
  | case2 => exact ⟨rfl, rfl⟩
  | case3 => exact ⟨rfl, rfl⟩
  | case4 rest ih => exact ih.prepend rfl rfl
  | case5 v hv hverb => exact cutOption hv hverb
  | case6 v hv hverb opt rest ih => exact option hv hverb ih
  | case7 rest _ _ ih => exact ih.cons rfl rfl
  | case8 b rest hb hverb hsb ih => exact ih.cons (next_plain hverb hsb) (emit_command hb)
  | case9 => exact ⟨rfl, rfl⟩
  | case10 v hverb => exact iac (cutOption (verb_ne hverb) hverb)
  | case11 v hverb opt rest ih => exact iac (option (verb_ne hverb) hverb ih)
  | case12 rest _ ih => exact iac (ih.cons rfl rfl)
  | case13 rest _ _ ih => exact iac (ih.prepend rfl rfl)
  | case14 b rest hverb hsb hb ih =>
      exact iac (ih.cons (next_plain hverb hsb) (emit_command hb))
  | case15 b rest hb ih => exact ih.prepend (if_neg hb) (if_neg hb)
  | case16 b =>
      by_cases hb : b = IAC
      · subst hb
        exact ⟨rfl, rfl⟩
      · have hend : IsPiece ⟨[], false⟩ .sub [] := ⟨rfl, rfl⟩
        exact hend.cons (if_neg hb) rfl
  | case17 b c rest h ih =>
      obtain ⟨rfl, rfl⟩ := h
      have hse : IsPiece (scan .byte rest) .subIac (SE :: rest) := ih.cons rfl rfl
      exact hse.cons rfl rfl
  | case18 b c rest h ih =>
      by_cases hb : b = IAC
      · have hc : (c :: rest).head? ≠ some SE := fun e => h ⟨hb, Option.some.inj e⟩
        exact (ih.subIac hc).cons (if_pos hb) rfl
      · exact ih.cons (if_neg hb) rfl

/-- **The negotiation is the transducer's run over the chunks.** -/
theorem negotiate_received (pendingIac : Bool) {chunks : List (List UInt8)}
    (h : ∀ c ∈ chunks, c ≠ []) : negotiate pendingIac (received chunks) =
      telnet.pieces (if pendingIac then .command else .between) chunks := by
  induction chunks generalizing pendingIac with
  | nil => cases pendingIac <;> rfl
  | cons c cs ih =>
      have hc : c.isEmpty = false := by simpa using h c List.mem_cons_self
      have hplace : (if pendingIac then Mode.pending else Mode.byte).place =
          if pendingIac then Place.command else Place.between := by cases pendingIac <;> rfl
      obtain ⟨heffects, hafter⟩ := scan_eq (if pendingIac then .pending else .byte) c
      rw [hplace] at heffects hafter
      show (if c.isEmpty = true then [] else
        (scan _ c).effects ++ negotiate (scan _ c).pendingIac (received cs)) =
        telnet.piece _ c ++ telnet.pieces (telnet.after _ c) cs
      rw [hc, if_neg Bool.false_ne_true, ih _ fun c hc => h c (List.mem_cons_of_mem _ hc), heffects,
        ← hafter]
      rfl

/-! ## 4. Items -/

/-- **The sequences of whole telnet items**: data bytes, escaped IACs, options, subnegotiations up
    to their first IAC SE, and commands of one byte. -/
inductive Items : List UInt8 → Prop where
  | nil : Items []
  | data {b : UInt8} {rest : List UInt8} (hb : b ≠ IAC) (h : Items rest) : Items (b :: rest)
  | escaped {rest : List UInt8} (h : Items rest) : Items (IAC :: IAC :: rest)
  | option {v opt : UInt8} {rest : List UInt8} (hv : isVerb v = true) (h : Items rest) :
      Items (IAC :: v :: opt :: rest)
  | sub {payload rest : List UInt8} (hp : ¬ [IAC, SE] <:+: payload) (h : Items rest) :
      Items (IAC :: SB :: (payload ++ IAC :: SE :: rest))
  | command {b : UInt8} {rest : List UInt8} (hv : ¬isVerb b = true) (hs : b ≠ SB) (hb : b ≠ IAC)
      (h : Items rest) : Items (IAC :: b :: rest)

/-- The bytes end between items, or right after an IAC that begins one. -/
def EndsBetween (l : List UInt8) : Prop := Items l ∨ ∃ items, Items items ∧ l = items ++ [IAC]

/-- The end of a subnegotiation's payload goes over a byte. -/
theorem infix_end {b : UInt8} {p : List UInt8} :
    [IAC, SE] <:+: b :: p ↔ (b = IAC ∧ p.head? = some SE) ∨ [IAC, SE] <:+: p := by
  rw [List.infix_cons_iff, List.cons_prefix_cons]
  have hse : [SE] <+: p ↔ p.head? = some SE := by
    cases p with
    | nil => simp
    | cons c p => simp [List.cons_prefix_cons, eq_comm]
  rw [hse, eq_comm]

/-- A payload without its end stays in the subnegotiation. -/
theorem state_payload {p : List UInt8} (hp : ¬ [IAC, SE] <:+: p) :
    (telnet.state .sub p = .sub ∨ telnet.state .sub p = .subIac) ∧
      (p.head? ≠ some SE → telnet.state .subIac p = .sub ∨ telnet.state .subIac p = .subIac) := by
  induction p with
  | nil => exact ⟨Or.inl rfl, fun _ => Or.inr rfl⟩
  | cons b p ih =>
      rw [infix_end, not_or] at hp
      obtain ⟨hsub, hiac⟩ := ih hp.2
      have hnext : telnet.state (if b = IAC then .subIac else .sub) p = .sub ∨
          telnet.state (if b = IAC then .subIac else .sub) p = .subIac := by
        by_cases hb : b = IAC
        · rw [if_pos hb]
          exact hiac fun hse => hp.1 ⟨hb, hse⟩
        · rw [if_neg hb]
          exact hsub
      refine ⟨hnext, fun hhead => ?_⟩
      have hb : b ≠ SE := fun e => hhead (by rw [e]; rfl)
      show telnet.state (if b = SE then .between else if b = IAC then .subIac else .sub) p = .sub ∨
        telnet.state (if b = SE then .between else if b = IAC then .subIac else .sub) p = .subIac
      rw [if_neg hb]
      exact hnext

/-- A subnegotiation that is over has had its end. -/
theorem payload_of_state {l : List UInt8} :
    (telnet.state .sub l = .between → ∃ p rest, l = p ++ IAC :: SE :: rest ∧
      ¬ [IAC, SE] <:+: p ∧ telnet.state .between rest = .between) ∧
    (telnet.state .subIac l = .between → (∃ rest, l = SE :: rest ∧
      telnet.state .between rest = .between) ∨ ∃ p rest, l = p ++ IAC :: SE :: rest ∧
        p.head? ≠ some SE ∧ ¬ [IAC, SE] <:+: p ∧ telnet.state .between rest = .between) := by
  induction l with
  | nil =>
      constructor
      · intro h
        cases h
      · intro h
        cases h
  | cons b l ih =>
      have hother : telnet.state (if b = IAC then .subIac else .sub) l = .between →
          ∃ p rest, b :: l = p ++ IAC :: SE :: rest ∧ (b ≠ SE → p.head? ≠ some SE) ∧
            ¬ [IAC, SE] <:+: p ∧ telnet.state .between rest = .between := by
        intro h
        by_cases hb : b = IAC
        · rw [if_pos hb] at h
          obtain ⟨rest, rfl, hrest⟩ | ⟨p, rest, rfl, hhead, hp, hrest⟩ := ih.2 h
          · refine ⟨[], rest, by rw [hb]; rfl, ?_, by simp, hrest⟩
            intro _ h
            cases h
          · refine ⟨b :: p, rest, rfl, fun hse h => hse (Option.some.inj h), ?_, hrest⟩
            rw [infix_end, not_or]
            exact ⟨fun h => hhead h.2, hp⟩
        · rw [if_neg hb] at h
          obtain ⟨p, rest, rfl, hp, hrest⟩ := ih.1 h
          refine ⟨b :: p, rest, rfl, fun hse h => hse (Option.some.inj h), ?_, hrest⟩
          rw [infix_end, not_or]
          exact ⟨fun h => hb h.1, hp⟩
      constructor
      · intro h
        obtain ⟨p, rest, hl, _, hp, hrest⟩ := hother h
        exact ⟨p, rest, hl, hp, hrest⟩
      · intro h
        by_cases hb : b = SE
        · subst hb
          exact Or.inl ⟨l, rfl, h⟩
        · have hif : telnet.state (if b = IAC then .subIac else .sub) l = .between := by
            rw [← h]
            show _ = telnet.state (if b = SE then .between else if b = IAC then .subIac else .sub) l
            rw [if_neg hb]
          obtain ⟨p, rest, hl, hhead, hp, hrest⟩ := hother hif
          exact Or.inr ⟨p, rest, hl, hhead hb, hp, hrest⟩

/-- Whole items leave the transducer between items. -/
theorem Items.state {l : List UInt8} (h : Items l) : telnet.state .between l = .between := by
  induction h with
  | nil => rfl
  | @data b rest hb _ ih =>
      have hnext : telnet.next .between b = .between := if_neg hb
      rw [Transducer.state_cons, hnext, ih]
  | escaped _ ih => exact ih
  | @option v opt rest hv _ ih =>
      have hverb : v ≠ IAC := fun e => by rw [e, iac_not_verb] at hv; cases hv
      show telnet.state (telnet.next (telnet.next .command v) opt) rest = .between
      rw [next_verb hverb hv]
      exact ih
  | @sub payload rest hp _ ih =>
      show telnet.state .sub (payload ++ IAC :: SE :: rest) = .between
      rw [Transducer.state_append]
      obtain h | h := (state_payload hp).1 <;> rw [h] <;> exact ih
  | @command b rest hv hs _ _ ih =>
      show telnet.state (telnet.next .command b) rest = .between
      rw [next_plain hv hs, ih]

/-- **Whole items are what leaves the transducer between items.** -/
theorem items_iff {l : List UInt8} : Items l ↔ telnet.state .between l = .between := by
  refine ⟨Items.state, fun h => ?_⟩
  induction hn : l.length using Nat.strongRecOn generalizing l with
  | _ n ih =>
      subst hn
      match l, h with
      | [], _ => exact .nil
      | b :: rest, h =>
          by_cases hb : b = IAC
          · subst hb
            match rest, h with
            | [], h => cases h
            | cmd :: rest, h =>
                replace h : telnet.state (telnet.next .command cmd) rest = .between := h
                have hlt : rest.length < (IAC :: cmd :: rest).length := by
                  simp only [List.length_cons]
                  omega
                by_cases hiac : cmd = IAC
                · subst hiac
                  exact .escaped (ih _ hlt h rfl)
                · by_cases hv : isVerb cmd = true
                  · rw [next_verb hiac hv] at h
                    match rest, h with
                    | [], h => cases h
                    | opt :: rest, h =>
                        have hopt : rest.length < (IAC :: cmd :: opt :: rest).length := by
                          simp only [List.length_cons]
                          omega
                        exact .option hv (ih _ hopt h rfl)
                  · by_cases hs : cmd = SB
                    · subst hs
                      obtain ⟨p, rest', rfl, hp, hrest⟩ := payload_of_state.1 h
                      have hsub : rest'.length <
                          (IAC :: SB :: (p ++ IAC :: SE :: rest')).length := by
                        simp only [List.length_cons, List.length_append]
                        omega
                      exact .sub hp (ih _ hsub hrest rfl)
                    · rw [next_plain hv hs] at h
                      exact .command hv hs hiac (ih _ hlt h rfl)
          · rw [Transducer.state_cons, show telnet.next .between b = .between from if_neg hb] at h
            exact .data hb (ih _ (by simp) h rfl)

/-! ## 5. The cuts that change nothing -/

/-- The end of a chunk leaves the transducer alone between items and after an IAC. -/
theorem seamless_iff {q : Place} : telnet.Seamless q ↔ q = .between ∨ q = .command := by
  constructor
  · rintro ⟨hcut, _⟩
    cases q with
    | between => exact Or.inl rfl
    | command => exact Or.inr rfl
    | option v => cases hcut
    | sub => cases hcut
    | subIac => cases hcut
  · rintro (rfl | rfl) <;> exact ⟨rfl, rfl⟩

/-- Only an IAC between items begins a command. -/
theorem eq_command {q : Place} {b : UInt8} (h : telnet.next q b = .command) :
    q = .between ∧ b = IAC := by
  cases q with
  | between =>
      simp only [telnet] at h
      split_ifs at h with hb
      exact ⟨rfl, hb⟩
  | option v => cases h
  | command | sub | subIac =>
      simp only [telnet] at h
      split_ifs at h

theorem endsBetween_iff {l : List UInt8} :
    EndsBetween l ↔ telnet.Seamless (telnet.state .between l) := by
  rw [seamless_iff, EndsBetween, items_iff]
  refine or_congr Iff.rfl ⟨?_, fun h => ?_⟩
  · rintro ⟨items, hitems, rfl⟩
    rw [Transducer.state_append, hitems.state]
    rfl
  · obtain rfl | ⟨init, b, rfl⟩ := List.eq_nil_or_concat l
    · cases h
    · rw [List.concat_eq_append, Transducer.state_append] at h
      obtain ⟨hinit, rfl⟩ := eq_command h
      exact ⟨init, items_iff.mpr hinit, List.concat_eq_append⟩

theorem dataOf_append (es fs : List Effect) : dataOf (es ++ fs) = dataOf es ++ dataOf fs :=
  List.filterMap_append

/-- Replies are no data. -/
theorem dataOf_answer (v opt : UInt8) : dataOf (answer v opt) = [] := by
  unfold answer
  split_ifs <;> rfl

/-- **After any other cut a byte is read as data** that belongs to an option or to a
    subnegotiation. -/
theorem dataOf_cut {q : Place} (h : ¬telnet.Seamless q) :
    dataOf (telnet.flush q ++ telnet.piece (telnet.cut q) [65]) = [65] ∧
      dataOf (telnet.piece q [65]) = [] := by
  cases q with
  | between => exact absurd (seamless_iff.mpr (Or.inl rfl)) h
  | command => exact absurd (seamless_iff.mpr (Or.inr rfl)) h
  | option v =>
      constructor
      · rw [dataOf_append]
        show dataOf (answer v 0) ++ [65] = [65]
        rw [dataOf_answer, List.nil_append]
      · show dataOf ((answer v 65 ++ []) ++ []) = []
        rw [List.append_nil, List.append_nil, dataOf_answer]
  | sub => exact ⟨rfl, rfl⟩
  | subIac => exact ⟨rfl, rfl⟩

/-- The two results, from the transducer's. -/
theorem telnetNegotiate_received {chunks : List (List UInt8)} (h : ∀ c ∈ chunks, c ≠ []) :
    telnetNegotiate (received chunks) =
      (dataOf (telnet.pieces .between chunks), repliesOf (telnet.pieces .between chunks)) := by
  rw [telnetNegotiate, negotiate_received false h]
  rfl

theorem nonempty_snoc {cs : List (List UInt8)} {last : List UInt8} (h : ∀ c ∈ cs, c ≠ [])
    (hlast : last ≠ []) : ∀ c ∈ cs ++ [last], c ≠ [] := by
  intro c hc
  obtain hc | hc := List.mem_append.mp hc
  · exact h c hc
  · rw [List.mem_singleton.mp hc]
    exact hlast

/-- **Where the cuts may fall.** The chunks can be followed by anything, from any of their cuts on,
    with the data and the replies of the uncut stream, exactly when every cut falls between items
    or right after an IAC that begins one. -/
theorem telnet_chunks (chunks : List (List UInt8)) (h : ∀ c ∈ chunks, c ≠ []) :
    (∀ n ≤ chunks.length, ∀ last ≠ [],
      telnetNegotiate (received (chunks.take n ++ [last])) =
        telnetNegotiate (received [(chunks.take n).flatten ++ last])) ↔
    ∀ n ≤ chunks.length, EndsBetween (chunks.take n).flatten := by
  have htake : ∀ n, ∀ c ∈ chunks.take n, c ≠ [] := fun n c hc => h c (List.mem_of_mem_take hc)
  have hone : ∀ (l : List UInt8) {last : List UInt8}, last ≠ [] → ∀ c ∈ [l ++ last], c ≠ [] := by
    intro l last hlast c hc
    rw [List.mem_singleton.mp hc]
    simp [hlast]
  have hseamless : ∀ n ≤ chunks.length, (∀ m ≤ n, EndsBetween (chunks.take m).flatten) →
      telnet.SeamlessCuts .between (chunks.take n) := by
    intro n hn hends
    rw [Transducer.seamlessCuts_iff]
    intro m _ hm
    have hmn : m ≤ n := Nat.le_trans hm (List.length_take_le n chunks)
    rw [List.take_take, Nat.min_eq_left hmn, ← endsBetween_iff]
    exact hends m hmn
  constructor
  · intro hsame n
    -- the first cut that falls elsewhere has only seamless ones before it
    induction n using Nat.strongRecOn with
    | _ n ih =>
        intro hn
        cases n with
        | zero => exact Or.inl .nil
        | succ n =>
            have hcuts := hseamless n (Nat.le_of_succ_le hn) fun m hm =>
              ih m (Nat.lt_succ_of_le hm) (Nat.le_trans hm (Nat.le_of_succ_le hn))
            have hsnoc : chunks.take (n + 1) = chunks.take n ++ [chunks[n]] :=
              (List.take_append_getElem hn).symm
            have hflat : (chunks.take n).flatten ++ chunks[n] = (chunks.take (n + 1)).flatten := by
              rw [hsnoc, List.flatten_append, List.flatten_singleton]
            by_contra hbad
            rw [endsBetween_iff] at hbad
            obtain ⟨hcut, hwhole⟩ := dataOf_cut hbad
            have hdata := congrArg Prod.fst (hsame (n + 1) hn [65] (List.cons_ne_nil _ _))
            rw [telnetNegotiate_received (nonempty_snoc (htake _) (List.cons_ne_nil _ _)),
              telnetNegotiate_received (hone _ (List.cons_ne_nil _ _))] at hdata
            simp only [Transducer.pieces_singleton, Transducer.piece_append] at hdata
            rw [hsnoc, hcuts.pieces_cut, hflat, ← hsnoc, dataOf_append (telnet.output _ _), hcut,
              dataOf_append, hwhole] at hdata
            have hlength := congrArg List.length hdata
            rw [List.length_append, List.length_append] at hlength
            exact absurd (Nat.add_left_cancel hlength) (by decide)
  · intro hends n hn last hlast
    have hcuts := hseamless n hn fun m hm => hends m (Nat.le_trans hm hn)
    rw [telnetNegotiate_received (nonempty_snoc (htake n) hlast),
      telnetNegotiate_received (hone _ hlast), hcuts.pieces_last]

/-- Three chunks, cut after an option and after an IAC. -/
theorem telnet_chunks_small :
    telnetNegotiate (received [[IAC, DO, 1], [66, IAC], [DO, 3, 67]]) =
      telnetNegotiate (received [[IAC, DO, 1, 66, IAC, DO, 3, 67]]) := by
  have hitems : Items [IAC, DO, 1] := .option (by decide) .nil
  refine (telnet_chunks [[IAC, DO, 1], [66, IAC]] (by decide)).mpr ?_ 2 (by decide) [DO, 3, 67]
    (List.cons_ne_nil _ _)
  intro n hn
  match n, hn with
  | 0, _ => exact Or.inl .nil
  | 1, _ => exact Or.inl hitems
  | 2, _ => exact Or.inr ⟨[IAC, DO, 1, 66], .option (by decide) (.data (by decide) .nil), rfl⟩

/-- **A command cut after its verb** is answered for option 0, and its option becomes data. -/
theorem option_cut : ¬∀ chunks : List (List UInt8), (∀ c ∈ chunks, c ≠ []) →
    telnetNegotiate (received chunks) = telnetNegotiate (received [chunks.flatten]) := by
  intro h
  have hcut : telnetNegotiate (received [[IAC, DO], [1, 66]]) = ([1, 66], [[IAC, WONT, 0]]) := by
    decide
  have hwhole : telnetNegotiate (received [[IAC, DO, 1, 66]]) = ([66], [[IAC, WONT, 1]]) := by
    decide
  have hsame := h [[IAC, DO], [1, 66]] (by decide)
  rw [hcut, show [[IAC, DO], [1, 66]].flatten = [IAC, DO, 1, 66] from rfl, hwhole] at hsame
  exact absurd hsame (by decide)

end RetroBridge.Transport
