/-
  File:      RetroBridge/Transport/Encoding.lean
  Subject:   TELNET ENCODING AND ITS INVERSE (retrobridge/transport.py: `_telnet_negotiate`), for a
             stream that arrives in one chunk.

  * `Item`, `Item.encode` -- the items of a telnet stream and their bytes by the telnet rules, a
    byte 255 doubled in data and in payloads;
  * `Item.bytes`, `Item.replies` -- what a decoder has to return and to send for an item;
  * `afterEnd` -- what follows the first IAC SE of a list. The inner loop over a subnegotiation does
    not know the doubled IAC: it ends there, and `output_item`: what is left of the payload is read
    as data;
  * `decode_encode` -- **the negotiation inverts the encoding exactly when no subnegotiation holds
    an IAC SE before its last byte**.
-/
import RetroBridge.Transport.Telnet

namespace RetroBridge.Transport

open Piecewise

/-! ## 1. The telnet rules -/

/-- The four verbs that take an option. -/
inductive Verb where
  | will
  | wont
  | do
  | dont
  deriving DecidableEq, Repr

def Verb.byte : Verb → UInt8
  | .will => WILL
  | .wont => WONT
  | .do => DO
  | .dont => DONT

/-- A command of two bytes: no verb, no beginning of a subnegotiation, no escaped IAC. -/
structure Command where
  byte : UInt8
  notVerb : isVerb byte = false
  notSB : byte ≠ SB
  notIAC : byte ≠ IAC

/-- **The items of a telnet stream.** -/
inductive Item where
  | data (b : UInt8)
  | command (cmd : Command)
  | option (verb : Verb) (opt : UInt8)
  | subnegotiation (opt : UInt8) (payload : List UInt8)

/-- A byte 255 is doubled. -/
def escape (payload : List UInt8) : List UInt8 :=
  payload.flatMap fun b => if b = IAC then [IAC, IAC] else [b]

/-- The bytes of an item. -/
def Item.encode : Item → List UInt8
  | .data b => escape [b]
  | .command cmd => [IAC, cmd.byte]
  | .option verb opt => [IAC, verb.byte, opt]
  | .subnegotiation opt payload => IAC :: SB :: opt :: (escape payload ++ [IAC, SE])

/-- The data of an item. -/
def Item.bytes : Item → List UInt8
  | .data b => [b]
  | _ => []

/-- The answer an item asks for: every option is refused. -/
def Item.replies : Item → List (List UInt8)
  | .option .will opt => [[IAC, DONT, opt]]
  | .option .do opt => [[IAC, WONT, opt]]
  | _ => []

/-! ## 2. What the loop makes of an item -/

/-- What follows the first IAC SE of a list; nothing if there is none. -/
def afterEnd : List UInt8 → List UInt8
  | [] => []
  | b :: rest => if b = IAC ∧ rest.head? = some SE then rest.tail else afterEnd rest

theorem afterEnd_cons {b : UInt8} (hb : b ≠ IAC) (rest : List UInt8) :
    afterEnd (b :: rest) = afterEnd rest := if_neg fun h => hb h.1

theorem afterEnd_iac {c : UInt8} (hc : c ≠ SE) (rest : List UInt8) :
    afterEnd (IAC :: c :: rest) = afterEnd (c :: rest) := if_neg fun h => hc (Option.some.inj h.2)

/-- **Nothing follows the first IAC SE** exactly when there is none before the last byte. -/
theorem afterEnd_eq_nil {l : List UInt8} : afterEnd l = [] ↔ ¬ [IAC, SE] <:+: l.dropLast := by
  induction l with
  | nil => exact iff_of_true rfl (by decide)
  | cons b rest ih =>
      cases rest with
      | nil =>
          exact iff_of_true (if_neg fun h => absurd h.2 (by decide)) fun h =>
            List.cons_ne_nil _ _ (List.infix_nil.mp h)
      | cons c rest =>
          rw [List.dropLast_cons_cons, infix_end, not_or, ← ih]
          by_cases h : b = IAC ∧ c = SE
          · obtain ⟨rfl, rfl⟩ := h
            have hend : afterEnd (IAC :: SE :: rest) = rest := if_pos ⟨rfl, rfl⟩
            rw [hend]
            cases rest with
            | nil => exact iff_of_true rfl ⟨fun h => absurd h.2 (by decide), rfl⟩
            | cons d rest =>
                rw [List.dropLast_cons_cons]
                exact iff_of_false (List.cons_ne_nil d rest) fun h => h.1 ⟨rfl, rfl⟩
          · have hnext : afterEnd (b :: c :: rest) = afterEnd (c :: rest) :=
              if_neg fun h' => h ⟨h'.1, Option.some.inj h'.2⟩
            rw [hnext]
            refine ⟨fun hnil => ⟨fun h' => h ⟨h'.1, ?_⟩, hnil⟩, fun h' => h'.2⟩
            have hhead := h'.2
            cases rest with
            | nil => cases hhead
            | cons d rest => exact Option.some.inj hhead

/-- The transducer at a place: over these bytes it emits this and ends between items. -/
def Emits (q : Place) (l : List UInt8) (es : List Effect) : Prop :=
  telnet.output q l = es ∧ telnet.state q l = .between

/-- A byte before. -/
theorem Emits.cons {q q' : Place} {b : UInt8} {l : List UInt8} {es es' : List Effect}
    (h : Emits q' l es) (hnext : telnet.next q b = q') (hemit : telnet.emit q b = es') :
    Emits q (b :: l) (es' ++ es) := by
  subst hnext hemit
  exact ⟨by rw [Transducer.output_cons, h.1], h.2⟩

theorem Emits.append {l m : List UInt8} {es es' : List Effect} {q : Place}
    (h : Emits q l es) (h' : Emits .between m es') : Emits q (l ++ m) (es ++ es') := by
  refine ⟨?_, ?_⟩
  · rw [Transducer.output_append, h.1, h.2, h'.1]
  · rw [Transducer.state_append, h.2, h'.2]

theorem escape_cons (b : UInt8) (p : List UInt8) :
    escape (b :: p) = (if b = IAC then [IAC, IAC] else [b]) ++ escape p := List.flatMap_cons

/-- Between items a doubled IAC is the byte itself. -/
theorem emits_escape (p : List UInt8) : Emits .between (escape p) (p.map .data) := by
  induction p with
  | nil => exact ⟨rfl, rfl⟩
  | cons b p ih =>
      rw [escape_cons]
      by_cases hb : b = IAC
      · subst hb
        exact (ih.cons rfl rfl).cons rfl rfl
      · have hnext : telnet.next .between b = .between := if_neg hb
        have hemit : telnet.emit .between b = [.data b] := if_neg hb
        rw [if_neg hb]
        exact ih.cons hnext hemit

/-- What is left of a payload after its subnegotiation has ended, with the IAC SE that should have
    ended it. -/
theorem emits_left (p : List UInt8) : Emits .between (escape p ++ [IAC, SE]) (p.map .data) := by
  have hend : Emits .between [IAC, SE] [] := ⟨rfl, rfl⟩
  have h := (emits_escape p).append hend
  rw [List.append_nil] at h
  exact h

/-- **The inner loop over a payload**: the induction is on the payload, for both places in it. -/
theorem emits_payload (p : List UInt8) :
    Emits .sub (escape p ++ [IAC, SE]) ((afterEnd p).map .data) ∧
      Emits .subIac (escape p ++ [IAC, SE]) ((afterEnd (IAC :: p)).map .data) := by
  induction p with
  | nil => exact ⟨⟨rfl, rfl⟩, ⟨rfl, rfl⟩⟩
  | cons b p ih =>
      obtain ⟨hsub, hiac⟩ := ih
      rw [escape_cons]
      by_cases hb : b = IAC
      · subst hb
        rw [afterEnd_iac (by decide)]
        exact ⟨(hiac.cons rfl rfl).cons rfl rfl, (hiac.cons rfl rfl).cons rfl rfl⟩
      · have hnext : telnet.next .sub b = .sub := if_neg hb
        rw [if_neg hb, afterEnd_cons hb]
        refine ⟨hsub.cons hnext rfl, ?_⟩
        by_cases hse : b = SE
        · subst hse
          exact (emits_left p).cons rfl rfl
        · rw [afterEnd_iac hse, afterEnd_cons hb]
          have hother : telnet.next .subIac b = .sub := by
            show (if b = SE then Place.between else if b = IAC then .subIac else .sub) = .sub
            rw [if_neg hse, if_neg hb]
          exact hsub.cons hother rfl

/-- The loop over a whole subnegotiation; its option is read as part of the payload. -/
theorem emits_subnegotiation (opt : UInt8) (p : List UInt8) :
    Emits .sub (opt :: (escape p ++ [IAC, SE])) ((afterEnd (opt :: p)).map .data) := by
  obtain ⟨hsub, hiac⟩ := emits_payload p
  by_cases hopt : opt = IAC
  · subst hopt
    exact hiac.cons rfl rfl
  · have hnext : telnet.next .sub opt = .sub := if_neg hopt
    rw [afterEnd_cons hopt]
    exact hsub.cons hnext rfl

/-- The part of a subnegotiation that the loop reads as data. -/
def Item.leaked : Item → List UInt8
  | .subnegotiation opt payload => afterEnd (opt :: payload)
  | _ => []

/-- What the loop does for an item. -/
def Item.effects : Item → List Effect
  | .option verb opt => answer verb.byte opt
  | i => (i.bytes ++ i.leaked).map .data

theorem verb_isVerb (v : Verb) : isVerb v.byte = true := by cases v <;> decide

theorem verb_ne_iac (v : Verb) : v.byte ≠ IAC := by cases v <;> decide

/-- **An item in the loop.** -/
theorem output_item (i : Item) : Emits .between i.encode i.effects := by
  cases i with
  | data b => exact emits_escape [b]
  | command cmd =>
      have hverb : ¬isVerb cmd.byte = true := by rw [cmd.notVerb]; decide
      have hnil : Emits .between [] [] := ⟨rfl, rfl⟩
      exact (hnil.cons (next_plain hverb cmd.notSB) (emit_command cmd.notIAC)).cons rfl rfl
  | option verb opt =>
      have hnil : Emits .between [] [] := ⟨rfl, rfl⟩
      have hopt : Emits (.option verb.byte) [opt] (answer verb.byte opt) := by
        have h := @Emits.cons (.option verb.byte) .between opt [] [] _ hnil rfl rfl
        rw [List.append_nil] at h
        exact h
      have hverb := hopt.cons (next_verb (verb_ne_iac verb) (verb_isVerb verb))
        (emit_command (verb_ne_iac verb))
      exact hverb.cons rfl rfl
  | subnegotiation opt payload =>
      exact ((emits_subnegotiation opt payload).cons rfl rfl).cons rfl rfl

/-- The items of a stream, one after the other. -/
theorem output_items (items : List Item) :
    Emits .between (items.flatMap Item.encode) (items.flatMap Item.effects) := by
  induction items with
  | nil => exact ⟨rfl, rfl⟩
  | cons i items ih =>
      rw [List.flatMap_cons, List.flatMap_cons]
      exact (output_item i).append ih

/-! ## 3. The data and the replies -/

theorem dataOf_map (p : List UInt8) : dataOf (p.map .data) = p := by
  induction p with
  | nil => rfl
  | cons b p ih =>
      show b :: dataOf (p.map .data) = b :: p
      rw [ih]

theorem repliesOf_map (p : List UInt8) : repliesOf (p.map .data) = [] := by
  induction p with
  | nil => rfl
  | cons b p ih => exact ih

theorem dataOf_effects (i : Item) : dataOf i.effects = i.bytes ++ i.leaked := by
  cases i with
  | option verb opt => exact dataOf_answer verb.byte opt
  | data b => exact dataOf_map _
  | command cmd => exact dataOf_map _
  | subnegotiation opt payload => exact dataOf_map _

theorem repliesOf_effects (i : Item) : repliesOf i.effects = i.replies := by
  cases i with
  | option verb opt => cases verb <;> rfl
  | data b => exact repliesOf_map _
  | command cmd => exact repliesOf_map _
  | subnegotiation opt payload => exact repliesOf_map _

/-- The data of a stream, with what leaks into it. -/
theorem dataOf_items (items : List Item) :
    dataOf (items.flatMap Item.effects) = items.flatMap fun i => i.bytes ++ i.leaked := by
  induction items with
  | nil => rfl
  | cons i items ih => rw [List.flatMap_cons, List.flatMap_cons, dataOf_append, dataOf_effects, ih]

theorem repliesOf_items (items : List Item) :
    repliesOf (items.flatMap Item.effects) = items.flatMap Item.replies := by
  induction items with
  | nil => rfl
  | cons i items ih =>
      rw [List.flatMap_cons, List.flatMap_cons, ← ih, ← repliesOf_effects]
      exact List.filterMap_append

theorem length_flatMap_append {α β : Type*} (f g : α → List β) (l : List α) :
    (l.flatMap fun a => f a ++ g a).length = (l.flatMap f).length + (l.flatMap g).length := by
  induction l with
  | nil => rfl
  | cons a l ih =>
      simp only [List.flatMap_cons, List.length_append, ih]
      omega

/-- Something inserted into a list of lists shows. -/
theorem flatMap_append_eq {α β : Type*} {f g : α → List β} {l : List α} :
    (l.flatMap fun a => f a ++ g a) = l.flatMap f ↔ ∀ a ∈ l, g a = [] := by
  constructor
  · intro h
    have hlength := congrArg List.length h
    rw [length_flatMap_append] at hlength
    exact List.flatMap_eq_nil_iff.mp (List.eq_nil_of_length_eq_zero (by omega))
  · intro h
    induction l with
    | nil => rfl
    | cons a l ih =>
        rw [List.flatMap_cons, List.flatMap_cons, h a List.mem_cons_self, List.append_nil,
          ih fun b hb => h b (List.mem_cons_of_mem a hb)]

/-! ## 4. Decoding inverts encoding -/

/-- No IAC SE in the option and the payload, unless it ends them. -/
def Item.EndsOnce : Item → Prop
  | .subnegotiation opt payload => ¬ [IAC, SE] <:+: (opt :: payload).dropLast
  | _ => True

theorem leaked_eq_nil {i : Item} : i.leaked = [] ↔ i.EndsOnce := by
  cases i with
  | subnegotiation opt payload => exact afterEnd_eq_nil
  | data b => exact iff_of_true rfl trivial
  | command cmd => exact iff_of_true rfl trivial
  | option verb opt => exact iff_of_true rfl trivial

/-- What one chunk gives, the empty one included. -/
theorem telnetNegotiate_one (l : List UInt8) : telnetNegotiate (received [l]) =
    (dataOf (telnet.piece .between l), repliesOf (telnet.piece .between l)) := by
  cases l with
  | nil => rfl
  | cons b l =>
      rw [telnetNegotiate_received (by simp), Transducer.pieces_singleton]

/-- **What the negotiation makes of an encoded stream.** -/
theorem negotiate_encoded (items : List Item) :
    telnetNegotiate (received [items.flatMap Item.encode]) =
      (items.flatMap fun i => i.bytes ++ i.leaked, items.flatMap Item.replies) := by
  obtain ⟨houtput, hstate⟩ := output_items items
  have hpiece : telnet.piece .between (items.flatMap Item.encode) =
      items.flatMap Item.effects := by
    rw [Transducer.piece, houtput, hstate]
    exact List.append_nil _
  rw [telnetNegotiate_one, hpiece, dataOf_items, repliesOf_items]

/-- **Decoding inverts encoding** -- the data bytes in order, and the refusals in order and
    nothing else -- exactly for the streams whose subnegotiations hold an IAC SE nowhere but at
    their end. -/
theorem decode_encode (items : List Item) :
    telnetNegotiate (received [items.flatMap Item.encode]) =
      (items.flatMap Item.bytes, items.flatMap Item.replies) ↔ ∀ i ∈ items, i.EndsOnce := by
  rw [negotiate_encoded, Prod.mk.injEq, and_iff_left rfl, flatMap_append_eq]
  exact forall₂_congr fun _ _ => leaked_eq_nil

/-- **A payload byte 255 before a byte 240**: its doubled IAC is read as the end. -/
theorem payload_leaks : ¬∀ items : List Item,
    telnetNegotiate (received [items.flatMap Item.encode]) =
      (items.flatMap Item.bytes, items.flatMap Item.replies) := by
  intro h
  have hcut : telnetNegotiate (received [[IAC, SB, 24, IAC, IAC, SE, 65, IAC, SE]]) =
      ([65], []) := by decide
  have hsame := h [.subnegotiation 24 [IAC, SE, 65]]
  rw [show [Item.subnegotiation 24 [IAC, SE, 65]].flatMap Item.encode =
    [IAC, SB, 24, IAC, IAC, SE, 65, IAC, SE] from rfl, hcut] at hsame
  exact absurd hsame (by decide)

end RetroBridge.Transport
