/-
  File:      RetroBridge/Library/Dict.lean
  Subject:   AN INSERTION-ORDERED DICTIONARY: a key is there once, a new key goes to the end, and an
             assignment to a key that is there keeps its place.

  * `Dict κ α` -- the entries in order, with the proof that no key occurs twice;
  * `get?`, `set`, `erase`, `modify`, `find?` -- lookup, assignment, deletion, an update of the
    value in place, and the first entry whose value meets a predicate;
  * `get?_set`, `get?_erase`, `get?_modify` -- each as a change of the lookup function, which is all
    that the order does not decide; `find?_some`, `find?_none`, `find?_modify` -- what a search says
    of lookup, and what it finds after an update that it does not see;
  * `count`, `count_set` -- the values that meet a predicate, and their number after an assignment;
  * `setAll` -- one assignment after the other; `get?_setAll`, `get?_setAll_of_not_mem`.
-/
import Mathlib.Data.List.Basic
import Mathlib.Data.List.Find
import Mathlib.Data.List.Nodup
import Mathlib.Tactic.Common

namespace Ordered

/-- **A dictionary**: entries in order of insertion, no key twice. -/
structure Dict (κ α : Type*) where
  entries : List (κ × α)
  nodup : (entries.map Prod.fst).Nodup

namespace Dict

variable {κ α : Type*}

/-- The dictionary without entries. -/
def empty : Dict κ α := ⟨[], List.nodup_nil⟩

theorem ext_entries {d d' : Dict κ α} (h : d.entries = d'.entries) : d = d' := by
  cases d
  cases d'
  cases h
  rfl

variable [DecidableEq κ]

/-! ## 1. Lookup -/

/-- The value at a key. -/
def get? (d : Dict κ α) (k : κ) : Option α := (d.entries.find? fun e => e.1 = k).map Prod.snd

/-- **Lookup is membership.** -/
theorem get?_eq_some {d : Dict κ α} {k : κ} {v : α} : d.get? k = some v ↔ (k, v) ∈ d.entries := by
  constructor
  · intro h
    obtain ⟨⟨k', v'⟩, he, rfl⟩ := Option.map_eq_some_iff.mp h
    have hk : k' = k := by simpa using List.find?_some he
    rw [← hk]
    exact List.mem_of_find?_eq_some he
  · intro h
    cases hf : d.entries.find? fun e => e.1 = k with
    | none => exact absurd (List.find?_eq_none.mp hf _ h) (by simp)
    | some e =>
        have he : e ∈ d.entries := List.mem_of_find?_eq_some hf
        have hk : e.1 = k := by simpa using List.find?_some hf
        have heq : e = (k, v) := List.inj_on_of_nodup_map d.nodup he h hk
        rw [get?, hf, heq]
        rfl

theorem get?_empty (k : κ) : (empty : Dict κ α).get? k = none := rfl

/-! ## 2. Deletion and update in place -/

/-- `del d[k]`, or `d.pop(k, None)` without its answer. -/
def erase (d : Dict κ α) (k : κ) : Dict κ α where
  entries := d.entries.filter fun e => e.1 ≠ k
  nodup := d.nodup.sublist ((List.filter_sublist).map Prod.fst)

theorem get?_erase (d : Dict κ α) (k k' : κ) :
    (d.erase k).get? k' = if k' = k then none else d.get? k' := by
  have hmem : ∀ v, (d.erase k).get? k' = some v ↔ k' ≠ k ∧ d.get? k' = some v := by
    intro v
    rw [get?_eq_some, get?_eq_some]
    show (k', v) ∈ d.entries.filter _ ↔ _
    simp [List.mem_filter, and_comm]
  refine Option.ext fun v => ?_
  rw [hmem v]
  by_cases h : k' = k <;> simp [h]

/-- Change the value at a key where it is. -/
def modify (d : Dict κ α) (k : κ) (f : α → α) : Dict κ α where
  entries := d.entries.map fun e => if e.1 = k then (e.1, f e.2) else e
  nodup := by
    have e : (d.entries.map fun e => if e.1 = k then (e.1, f e.2) else e).map Prod.fst =
        d.entries.map Prod.fst := by
      rw [List.map_map]
      refine List.map_congr_left fun e _ => ?_
      simp only [Function.comp_apply]
      split <;> rfl
    rw [e]
    exact d.nodup

theorem get?_modify (d : Dict κ α) (k : κ) (f : α → α) (k' : κ) :
    (d.modify k f).get? k' = if k' = k then (d.get? k').map f else d.get? k' := by
  have hmem : ∀ v, (d.modify k f).get? k' = some v ↔
      ∃ v', d.get? k' = some v' ∧ v = if k' = k then f v' else v' := by
    intro v
    rw [get?_eq_some]
    constructor
    · intro h
      obtain ⟨⟨k'', v''⟩, he, heq⟩ := List.mem_map.mp h
      by_cases hk : k'' = k
      · simp only [hk, if_true, Prod.mk.injEq] at heq
        obtain ⟨rfl, rfl⟩ := heq
        exact ⟨v'', get?_eq_some.mpr (hk ▸ he), by simp⟩
      · simp only [hk, if_false, Prod.mk.injEq] at heq
        obtain ⟨rfl, rfl⟩ := heq
        exact ⟨v'', get?_eq_some.mpr he, by simp [hk]⟩
    · rintro ⟨v', hv', rfl⟩
      refine List.mem_map.mpr ⟨(k', v'), get?_eq_some.mp hv', ?_⟩
      by_cases hk : k' = k <;> simp [hk]
  refine Option.ext fun v => ?_
  rw [hmem v]
  by_cases h : k' = k
  · simp only [h, if_true, Option.map_eq_some_iff]
    constructor
    · rintro ⟨v', hv', rfl⟩; exact ⟨v', hv', rfl⟩
    · rintro ⟨v', hv', rfl⟩; exact ⟨v', hv', rfl⟩
  · simp [h]

/-- Change every value where it is. -/
def mapValues (d : Dict κ α) (f : α → α) : Dict κ α where
  entries := d.entries.map fun e => (e.1, f e.2)
  nodup := by
    have e : (d.entries.map fun e => (e.1, f e.2)).map Prod.fst = d.entries.map Prod.fst := by
      rw [List.map_map]
      rfl
    rw [e]
    exact d.nodup

omit [DecidableEq κ] in
theorem mem_mapValues {d : Dict κ α} {f : α → α} {e : κ × α} :
    e ∈ (d.mapValues f).entries ↔ ∃ v, (e.1, v) ∈ d.entries ∧ e.2 = f v := by
  constructor
  · intro h
    obtain ⟨e', he', rfl⟩ := List.mem_map.mp h
    exact ⟨e'.2, he', rfl⟩
  · rintro ⟨v, hv, hf⟩
    refine List.mem_map.mpr ⟨(e.1, v), hv, ?_⟩
    rw [← hf]

theorem get?_mapValues (d : Dict κ α) (f : α → α) (k : κ) :
    (d.mapValues f).get? k = (d.get? k).map f := by
  refine Option.ext fun v => ?_
  rw [get?_eq_some, mem_mapValues, Option.map_eq_some_iff]
  constructor
  · rintro ⟨u, hu, rfl⟩
    exact ⟨u, get?_eq_some.mpr hu, rfl⟩
  · rintro ⟨u, hu, rfl⟩
    exact ⟨u, get?_eq_some.mp hu, rfl⟩

/-! ## 3. Assignment -/

/-- `d[k] = v`. -/
def set (d : Dict κ α) (k : κ) (v : α) : Dict κ α :=
  if h : k ∈ d.entries.map Prod.fst then d.modify k fun _ => v
  else ⟨d.entries ++ [(k, v)], by
    rw [List.map_append, List.map_singleton]
    refine List.nodup_append.mpr ⟨d.nodup, List.nodup_singleton _, fun a ha b hb hab => h ?_⟩
    rw [hab, List.mem_singleton.mp hb] at ha
    exact ha⟩

theorem get?_set (d : Dict κ α) (k : κ) (v : α) (k' : κ) :
    (d.set k v).get? k' = if k' = k then some v else d.get? k' := by
  unfold set
  split
  · rename_i h
    obtain ⟨⟨k'', v''⟩, he, rfl⟩ := List.mem_map.mp h
    rw [get?_modify]
    by_cases hk : k' = k''
    · subst hk
      rw [if_pos rfl, if_pos rfl, get?_eq_some.mpr he]
      rfl
    · rw [if_neg hk, if_neg hk]
  · rename_i h
    refine Option.ext fun u => ?_
    rw [get?_eq_some]
    show (k', u) ∈ d.entries ++ [(k, v)] ↔ _
    by_cases hk : k' = k
    · subst hk
      have hnot : ∀ u, (k', u) ∉ d.entries := fun u hm => h (List.mem_map.mpr ⟨_, hm, rfl⟩)
      simp [hnot, eq_comm]
    · simp [hk, get?_eq_some]

/-! ## 4. The first entry that meets a predicate -/

/-- The first entry whose value meets `p`. -/
def find? (d : Dict κ α) (p : α → Bool) : Option (κ × α) := d.entries.find? fun e => p e.2

theorem find?_some {d : Dict κ α} {p : α → Bool} {e : κ × α} (h : d.find? p = some e) :
    d.get? e.1 = some e.2 ∧ p e.2 = true := by
  have hf : d.entries.find? (fun e => p e.2) = some e := h
  exact ⟨get?_eq_some.mpr (List.mem_of_find?_eq_some hf), by simpa using List.find?_some hf⟩

theorem find?_none {d : Dict κ α} {p : α → Bool} (h : d.find? p = none) {k : κ} {v : α}
    (hv : d.get? k = some v) : p v = false := by
  have := List.find?_eq_none.mp h (k, v) (get?_eq_some.mp hv)
  simpa using this

/-- Predicates that agree on the values find one entry. -/
theorem find?_congr {d : Dict κ α} {p p' : α → Bool} (h : ∀ k v, d.get? k = some v → p v = p' v) :
    d.find? p = d.find? p' :=
  List.find?_congr fun e he => h e.1 e.2 (get?_eq_some.mpr he)

/-- An update in place that the predicate does not see does not change which key is found. -/
theorem find?_modify {d : Dict κ α} {k : κ} {f : α → α} {p : α → Bool} (hp : ∀ v, p (f v) = p v) :
    ((d.modify k f).find? p).map Prod.fst = (d.find? p).map Prod.fst := by
  show ((d.entries.map _).find? _).map _ = (d.entries.find? _).map _
  rw [List.find?_map, Option.map_map]
  have hpred : (fun e : κ × α => p e.2) ∘ (fun e => if e.1 = k then (e.1, f e.2) else e) =
      fun e => p e.2 := by
    funext e
    simp only [Function.comp_apply]
    split
    · exact hp e.2
    · rfl
  have hkey : Prod.fst ∘ (fun e : κ × α => if e.1 = k then (e.1, f e.2) else e) = Prod.fst := by
    funext e
    simp only [Function.comp_apply]
    split <;> rfl
  rw [hpred, hkey]

/-- Deleting a key forgets an update of its value. -/
theorem erase_modify (d : Dict κ α) (k : κ) (f : α → α) : (d.modify k f).erase k = d.erase k := by
  refine ext_entries ?_
  show (d.entries.map _).filter _ = d.entries.filter _
  rw [List.filter_map]
  have hself : ∀ e ∈ d.entries.filter fun e => e.1 ≠ k,
      (if e.1 = k then (e.1, f e.2) else e) = e := fun e he =>
    if_neg (by simpa using (List.mem_filter.mp he).2)
  have hsame : (d.entries.filter ((fun e : κ × α => decide (e.1 ≠ k)) ∘
      fun e => if e.1 = k then (e.1, f e.2) else e)) = d.entries.filter fun e => e.1 ≠ k := by
    refine List.filter_congr fun e _ => ?_
    simp only [Function.comp_apply]
    split <;> rfl
  rw [hsame]
  exact (List.map_congr_left hself).trans (List.map_id _)

/-! ## 5. Counting -/

/-- The number of values that meet `p`. -/
def count (d : Dict κ α) (p : α → Bool) : Nat := d.entries.countP fun e => p e.2

/-- The number after an update in place, on the entries. -/
theorem countP_update {l : List (κ × α)} (hl : (l.map Prod.fst).Nodup) {k : κ} {u : α}
    (hu : (k, u) ∈ l) (v : α) (p : α → Bool) :
    (l.map fun e => if e.1 = k then (e.1, v) else e).countP (fun e => p e.2) + (p u).toNat =
      l.countP (fun e => p e.2) + (p v).toNat := by
  induction l with
  | nil => cases hu
  | cons e l ih =>
      obtain ⟨hnot, hl'⟩ := List.nodup_cons.mp hl
      rw [List.map_cons, List.countP_cons, List.countP_cons]
      by_cases hk : e.1 = k
      · subst hk
        have htail : (l.map fun e' => if e'.1 = e.1 then (e'.1, v) else e') = l := by
          refine (List.map_congr_left fun e' he' => ?_).trans (List.map_id _)
          exact if_neg fun h => hnot (List.mem_map.mpr ⟨e', he', h⟩)
        have he : e.2 = u := by
          rcases List.mem_cons.mp hu with hu | hu
          · exact (congrArg Prod.snd hu).symm
          · exact absurd (List.mem_map.mpr ⟨_, hu, rfl⟩) hnot
        rw [htail, if_pos rfl, he]
        cases p u <;> cases p v <;> simp
      · have hu' : (k, u) ∈ l := by
          rcases List.mem_cons.mp hu with hu | hu
          · exact absurd (congrArg Prod.fst hu).symm hk
          · exact hu
        have := ih hl' hu'
        rw [if_neg hk]
        omega

/-- **Assignment**: the old value stops counting, the new one counts. -/
theorem count_set (d : Dict κ α) (k : κ) (v : α) (p : α → Bool) :
    (d.set k v).count p + ((d.get? k).any p).toNat = d.count p + (p v).toNat := by
  unfold set
  split
  · rename_i h
    obtain ⟨⟨k', u⟩, he, rfl⟩ := List.mem_map.mp h
    rw [get?_eq_some.mpr he]
    exact countP_update d.nodup he v p
  · rename_i h
    have hnone : d.get? k = none := by
      cases hg : d.get? k with
      | none => rfl
      | some u => exact absurd (List.mem_map.mpr ⟨_, get?_eq_some.mp hg, rfl⟩) h
    rw [hnone]
    show (d.entries ++ [(k, v)]).countP _ + 0 = d.entries.countP _ + _
    rw [List.countP_append, List.countP_singleton]
    cases p v <;> rfl

/-! ## 6. Several assignments -/

/-- One assignment after the other. -/
def setAll (d : Dict κ α) (l : List (κ × α)) : Dict κ α := l.foldl (fun d e => d.set e.1 e.2) d

theorem get?_setAll_of_not_mem {l : List (κ × α)} {k : κ} (h : k ∉ l.map Prod.fst)
    (d : Dict κ α) : (d.setAll l).get? k = d.get? k := by
  induction l generalizing d with
  | nil => rfl
  | cons e l ih =>
      rw [List.map_cons, List.mem_cons, not_or] at h
      show ((d.set e.1 e.2).setAll l).get? k = _
      rw [ih h.2, get?_set, if_neg h.1]

/-- **Several assignments to different keys**: each key has its value. -/
theorem get?_setAll {l : List (κ × α)} (hl : (l.map Prod.fst).Nodup) {k : κ} {v : α}
    (h : (k, v) ∈ l) (d : Dict κ α) : (d.setAll l).get? k = some v := by
  induction l generalizing d with
  | nil => exact absurd h List.not_mem_nil
  | cons e l ih =>
      obtain ⟨hnot, hl'⟩ := List.nodup_cons.mp hl
      show ((d.set e.1 e.2).setAll l).get? k = some v
      rcases List.mem_cons.mp h with rfl | h
      · rw [get?_setAll_of_not_mem hnot, get?_set, if_pos rfl]
      · exact ih hl' h _

end Dict

end Ordered
