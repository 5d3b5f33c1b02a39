/-
  File:      RetroBridge/Library/Table.lean
  Subject:   A TABLE WITH AN INTEGER PRIMARY KEY: rows in a list, no key twice, and the four
             statements a relational store runs on it.

  * `Table ρ` -- the rows with the proof that no key occurs twice, so an ill-keyed table cannot
    be built;
  * `get?`, `insert`, `nextKey`, `mapRows` (an UPDATE as a row transformer that keeps keys; with
    `atKey`, of the row with one key), `filterRows` (a DELETE), `count` -- the statements;
    `nextKey` is max(key) + 1;
  * `mem_mapRows`, `get?_mapRows`, `count_mapRows_le`, `count_mapRows_le_succ`,
    `count_mapRows_lt`, `count_mapRows_le_add` -- what an UPDATE does to membership, to lookups and
    to counts;
  * `card_le_count` -- the counting rule: holders that can be sent one-to-one to rows meeting a
    predicate are at most as many as these rows.
-/
import Mathlib.Data.List.Basic
import Mathlib.Data.List.Nodup
import Mathlib.Data.Finset.Card
import Mathlib.Data.Finset.Image
import Mathlib.Tactic.Common

namespace Relational

/-- Rows with an integer primary key. -/
class Keyed (ρ : Type*) where
  key : ρ → Nat

export Keyed (key)

/-- **A table**: rows, no key twice. -/
structure Table (ρ : Type*) [Keyed ρ] where
  rows : List ρ
  nodup : (rows.map key).Nodup

namespace Table

variable {ρ : Type*} [Keyed ρ]

instance : Membership ρ (Table ρ) := ⟨fun t r => r ∈ t.rows⟩

theorem mem_def {t : Table ρ} {r : ρ} : r ∈ t ↔ r ∈ t.rows := Iff.rfl

/-- The table without rows. -/
def empty : Table ρ := ⟨[], List.nodup_nil⟩

/-- Two rows of a table with one key are one row. -/
theorem eq_of_key {t : Table ρ} {r r' : ρ} (h : r ∈ t) (h' : r' ∈ t) (hk : key r = key r') :
    r = r' :=
  List.inj_on_of_nodup_map t.nodup h h' hk

/-! ## 1. Lookup -/

/-- The row with key `k`. -/
def get? (t : Table ρ) (k : Nat) : Option ρ := t.rows.find? fun r => key r == k

theorem get?_eq_some {t : Table ρ} {k : Nat} {r : ρ} : t.get? k = some r ↔ r ∈ t ∧ key r = k := by
  constructor
  · intro h
    exact ⟨List.mem_of_find?_eq_some h, by simpa using List.find?_some h⟩
  · rintro ⟨hr, rfl⟩
    cases h : t.get? (key r) with
    | none => exact absurd (List.find?_eq_none.mp h r hr) (by simp)
    | some r' =>
        have hr' : r' ∈ t := List.mem_of_find?_eq_some h
        have hk : key r' = key r := by simpa using List.find?_some h
        rw [eq_of_key hr' hr hk]

theorem get?_eq_none {t : Table ρ} {k : Nat} : t.get? k = none ↔ ∀ r ∈ t, key r ≠ k := by
  simp [get?, List.find?_eq_none, mem_def]

theorem get?_key {t : Table ρ} {r : ρ} (h : r ∈ t) : t.get? (key r) = some r :=
  get?_eq_some.mpr ⟨h, rfl⟩

/-! ## 2. UPDATE -/

/-- Rewrite every row by a transformer that keeps keys. -/
def mapRows (t : Table ρ) (f : ρ → ρ) (hf : ∀ r, key (f r) = key r) : Table ρ where
  rows := t.rows.map f
  nodup := by
    have e : (t.rows.map f).map key = t.rows.map key := by
      rw [List.map_map]
      exact List.map_congr_left fun r _ => hf r
    rw [e]
    exact t.nodup

section MapRows

variable {t : Table ρ} {f : ρ → ρ} {hf : ∀ r, key (f r) = key r}

theorem mem_mapRows {r' : ρ} : r' ∈ t.mapRows f hf ↔ ∃ r ∈ t, f r = r' := List.mem_map

theorem mem_mapRows_of {r : ρ} (h : r ∈ t) : f r ∈ t.mapRows f hf := mem_mapRows.mpr ⟨r, h, rfl⟩

theorem get?_mapRows {k : Nat} : (t.mapRows f hf).get? k = (t.get? k).map f := by
  cases h : t.get? k with
  | none =>
      refine get?_eq_none.mpr fun r' hr' => ?_
      obtain ⟨r, hr, rfl⟩ := mem_mapRows.mp hr'
      rw [hf r]
      exact get?_eq_none.mp h r hr
  | some r =>
      obtain ⟨hr, hk⟩ := get?_eq_some.mp h
      exact get?_eq_some.mpr ⟨mem_mapRows_of hr, (hf r).trans hk⟩

theorem mapRows_id (h : ∀ r ∈ t, f r = r) : t.mapRows f hf = t := by
  cases t with
  | mk rows nodup =>
    simp only [mapRows, Table.mk.injEq]
    exact (List.map_congr_left h).trans (List.map_id rows)

end MapRows

/-! ## 3. The row with one key -/

/-- Rewrite the row with key `k`. -/
def atKey (k : Nat) (f : ρ → ρ) (r : ρ) : ρ := if key r = k then f r else r

theorem atKey_key {k : Nat} (f : ρ → ρ) (hf : ∀ r, key (f r) = key r) (r : ρ) :
    key (atKey k f r) = key r := by
  unfold atKey
  split
  · exact hf r
  · rfl

theorem atKey_self {k : Nat} {f : ρ → ρ} {r : ρ} (h : key r = k) : atKey k f r = f r := if_pos h

/-- An UPDATE of one row, as a change of the lookups. -/
theorem get?_mapRows_atKey {t : Table ρ} {k : Nat} {f : ρ → ρ} (hf : ∀ r, key (f r) = key r)
    (j : Nat) : (t.mapRows (atKey k f) (atKey_key f hf)).get? j =
      if j = k then (t.get? j).map f else t.get? j := by
  rw [get?_mapRows]
  cases h : t.get? j with
  | none => split <;> rfl
  | some r =>
      obtain ⟨-, rfl⟩ := get?_eq_some.mp h
      show some (atKey k f r) = _
      unfold atKey
      split <;> rfl

theorem atKey_other {k : Nat} {f : ρ → ρ} {r : ρ} (h : key r ≠ k) : atKey k f r = r := if_neg h

/-! ## 4. INSERT and DELETE -/

/-- The key the store gives a new row: the largest key plus one. -/
def nextKey (t : Table ρ) : Nat := (t.rows.map key).foldr max 0 + 1

theorem key_lt_nextKey {t : Table ρ} {r : ρ} (h : r ∈ t) : key r < t.nextKey := by
  have aux : ∀ (l : List Nat) (n : Nat), n ∈ l → n ≤ l.foldr max 0 := by
    intro l
    induction l with
    | nil => intro n hn; exact absurd hn List.not_mem_nil
    | cons m l ih =>
        intro n hn
        rcases List.mem_cons.mp hn with rfl | hn
        · exact le_max_left _ _
        · exact le_trans (ih n hn) (le_max_right _ _)
  exact Nat.lt_succ_of_le (aux _ _ (List.mem_map_of_mem h))

/-- Add a row; the UNIQUE constraint refuses a key that is there. -/
def insert (t : Table ρ) (r : ρ) : Table ρ :=
  if h : key r ∈ t.rows.map key then t
  else ⟨t.rows ++ [r], by
    rw [List.map_append, List.map_singleton]
    exact List.nodup_append.mpr ⟨t.nodup, List.nodup_singleton _, fun a ha b hb => by
      rw [List.mem_singleton.mp hb]
      exact fun e => h (e ▸ ha)⟩⟩

theorem mem_insert {t : Table ρ} {r q : ρ} (h : q ∈ t.insert r) : q ∈ t ∨ q = r := by
  unfold insert at h
  split at h
  · exact Or.inl h
  · rcases List.mem_append.mp h with h | h
    · exact Or.inl h
    · exact Or.inr (List.mem_singleton.mp h)

theorem mem_insert_of_mem {t : Table ρ} {r q : ρ} (h : q ∈ t) : q ∈ t.insert r := by
  unfold insert
  split
  · exact h
  · exact List.mem_append_left _ h

/-- INSERT of a row whose key is new, as a list. -/
theorem insert_rows {t : Table ρ} {r : ρ} (h : ∀ q ∈ t, key q ≠ key r) :
    (t.insert r).rows = t.rows ++ [r] := by
  have hk : key r ∉ t.rows.map key := fun hm => by
    obtain ⟨q, hq, e⟩ := List.mem_map.mp hm
    exact h q hq e
  unfold insert
  rw [dif_neg hk]

/-- A row whose key is new is in the table after the INSERT. -/
theorem mem_insert_self {t : Table ρ} {r : ρ} (h : ∀ q ∈ t, key q ≠ key r) : r ∈ t.insert r := by
  rw [mem_def, insert_rows h]
  exact List.mem_append_right _ (List.mem_singleton_self r)

theorem mem_insert_iff {t : Table ρ} {r q : ρ} (h : ∀ q ∈ t, key q ≠ key r) :
    q ∈ t.insert r ↔ q ∈ t ∨ q = r :=
  ⟨mem_insert, fun hq => hq.elim mem_insert_of_mem fun e => by rw [e]; exact mem_insert_self h⟩

theorem ext_rows {t t' : Table ρ} (h : t.rows = t'.rows) : t = t' := by
  cases t
  cases t'
  cases h
  rfl

/-- An UPDATE that leaves a new row alone commutes with its INSERT. -/
theorem mapRows_insert {t : Table ρ} {r : ρ} {f : ρ → ρ} {hf : ∀ r, key (f r) = key r}
    (h : ∀ q ∈ t, key q ≠ key r) (hr : f r = r) :
    (t.insert r).mapRows f hf = (t.mapRows f hf).insert r := by
  have h' : ∀ q ∈ t.mapRows f hf, key q ≠ key r := by
    intro q hq
    obtain ⟨p, hp, rfl⟩ := mem_mapRows.mp hq
    rw [hf p]
    exact h p hp
  refine ext_rows ?_
  rw [insert_rows h']
  show (t.insert r).rows.map f = t.rows.map f ++ [r]
  rw [insert_rows h, List.map_append, List.map_singleton, hr]

theorem nextKey_mapRows {t : Table ρ} {f : ρ → ρ} {hf : ∀ r, key (f r) = key r} :
    (t.mapRows f hf).nextKey = t.nextKey := by
  unfold nextKey mapRows
  rw [List.map_map]
  congr 2
  exact List.map_congr_left fun r _ => hf r

theorem get?_insert {t : Table ρ} {r : ρ} (h : t.get? (key r) = none) (k : Nat) :
    (t.insert r).get? k = if k = key r then some r else t.get? k := by
  have hrows : (t.insert r).get? k = (t.rows ++ [r]).find? fun q => key q == k := by
    rw [← insert_rows (get?_eq_none.mp h)]
    rfl
  rw [hrows, List.find?_append]
  by_cases hk : k = key r
  · have hnone : (t.rows.find? fun q => key q == k) = none := hk ▸ h
    rw [if_pos hk, hnone, hk]
    simp
  · rw [if_neg hk]
    have hr : ([r].find? fun q => key q == k) = none := by simp [Ne.symm hk]
    rw [hr, Option.or_none]
    rfl

/-- A new row gets a key that no row has. -/
theorem get?_nextKey {t : Table ρ} : t.get? t.nextKey = none :=
  get?_eq_none.mpr fun _ hr => (key_lt_nextKey hr).ne

/-- Keep the rows that meet `p`. -/
def filterRows (t : Table ρ) (p : ρ → Bool) : Table ρ where
  rows := t.rows.filter p
  nodup := t.nodup.sublist ((List.filter_sublist).map key)

theorem mem_filterRows {t : Table ρ} {p : ρ → Bool} {r : ρ} :
    r ∈ t.filterRows p ↔ r ∈ t ∧ p r = true := List.mem_filter

theorem get?_filterRows {t : Table ρ} {p : ρ → Bool} {k : Nat} :
    (t.filterRows p).get? k = (t.get? k).filter p := by
  refine Option.ext fun r => ?_
  rw [get?_eq_some, mem_filterRows, Option.filter_eq_some_iff, get?_eq_some]
  exact ⟨fun h => ⟨⟨h.1.1, h.2⟩, h.1.2⟩, fun h => ⟨⟨h.1.1, h.2⟩, h.1.2⟩⟩

/-- A DELETE that takes a new row again undoes its INSERT. -/
theorem filterRows_insert {t : Table ρ} {r : ρ} {p : ρ → Bool} (h : ∀ q ∈ t, key q ≠ key r)
    (hr : p r = false) (ht : ∀ q ∈ t, p q = true) : (t.insert r).filterRows p = t := by
  refine ext_rows ?_
  show (t.insert r).rows.filter p = t.rows
  rw [insert_rows h, List.filter_append, List.filter_eq_self.mpr ht]
  simp [hr]

/-! ## 5. Counting -/

/-- SELECT count(*) WHERE p. -/
def count (t : Table ρ) (p : ρ → Bool) : Nat := t.rows.countP p

/-- An UPDATE that makes no row meet `p` that did not before does not raise the count. -/
theorem count_mapRows_le {t : Table ρ} {f : ρ → ρ} {hf : ∀ r, key (f r) = key r} {p : ρ → Bool}
    (h : ∀ r ∈ t, p (f r) = true → p r = true) : (t.mapRows f hf).count p ≤ t.count p := by
  unfold count mapRows
  rw [List.countP_map]
  exact List.countP_mono_left h

/-- **An UPDATE that can make one row only meet `p`** raises the count by at most one. -/
theorem count_mapRows_le_succ {t : Table ρ} {f : ρ → ρ} {hf : ∀ r, key (f r) = key r}
    {p : ρ → Bool} {k : Nat} (h : ∀ r ∈ t, key r ≠ k → p (f r) = true → p r = true) :
    (t.mapRows f hf).count p ≤ t.count p + 1 := by
  unfold count mapRows
  rw [List.countP_map]
  obtain ⟨rows, nodup⟩ := t
  simp only [mem_def] at h
  simp only
  induction rows with
  | nil => simp
  | cons r rows ih =>
      obtain ⟨hr, hrows⟩ := List.nodup_cons.mp nodup
      rw [List.countP_cons, List.countP_cons]
      by_cases hk : key r = k
      · -- this row may newly meet `p`; no later row has its key
        have hle : rows.countP (p ∘ f) ≤ rows.countP p :=
          List.countP_mono_left fun q hq hp =>
            h q (List.mem_cons_of_mem _ hq)
              (fun e => hr (List.mem_map.mpr ⟨q, hq, e.trans hk.symm⟩)) hp
        split <;> split <;> omega
      · have ih' := ih hrows fun q hq => h q (List.mem_cons_of_mem _ hq)
        have hself := h r List.mem_cons_self hk
        by_cases hp : (p ∘ f) r = true
        · rw [if_pos hp, if_pos (hself hp)]
          omega
        · rw [if_neg hp]
          omega

/-- **An UPDATE that stops one row from meeting `p`, and makes none meet it**, lowers the count. -/
theorem count_mapRows_lt {t : Table ρ} {f : ρ → ρ} {hf : ∀ r, key (f r) = key r} {p : ρ → Bool}
    (h : ∀ r ∈ t, p (f r) = true → p r = true) {r : ρ} (hr : r ∈ t) (hp : p r = true)
    (hq : p (f r) = false) : (t.mapRows f hf).count p < t.count p := by
  obtain ⟨before, after, hrows⟩ := List.append_of_mem hr
  have hsub : ∀ l : List ρ, (∀ q ∈ l, q ∈ t) → l.countP (p ∘ f) ≤ l.countP p :=
    fun l hl => List.countP_mono_left fun q hq => h q (hl q hq)
  have hbefore := hsub before fun q hq => by
    rw [mem_def, hrows]
    exact List.mem_append_left _ hq
  have hafter := hsub after fun q hq => by
    rw [mem_def, hrows]
    exact List.mem_append_right _ (List.mem_cons_of_mem _ hq)
  unfold count mapRows
  rw [List.countP_map, hrows, List.countP_append, List.countP_append,
    List.countP_cons_of_neg (by simp [hq]), List.countP_cons_of_pos hp]
  omega

/-- An UPDATE raises a count by at most the rows that it makes meet `p`. -/
theorem count_mapRows_le_add {t : Table ρ} {f : ρ → ρ} {hf : ∀ r, key (f r) = key r}
    {p : ρ → Bool} :
    (t.mapRows f hf).count p ≤ t.count p + t.count fun r => p (f r) && !p r := by
  unfold count mapRows
  rw [List.countP_map]
  induction t.rows with
  | nil => exact Nat.le_refl 0
  | cons r rows ih =>
      simp only [List.countP_cons, Function.comp_apply]
      by_cases hf : p (f r) = true <;> by_cases hp : p r = true <;> simp [hf, hp] <;> omega

theorem count_insert_le {t : Table ρ} {r : ρ} {p : ρ → Bool} :
    (t.insert r).count p ≤ t.count p + (if p r = true then 1 else 0) := by
  unfold insert
  split
  · exact Nat.le_add_right _ _
  · simp [count, List.countP_append, List.countP_singleton]

/-- Counting is monotone in the predicate. -/
theorem count_mono {t : Table ρ} {p q : ρ → Bool} (h : ∀ r ∈ t, p r = true → q r = true) :
    t.count p ≤ t.count q := List.countP_mono_left h

/-- **The counting rule**: holders sent one-to-one to rows meeting `p` are at most as many as
    these rows. -/
theorem card_le_count {ι : Type*} (t : Table ρ) (p : ρ → Bool) (hs : Finset ι) (row : ι → Nat)
    (hinj : ∀ i ∈ hs, ∀ j ∈ hs, row i = row j → i = j)
    (hrow : ∀ i ∈ hs, ∃ r ∈ t, key r = row i ∧ p r = true) : hs.card ≤ t.count p := by
  classical
  have hsub : hs.image row ⊆ ((t.rows.filter p).map key).toFinset := by
    intro k hk
    obtain ⟨i, hi, rfl⟩ := Finset.mem_image.mp hk
    obtain ⟨r, hr, hkey, hp⟩ := hrow i hi
    exact List.mem_toFinset.mpr (List.mem_map.mpr ⟨r, List.mem_filter.mpr ⟨hr, hp⟩, hkey⟩)
  calc hs.card = (hs.image row).card :=
        (Finset.card_image_of_injOn fun i hi j hj e => hinj i hi j hj e).symm
    _ ≤ ((t.rows.filter p).map key).toFinset.card := Finset.card_le_card hsub
    _ ≤ ((t.rows.filter p).map key).length := List.toFinset_card_le _
    _ = t.count p := by rw [List.length_map, count, List.countP_eq_length_filter]

/-- Counting is monotone along the keys: every row of `t'` that counts has one of `t` under its
    key that counts. -/
theorem count_le_of_keys {t t' : Table ρ} {p q : ρ → Bool}
    (h : ∀ r' ∈ t', p r' = true → ∃ r ∈ t, key r = key r' ∧ q r = true) :
    t'.count p ≤ t.count q := by
  classical
  have hnodup : ((t'.rows.filter p).map key).Nodup :=
    t'.nodup.sublist ((List.filter_sublist).map key)
  have hcard : ((t'.rows.filter p).map key).toFinset.card = t'.count p := by
    rw [List.toFinset_card_of_nodup hnodup, List.length_map, count, List.countP_eq_length_filter]
  rw [← hcard]
  refine card_le_count t q _ id (fun i _ j _ e => e) fun k hk => ?_
  obtain ⟨r', hr', rfl⟩ := List.mem_map.mp (List.mem_toFinset.mp hk)
  obtain ⟨hmem, hp⟩ := List.mem_filter.mp hr'
  exact h r' hmem hp

end Table

end Relational
