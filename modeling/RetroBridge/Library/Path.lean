/-
  File:      RetroBridge/Library/Path.lean
  Subject:   PATHS AS TEXT: the last component of a path, and paths named by a number.

  * `parent` -- a path without its last component;
  * `parent_join` -- of a directory and a name in it, the directory;
  * `numbered` -- a prefix, a number, a slash and the rest; `numbered_inj`: **the number can be read
    off the path**, whatever the rest.
-/
import Mathlib.Data.List.Basic
import Mathlib.Tactic.Common

namespace Paths

/-! ## 1. Components -/

/-- A path without its last component. -/
def parent (p : String) : String :=
  String.ofList ((p.toList.reverse.dropWhile (· ≠ '/')).drop 1).reverse

theorem parent_join (d : String) {name : String} (h : '/' ∉ name.toList) :
    parent (d ++ "/" ++ name) = d := by
  have hdrop : (d ++ "/" ++ name).toList.reverse.dropWhile (· ≠ '/') = '/' :: d.toList.reverse := by
    rw [String.toList_append, String.toList_append, List.reverse_append, List.reverse_append]
    rw [List.dropWhile_append_of_pos fun c hc => by
      have hne : c ≠ '/' := fun e => h (e ▸ List.mem_reverse.mp hc)
      simpa using hne]
    rfl
  rw [parent, hdrop]
  show String.ofList d.toList.reverse.reverse = d
  rw [List.reverse_reverse, String.ofList_toList]

/-! ## 2. Numbers in paths -/

/-- A prefix, a number, a slash and the rest. -/
def numbered (pre : String) (n : Nat) (rest : String) : String :=
  pre ++ toString n ++ "/" ++ rest

theorem slash_not_mem_digits (n : Nat) : '/' ∉ (toString n).toList := by
  intro h
  have hdigits : (toString n).toList = Nat.toDigits 10 n := Nat.toList_repr
  rw [hdigits] at h
  exact absurd (Nat.isDigit_of_mem_toDigits (by decide) (by decide) h) (by decide)

/-- The text before the first slash. -/
theorem takeWhile_slash {a : List Char} (h : '/' ∉ a) (rest : List Char) :
    (a ++ '/' :: rest).takeWhile (· ≠ '/') = a := by
  rw [List.takeWhile_append_of_pos fun c hc => by
    have hne : c ≠ '/' := fun e => h (e ▸ hc)
    simpa using hne]
  simp

theorem toString_inj {n m : Nat} (h : (toString n).toList = (toString m).toList) : n = m := by
  have hn : (toString n).toList = Nat.toDigits 10 n := Nat.toList_repr
  have hm : (toString m).toList = Nat.toDigits 10 m := Nat.toList_repr
  rw [hn, hm] at h
  rw [← Nat.ofDigitChars_ten_toDigits (n := n), h, Nat.ofDigitChars_ten_toDigits]

/-- **The number can be read off the path.** -/
theorem numbered_inj {pre rest rest' : String} {n m : Nat}
    (h : numbered pre n rest = numbered pre m rest') : n = m := by
  have hlist := congrArg String.toList h
  simp only [numbered, String.toList_append, List.append_assoc] at hlist
  have htail := List.append_cancel_left hlist
  refine toString_inj ?_
  have htake := congrArg (List.takeWhile (· ≠ '/')) htail
  exact (takeWhile_slash (slash_not_mem_digits n) _).symm.trans
    (htake.trans (takeWhile_slash (slash_not_mem_digits m) _))

end Paths
