/-
  File:      RetroBridge/Library/Address.lean
  Subject:   INTERNET ADDRESSES AND NETWORKS AS TEXT: Python's `ipaddress.ip_address(text)` and
             `ipaddress.ip_network(text, strict=False)`.

  * `Address` -- an IPv4 address, or an IPv6 address with its scope;
  * `parse4`, `parse6` -- four decimal octets; eight hextets, with `::` for a run of zeros and an
    IPv4 address in place of the last two;
  * `ipAddress` -- `ip_address(text)`, none where it raises `ValueError`;
  * `Net` -- a network: an address with no bit behind its prefix;
  * `ipNetwork` -- `ip_network(text, strict=False)`: a prefix length, or for IPv4 a netmask or a
    hostmask;
  * `contains_ofAddress_iff` -- **an address is in a network exactly where it has its leading
    bits.**
-/
import RetroBridge.Library.Json

namespace Addresses

/-! ## 1. Addresses -/

/-- An address, as its bits. -/
inductive Address where
  | v4 (value : BitVec 32)
  | v6 (value : BitVec 128) (scopeId : Option (List Char))
  deriving DecidableEq

/-- One octet of an IPv4 address, without leading zeros. -/
def parseOctet (cs : List Char) : Option Nat :=
  if cs = [] ∨ cs.all Char.isDigit = false ∨ 3 < cs.length ∨ (cs ≠ ['0'] ∧ cs.head? = some '0')
    then none
  else
    let n := Nat.ofDigitChars 10 cs 0
    if 255 < n then none else some n

/-- **Dotted decimal.** -/
def parse4 (text : List Char) : Option (BitVec 32) :=
  match (text.splitOn '.').map parseOctet with
  | [some a, some b, some c, some d] =>
    some (BitVec.ofNat 32 (((a * 256 + b) * 256 + c) * 256 + d))
  | _ => none

/-- One hextet of an IPv6 address. -/
def parseHextet (cs : List Char) : Option Nat :=
  if cs = [] ∨ 4 < cs.length then none
  else cs.foldlM (fun n c => (Json.hexVal c).map (n * 16 + ·)) 0

/-- The number with these hextets. -/
def joinHextets (hextets : List Nat) : Nat := hextets.foldl (· * 65536 + ·) 0

/-- The parts of an IPv6 address, with an IPv4 address at the end written as two hextets. -/
def withoutIPv4Suffix (parts : List (List Char)) : Option (List (List Char)) :=
  if '.' ∈ parts.getLast?.getD [] then
    (parse4 (parts.getLast?.getD [])).map fun v =>
      parts.dropLast ++ [Nat.toDigits 16 (v.toNat / 65536), Nat.toDigits 16 (v.toNat % 65536)]
  else some parts

/-- The parts on one side of a `::`. An empty part at the end of the address is only allowed as the
    other colon of the `::`. -/
def besideSkip (part : Option (List Char)) (parts : List (List Char)) :
    Option (List (List Char)) :=
  if part = some [] then (if parts.length = 1 then some [] else none) else some parts

/-- The hextets before and behind a `::` at a position. -/
def aroundSkip (parts : List (List Char)) (skip : Nat) : Option (List Nat × List Nat) := do
  let hi ← besideSkip parts.head? (parts.take skip)
  let lo ← besideSkip parts.getLast? (parts.drop (skip + 1))
  if 8 ≤ hi.length + lo.length then none
  else return (← hi.mapM parseHextet, ← lo.mapM parseHextet)

/-- **Colons and hextets.** -/
def parse6 (text : List Char) : Option (BitVec 128) := do
  let parts := text.splitOn ':'
  if parts.length < 3 then none
  else
    let parts ← withoutIPv4Suffix parts
    if 9 < parts.length then none
    else
      match (List.range (parts.length - 1)).filter fun i => i ≠ 0 ∧ parts[i]? = some [] with
      | [] =>
        if parts.length ≠ 8 then none
        else return BitVec.ofNat 128 (joinHextets (← parts.mapM parseHextet))
      | [skip] =>
        let (hi, lo) ← aroundSkip parts skip
        return BitVec.ofNat 128
          (joinHextets hi * 65536 ^ (8 - hi.length) + joinHextets lo)
      | _ => none

/-- The text before a `%` and the scope behind it. -/
def splitScopeId (text : List Char) : Option (List Char × Option (List Char)) :=
  match text.dropWhile (· ≠ '%') with
  | [] => some (text, none)
  | _ :: scope =>
    if scope = [] ∨ '%' ∈ scope then none else some (text.takeWhile (· ≠ '%'), some scope)

/-- `IPv6Address(text)`. -/
def ipv6Address (text : List Char) : Option (BitVec 128 × Option (List Char)) :=
  if '/' ∈ text then none
  else do
    let (address, scope) ← splitScopeId text
    return (← parse6 address, scope)

/-- **`ip_address(text)`.** -/
def ipAddress (text : List Char) : Option Address :=
  match parse4 text with
  | some value => some (.v4 value)
  | none => (ipv6Address text).map fun address => .v6 address.1 address.2

/-! ## 2. Networks -/

section Net

variable {w : Nat}

/-- The leading bits of a width, as `_ip_int_from_prefix` makes them. -/
def netmask (w prefixlen : Nat) : BitVec w := BitVec.allOnes w ^^^ (BitVec.allOnes w >>> prefixlen)

/-- **A network**: a prefix, and an address with no bit behind it. -/
structure Net (w : Nat) where
  address : BitVec w
  prefixlen : Nat
  masked : address &&& netmask w prefixlen = address

/-- The network of an address: not `strict`, so the bits behind the prefix are cleared. -/
def Net.ofAddress (address : BitVec w) (prefixlen : Nat) : Net w where
  address := address &&& netmask w prefixlen
  prefixlen
  masked := by rw [BitVec.and_assoc, BitVec.and_self]

/-- `address in network`, of one version. -/
def Net.contains (n : Net w) (address : BitVec w) : Bool :=
  address &&& netmask w n.prefixlen == n.address

theorem getMsbD_netmask (prefixlen i : Nat) :
    (netmask w prefixlen).getMsbD i = (decide (i < w) && decide (i < prefixlen)) := by
  unfold netmask
  rw [BitVec.getMsbD_xor, BitVec.getMsbD_ushiftRight, BitVec.getMsbD_allOnes]
  by_cases hw : i < w
  · by_cases hp : i < prefixlen
    · simp [hw, hp]
    · simp [hw, hp]
      omega
  · simp [hw]

/-- **An address is in the network of another exactly where both have the same leading bits.** -/
theorem contains_ofAddress_iff (address other : BitVec w) (prefixlen : Nat) :
    (Net.ofAddress address prefixlen).contains other = true ↔
      ∀ i < prefixlen, other.getMsbD i = address.getMsbD i := by
  have hbits : ∀ x : BitVec w, ∀ i, (x &&& netmask w prefixlen).getMsbD i =
      (decide (i < prefixlen) && x.getMsbD i) := by
    intro x i
    rw [BitVec.getMsbD_and, getMsbD_netmask]
    cases hx : x.getMsbD i with
    | false => rw [Bool.false_and, Bool.and_false]
    | true =>
        have hi : i < w := BitVec.lt_of_getMsbD hx
        rw [decide_eq_true hi, Bool.true_and, Bool.true_and, Bool.and_true]
  unfold Net.contains
  rw [beq_iff_eq]
  change other &&& netmask w prefixlen = address &&& netmask w prefixlen ↔ _
  constructor
  · intro heq i hi
    have hbit := congrArg (BitVec.getMsbD · i) heq
    change (other &&& _).getMsbD i = (address &&& _).getMsbD i at hbit
    rw [hbits, hbits, decide_eq_true hi, Bool.true_and, Bool.true_and] at hbit
    exact hbit
  · intro hsame
    refine BitVec.eq_of_getMsbD_eq fun i _ => ?_
    rw [hbits, hbits]
    by_cases hi : i < prefixlen
    · rw [hsame i hi]
    · rw [decide_eq_false hi, Bool.false_and, Bool.false_and]

end Net

/-- A network of either version. -/
inductive Network where
  | v4 (net : Net 32)
  | v6 (net : Net 128)

/-- **`address in network`**; an address of the other version is in none. -/
def Network.contains : Network → Address → Bool
  | .v4 net, .v4 value => net.contains value
  | .v6 net, .v6 value _ => net.contains value
  | _, _ => false

/-- The longest text of digits `int` reads. -/
def maxStrDigits : Nat := 4300

/-- `_prefix_from_prefix_string`. -/
def prefixFromPrefixString (maxPrefixlen : Nat) (cs : List Char) : Option Nat :=
  if cs = [] ∨ cs.all Char.isDigit = false ∨ maxStrDigits < cs.length then none
  else
    let n := Nat.ofDigitChars 10 cs 0
    if maxPrefixlen < n then none else some n

/-- `_prefix_from_ip_int`: the number of leading bits of a netmask. -/
def prefixFromIpInt (mask : BitVec 32) : Option Nat :=
  (List.range 33).find? fun prefixlen => netmask 32 prefixlen = mask

/-- `_prefix_from_ip_string`: a netmask, or a hostmask. -/
def prefixFromIpString (cs : List Char) : Option Nat := do
  let mask ← parse4 cs
  match prefixFromIpInt mask with
  | some prefixlen => return prefixlen
  | none => prefixFromIpInt (~~~mask)

/-- `IPv4Network((address, mask), strict=False)`. -/
def ipv4Network (address mask : List Char) : Option (Net 32) := do
  let value ← parse4 address
  match prefixFromPrefixString 32 mask with
  | some prefixlen => return Net.ofAddress value prefixlen
  | none => return Net.ofAddress value (← prefixFromIpString mask)

/-- `IPv6Network((address, mask), strict=False)`. -/
def ipv6Network (address mask : List Char) : Option (Net 128) := do
  let value ← ipv6Address address
  return Net.ofAddress value.1 (← prefixFromPrefixString 128 mask)

/-- **`ip_network(text, strict=False)`** of a text with a slash. -/
def ipNetwork (text : List Char) : Option Network :=
  match text.splitOn '/' with
  | [address, mask] =>
    match ipv4Network address mask with
    | some net => some (.v4 net)
    | none => (ipv6Network address mask).map .v6
  | _ => none

example :
    (ipNetwork "10.0.5.1/255.0.0.0".toList).map (·.contains (.v4 0x0AFF0001)) = some true := by
  decide

example : ipAddress "::ffff:192.0.2.1%1".toList = some (.v6 0xFFFFC0000201 (some ['1'])) := by
  decide

end Addresses
