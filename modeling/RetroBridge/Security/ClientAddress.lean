/-
  File:      RetroBridge/Security/ClientAddress.lean
  Subject:   THE ADDRESS A REQUEST COUNTS FOR (retrobridge/security.py: `_is_trusted_proxy`,
             `_client_ip`, as the rate limiter's `_check_rate_limit` and `login` in auth/routes.py
             call it).

  `_client_ip` takes the trusted proxies from `request.app`. The tests set that attribute by hand;
  the request object of Flask has none, and the application sets none.

  * `isTrustedProxy` -- an address among the trusted addresses and networks; `matchesSpec_network`:
    a network trusts the addresses with its leading bits;
  * `clientIp` -- the walk of X-Forwarded-For from the right;
  * `RightmostUntrusted` -- the entry the docstring promises;
  * `clientIp_of_app` -- **with the attribute, the walk answers that entry**;
  * `Resolved`, `resolved_iff` -- **for a request of the application it is answered in no case**:
    the promise holds exactly where it asks for nothing but the remote address;
  * `header_ignored` -- a client behind a proxy that is taken for the proxy.
-/
import RetroBridge.Library.Address

namespace RetroBridge.Security

open Addresses

/-! ## 1. Trusted proxies -/

/-- One turn of the loop: an entry that raises `ValueError` is passed over. -/
def matchesSpec (clientIp : Address) (spec : String) : Bool :=
  if '/' ∈ spec.toList then (ipNetwork spec.toList).any (·.contains clientIp)
  else (ipAddress spec.toList).any (clientIp = ·)

/-- **`_is_trusted_proxy`.** -/
def isTrustedProxy (addr : Option String) (trusted : List String) : Bool :=
  match addr with
  | none => false
  | some addr =>
    if addr = "" ∨ trusted = [] then false
    else
      match ipAddress addr.toList with
      | none => false
      | some clientIp => trusted.any (matchesSpec clientIp)

/-- **What an IPv4 network among the proxies trusts**: the addresses with its leading bits. -/
theorem matchesSpec_network {spec : String} {address mask : List Char} {value : BitVec 32}
    {prefixlen : Nat} (hspec : spec.toList.splitOn '/' = [address, mask])
    (haddress : parse4 address = some value)
    (hmask : prefixFromPrefixString 32 mask = some prefixlen) (clientIp : BitVec 32) :
    matchesSpec (.v4 clientIp) spec = true ↔
      ∀ i < prefixlen, clientIp.getMsbD i = value.getMsbD i := by
  have hslash : '/' ∈ spec.toList := by
    by_contra hnone
    rw [List.splitOn_eq_singleton hnone] at hspec
    cases hspec
  have hnetwork : ipNetwork spec.toList = some (.v4 (Net.ofAddress value prefixlen)) := by
    simp only [ipNetwork, hspec, ipv4Network, haddress, hmask]
    rfl
  unfold matchesSpec
  rw [if_pos hslash, hnetwork]
  exact contains_ofAddress_iff value clientIp prefixlen

/-! ## 2. The walk -/

/-- What `_client_ip` reads of an application: its `TRUSTED_PROXIES`, if they are configured. -/
structure App where
  trustedProxies : Option (List String)

/-- What `_client_ip` reads of a request: the remote address, the header, the attribute `app`. -/
structure Request where
  remoteAddr : Option String
  forwardedFor : Option String
  app : Option App

/-- `forwarded.split(",")`. -/
def entries (forwarded : String) : List String :=
  (forwarded.toList.splitOn ',').map String.ofList

/-- `ip.strip()`. -/
def stripped (ip : String) : String := String.ofList (Numerals.strip ip.toList)

/-- The loop over the entries, the last first. -/
def walk (trusted : List String) : List String → Option String
  | [] => none
  | raw :: rest =>
    let ip := stripped raw
    if ip ≠ "" ∧ isTrustedProxy (some ip) trusted = false then some ip else walk trusted rest

/-- **`_client_ip`.** -/
def clientIp (request : Request) : Option String :=
  let trusted := (request.app.map fun app => app.trustedProxies.getD []).getD []
  if isTrustedProxy request.remoteAddr trusted = false then request.remoteAddr
  else
    match request.forwardedFor with
    | none => request.remoteAddr
    | some forwarded =>
      if forwarded = "" then request.remoteAddr
      else
        match walk trusted (entries forwarded).reverse with
        | some ip => some ip
        | none => request.remoteAddr

/-- The request object as the rate limiter and `login` hand it on: Flask's, without `app`. -/
def flaskRequest (remoteAddr forwardedFor : Option String) : Request :=
  ⟨remoteAddr, forwardedFor, none⟩

/-! ## 3. The rightmost untrusted entry -/

/-- An entry that is an address to return: not blank, and no trusted proxy. -/
def Untrusted (trusted : List String) (raw : String) : Prop :=
  stripped raw ≠ "" ∧ isTrustedProxy (some (stripped raw)) trusted = false

instance (trusted : List String) (raw : String) : Decidable (Untrusted trusted raw) :=
  inferInstanceAs (Decidable (_ ∧ _))

/-- **The entries of a header end in an untrusted one with `after` behind it**, all trusted or
    blank. -/
def RightmostUntrusted (trusted : List String) (forwarded raw : String) (after : List String) :
    Prop :=
  (∃ before, entries forwarded = before ++ raw :: after) ∧ Untrusted trusted raw ∧
    ∀ other ∈ after, ¬Untrusted trusted other

theorem walk_append {trusted : List String} {raw : String} {after before : List String}
    (hraw : Untrusted trusted raw) (hafter : ∀ other ∈ after, ¬Untrusted trusted other) :
    walk trusted (after ++ raw :: before) = some (stripped raw) := by
  induction after with
  | nil =>
      rw [List.nil_append, walk]
      exact if_pos hraw
  | cons other after ih =>
      obtain ⟨hother, hrest⟩ := List.forall_mem_cons.mp hafter
      rw [List.cons_append, walk]
      exact (if_neg hother).trans (ih hrest)

/-- A header with an untrusted entry has a rightmost one. -/
theorem exists_rightmost {trusted : List String} {es : List String}
    (h : ∃ raw ∈ es, Untrusted trusted raw) :
    ∃ before raw after, es = before ++ raw :: after ∧ Untrusted trusted raw ∧
      ∀ other ∈ after, ¬Untrusted trusted other := by
  induction es with
  | nil =>
      obtain ⟨raw, hmem, -⟩ := h
      exact absurd hmem List.not_mem_nil
  | cons e es ih =>
      by_cases hlater : ∃ raw ∈ es, Untrusted trusted raw
      · obtain ⟨before, raw, after, rfl, hraw, hafter⟩ := ih hlater
        exact ⟨e :: before, raw, after, rfl, hraw, hafter⟩
      · obtain ⟨raw, hmem, hraw⟩ := h
        have hnone : ∀ other ∈ es, ¬Untrusted trusted other :=
          fun other hother huntrusted => hlater ⟨other, hother, huntrusted⟩
        rcases List.mem_cons.mp hmem with rfl | hmem
        · exact ⟨[], raw, es, rfl, hraw, hnone⟩
        · exact absurd hraw (hnone raw hmem)

/-- **With the attribute the walk answers the rightmost untrusted entry.** -/
theorem clientIp_of_app {trusted : List String} {remote : Option String} {forwarded raw : String}
    {after : List String} (hremote : isTrustedProxy remote trusted = true)
    (h : RightmostUntrusted trusted forwarded raw after) :
    clientIp ⟨remote, some forwarded, some ⟨some trusted⟩⟩ = some (stripped raw) := by
  obtain ⟨⟨before, hentries⟩, hraw, hafter⟩ := h
  have hnonempty : forwarded ≠ "" := by
    rintro rfl
    have hmem : raw ∈ entries "" := hentries ▸ List.mem_append_right _ List.mem_cons_self
    rw [show entries "" = [""] from rfl, List.mem_singleton] at hmem
    exact hraw.1 (congrArg stripped hmem)
  have hwalk : walk trusted (entries forwarded).reverse = some (stripped raw) := by
    rw [hentries, List.reverse_append, List.reverse_cons, List.append_assoc]
    exact walk_append hraw fun other hother => hafter other (List.mem_reverse.mp hother)
  change (if isTrustedProxy remote trusted = false then remote else if forwarded = "" then remote
    else match walk trusted (entries forwarded).reverse with
      | some ip => some ip
      | none => remote) = _
  rw [if_neg (Bool.not_eq_false _ ▸ hremote), if_neg hnonempty, hwalk]

/-! ## 4. The requests of the application -/

/-- **The promise for one request**: behind a trusted proxy the rightmost untrusted entry, whatever
    stands to its left; else the remote address, whatever the header says. -/
structure Resolved (trusted : List String) (remote forwarded : Option String) : Prop where
  behind : isTrustedProxy remote trusted = true → ∀ header raw after, forwarded = some header →
    RightmostUntrusted trusted header raw after →
    clientIp (flaskRequest remote forwarded) = some (stripped raw)
  unspoofed : isTrustedProxy remote trusted = true → ∀ header header' raw after,
    forwarded = some header → RightmostUntrusted trusted header raw after →
    RightmostUntrusted trusted header' raw after →
    clientIp (flaskRequest remote (some header')) = clientIp (flaskRequest remote forwarded)
  direct : isTrustedProxy remote trusted = false → ∀ forwarded',
    clientIp (flaskRequest remote forwarded') = clientIp (flaskRequest remote forwarded)

/-- Without the attribute no proxy is trusted. -/
theorem clientIp_flaskRequest (remote forwarded : Option String) :
    clientIp (flaskRequest remote forwarded) = remote := by
  have hnone : isTrustedProxy remote [] = false := by
    cases remote with
    | none => rfl
    | some addr => exact if_pos (.inr rfl)
  exact if_pos hnone

/-- **The promise is kept exactly where it asks for nothing but the remote address.** -/
theorem resolved_iff (trusted : List String) (remote forwarded : Option String) :
    Resolved trusted remote forwarded ↔
      isTrustedProxy remote trusted = false ∨
        ∀ header, forwarded = some header → ∀ raw ∈ entries header, ¬Untrusted trusted raw := by
  constructor
  · intro h
    by_contra hneither
    obtain ⟨hremote, hentry⟩ := not_or.mp hneither
    rw [Bool.not_eq_false] at hremote
    refine hentry fun header hheader raw hmem hraw => ?_
    obtain ⟨before, last, after, hentries, hlast, hafter⟩ := exists_rightmost ⟨raw, hmem, hraw⟩
    have hbehind := h.behind hremote header last after hheader ⟨⟨before, hentries⟩, hlast, hafter⟩
    -- the remote address is trusted, and the entry that should be answered is not
    rw [clientIp_flaskRequest] at hbehind
    rw [hbehind, hlast.2] at hremote
    cases hremote
  · intro h
    refine ⟨fun hremote header raw after hheader hright => ?_, ?_, ?_⟩
    · obtain ⟨⟨before, hentries⟩, hraw, -⟩ := hright
      rcases h with hdirect | hnone
      · exact absurd (hdirect.symm.trans hremote) Bool.false_ne_true
      · refine absurd hraw (hnone header hheader raw ?_)
        rw [hentries]
        exact List.mem_append_right _ List.mem_cons_self
    · intros
      rw [clientIp_flaskRequest, clientIp_flaskRequest]
    · intros
      rw [clientIp_flaskRequest, clientIp_flaskRequest]

/-- **A client behind the proxy counts as the proxy.** -/
theorem header_ignored : ¬∀ (trusted : List String) (remote forwarded : Option String),
    Resolved trusted remote forwarded := by
  intro h
  have hbehind := (h ["10.0.0.0/8"] (some "10.0.0.1") (some "1.2.3.4, 5.6.7.8, 10.0.0.2")).behind
    (by decide) _ " 5.6.7.8" [" 10.0.0.2"] rfl ⟨⟨["1.2.3.4"], by decide⟩, by decide, by decide⟩
  exact absurd hbehind (by decide)

end RetroBridge.Security
