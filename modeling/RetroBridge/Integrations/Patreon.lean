/-
  File:      RetroBridge/Integrations/Patreon.lean
  Subject:   PATREON ACCOUNTS (retrobridge/integrations/patreon.py; retrobridge/auth/routes.py:
             `patreon_link`, `patreon_callback`, `patreon_unlink`, and the sync in `login`), any
             number of browsers and requests at once.

  * `Columns`, `assigned`, `rewritten` -- what a row says of a Patreon account, and which of its
    columns a flush writes;
  * `MembersPage`, `fetchMembershipTier` -- the API's answer, and the tier that is read off it;
  * `Cookie`, `Phase` -- what a browser holds between its requests, and where a request is between
    two of its statements or calls;
  * `Log` -- which ids users were given, which states were issued, which callbacks passed, and what
    Patreon answered;
  * `serve` -- one statement or one answer of a request.

  What Patreon answers is free, in its documented shape. The tokens are as the properties of `User`
  read them: their encryption is in Maintenance/Tokens.lean. A browser may send any cookie that it
  has been given; that it forges none is what their signature is for.
-/
import RetroBridge.Models
import RetroBridge.Library.Dict
import RetroBridge.Library.Numeral
import RetroBridge.Library.Threads

namespace RetroBridge.Patreon

open Ordered Interleaved

/-! ## 1. A row -/

/-- What `exchange_code` and `refresh_access_token` answer. -/
structure Tokens where
  accessToken : String
  refreshToken : String
  expiresIn : Int
  deriving DecidableEq

/-- The Patreon columns of a row of `users`. -/
structure Columns where
  patreonId : Option String
  patreonTier : Option String
  accessToken : Option String
  refreshToken : Option String
  expiresAt : Option Time
  deriving DecidableEq

/-- No account is linked. -/
def Columns.unlinked : Columns := ⟨none, none, none, none, none⟩

/-- What the property of a token reads when a text has been assigned to it: the encryption of an
    empty one is NULL. -/
def tokenColumn (value : String) : Option String := if value = "" then none else some value

/-- A column after a flush: an assignment that changes nothing is not in its UPDATE. -/
def assigned {α : Type} [DecidableEq α] (loaded new current : Option α) : Option α :=
  if loaded = new then current else new

/-- The same of a token or a time: no two encryptions of a token are the same, and no time with a
    zone is one that SQLite answers. -/
def rewritten {α : Type} (loaded new current : Option α) : Option α :=
  if loaded.isNone && new.isNone then current else new

/-- The columns after the assignments of `patreon_callback`. -/
def linked (loaded current : Columns) (patreonId : String) (tier : Option String) (tokens : Tokens)
    (now : Time) : Columns where
  patreonId := assigned loaded.patreonId (some patreonId) current.patreonId
  patreonTier := assigned loaded.patreonTier tier current.patreonTier
  accessToken := rewritten loaded.accessToken (tokenColumn tokens.accessToken) current.accessToken
  refreshToken :=
    rewritten loaded.refreshToken (tokenColumn tokens.refreshToken) current.refreshToken
  expiresAt := some (now + seconds tokens.expiresIn)

/-- `unlink_user`. -/
def unlinked (loaded current : Columns) : Columns where
  patreonId := assigned loaded.patreonId none current.patreonId
  patreonTier := assigned loaded.patreonTier none current.patreonTier
  accessToken := rewritten loaded.accessToken none current.accessToken
  refreshToken := rewritten loaded.refreshToken none current.refreshToken
  expiresAt := rewritten loaded.expiresAt none current.expiresAt

/-- The columns after the assignments of `get_valid_token`. -/
def renewed (loaded current : Columns) (tokens : Tokens) (now : Time) : Columns :=
  { current with
    accessToken := rewritten loaded.accessToken (tokenColumn tokens.accessToken) current.accessToken
    refreshToken :=
      rewritten loaded.refreshToken (tokenColumn tokens.refreshToken) current.refreshToken
    expiresAt := some (now + seconds tokens.expiresIn) }

/-- The tier after the assignment of `sync_user_tier`; a row that a commit has expired is written
    whatever it was. -/
def ranked (loadedTier : Option (Option String)) (current : Columns) (tier : Option String) :
    Columns :=
  { current with
    patreonTier :=
      match loadedTier with
      | some loaded => assigned loaded tier current.patreonTier
      | none => tier }

/-! ## 2. The API -/

/-- A member of the campaign. -/
structure Member where
  patronStatus : String
  tierId : String

/-- An object that comes with the members. -/
structure Included where
  id : String
  type : String
  title : String

/-- The answer to `fetch_membership_tier`'s request, and what a request for one tier would be
    answered, the empty text where it fails. -/
structure MembersPage where
  data : List Member
  included : List Included
  tierTitle : String → String

/-- `title.strip()`. -/
def Included.name (i : Included) : String := String.ofList (Numerals.strip i.title.toList)

def Member.isActive (m : Member) : Bool :=
  (m.patronStatus == "active_patron" || m.patronStatus == "active_patron_late") && m.tierId != ""

/-- `_resolve_tier_name`. -/
def resolveTierName (tierId : String) (page : MembersPage) : String :=
  match page.included.find? fun i => i.id == tierId && i.type == "tier" && i.name != "" with
  | some i => i.name
  | none => page.tierTitle tierId

/-- **`fetch_membership_tier`**, once Patreon has answered. -/
def fetchMembershipTier (page : MembersPage) : Option String :=
  (page.data.find? fun m => m.isActive && resolveTierName m.tierId page != "").map fun m =>
    resolveTierName m.tierId page

/-- An active membership has a tier of this name. -/
def MembersPage.Grants (page : MembersPage) (tier : String) : Prop :=
  tier ≠ "" ∧ ∃ m ∈ page.data, m.isActive = true ∧
    ((∃ i ∈ page.included, i.id = m.tierId ∧ i.type = "tier" ∧ i.name = tier) ∨
      page.tierTitle m.tierId = tier)

/-- **The tier is one that an active membership has.** -/
theorem grants_of_fetch {page : MembersPage} {tier : String}
    (h : fetchMembershipTier page = some tier) : page.Grants tier := by
  obtain ⟨m, hm, rfl⟩ := Option.map_eq_some_iff.mp h
  have hcond := List.find?_some hm
  obtain ⟨hactive, hname⟩ := Bool.and_eq_true_iff.mp hcond
  refine ⟨bne_iff_ne.mp hname, m, List.mem_of_find?_eq_some hm, hactive, ?_⟩
  unfold resolveTierName
  cases hi : page.included.find? fun i => i.id == m.tierId && i.type == "tier" && i.name != "" with
  | none => exact .inr rfl
  | some i =>
      have hcond := List.find?_some hi
      simp only [Bool.and_eq_true, beq_iff_eq] at hcond
      exact .inl ⟨i, List.mem_of_find?_eq_some hi, hcond.1.1, hcond.1.2, rfl⟩

/-! ## 3. Browsers and requests -/

/-- What a browser holds: who is signed in, and `session["patreon_oauth_state"]`. -/
structure Cookie where
  userId : Option Nat
  oauthState : Option String
  deriving DecidableEq

/-- A browser that has been nowhere. -/
def Cookie.blank : Cookie := ⟨none, none⟩

/-- A request of a signed-in user, with the cookie that its response sets. -/
structure Visit where
  browser : Nat
  cookie : Cookie
  user : Nat

/-- What a tier is looked up for. -/
inductive Lookup where
  /-- `patreon_callback`. -/
  | link (loaded : Columns) (tokens : Tokens) (patreonId : String)
  /-- `sync_user_tier`, with the tier that was loaded, if no commit has expired it. -/
  | sync (loadedTier : Option (Option String))

/-- A callback past its checks. -/
structure Grant where
  browser : Nat
  user : Nat
  oauthState : String
  code : String
  deriving DecidableEq

/-- A request, by the statement or the call that it takes next. -/
inductive Phase where
  | idle
  /-- A login whose password is right: `is_enabled`, and whether the token still holds. -/
  | loaded (v : Visit) (columns : Columns)
  /-- `exchange_code`. -/
  | exchanging (v : Visit) (columns : Columns) (grant : Grant)
  /-- `fetch_patreon_identity`. -/
  | identifying (v : Visit) (columns : Columns) (grant : Grant) (tokens : Tokens)
  /-- `refresh_access_token`. -/
  | refreshing (v : Visit) (columns : Columns) (refreshToken : String)
  /-- The commit of `get_valid_token`. -/
  | renewing (v : Visit) (columns : Columns) (tokens : Tokens)
  /-- `get_campaign_id`. -/
  | ranking (v : Visit) (lookup : Lookup) (accessToken : String)
  /-- The request for the members. -/
  | listing (v : Visit) (lookup : Lookup) (accessToken : String)
  /-- The commit of `patreon_callback` or of `sync_user_tier`. -/
  | storing (v : Visit) (lookup : Lookup) (tier : Option String)
  /-- The commit of `patreon_unlink`. -/
  | unlinking (v : Visit) (columns : Columns)
  /-- The response is on its way. -/
  | answering (browser : Nat) (cookie : Cookie)

/-- **What has happened**, the newest first. -/
structure Log where
  /-- The ids that users have been given, those of deleted users too. -/
  born : List Nat
  /-- The states of `patreon_link`, with the browsers they were issued to. -/
  issued : List (Nat × String)
  /-- The browsers that have signed in, and as whom. -/
  signedIn : List (Nat × Nat)
  accepted : List Grant
  exchanged : List (Grant × Tokens)
  /-- For whom, with which refresh token, and what was answered. -/
  refreshed : List (Nat × String × Tokens)
  /-- The access token, and the id that was answered. -/
  identified : List (String × String)
  /-- For whom, with which access token, and what was answered. -/
  listed : List (Nat × String × MembersPage)

structure Site where
  users : Dict Nat Columns
  clientId : String
  campaignId : String
  /-- The cookies a browser has been given, the newest first. -/
  jars : Dict Nat (List Cookie)
  log : Log

inductive Event where
  /-- An administrator creates a user, or deletes one. -/
  | create (user : Nat)
  | delete (user : Nat)
  | configure (clientId campaignId : String)
  | register (browser : Nat) (cookie : Cookie) (user : Nat)
  /-- `login`, the password being right. -/
  | login (browser : Nat) (cookie : Cookie) (user : Nat)
  | logout (browser : Nat) (cookie : Cookie)
  | deleteAccount (browser : Nat) (cookie : Cookie)
  /-- `patreon_link`, with the state that is drawn. -/
  | link (browser : Nat) (cookie : Cookie) (drawn : String)
  | callback (browser : Nat) (cookie : Cookie) (code oauthState error : Option String)
  | unlink (browser : Nat) (cookie : Cookie)
  /-- `is_enabled`, at a time. -/
  | proceed (now : Time)
  | campaign
  /-- Patreon answers. -/
  | tokens (answer : Option Tokens)
  | identity (answer : Option String)
  | members (answer : Option MembersPage)
  | commit (now : Time)
  /-- A statement or a call raises: the request ends. -/
  | fail
  | respond

/-! ## 4. The server -/

namespace Site

variable (s : Site)

def jar (browser : Nat) : List Cookie := (s.jars.get? browser).getD []

/-- A cookie that the browser may send. -/
def holds (browser : Nat) (cookie : Cookie) : Bool :=
  cookie == Cookie.blank || (s.jar browser).contains cookie

/-- `current_user`, with its row; `none`: nobody is signed in. -/
def currentUser (cookie : Cookie) : Option (Nat × Columns) :=
  cookie.userId.bind fun u => (s.users.get? u).map fun columns => (u, columns)

/-- Another user has the Patreon account. -/
def taken (user : Nat) (columns : Columns) : Bool :=
  columns.patreonId.isSome &&
    s.users.entries.any fun e => e.1 != user && e.2.patreonId == columns.patreonId

/-- **The commit of an UPDATE of one user's row**; nothing is written where the row is gone or the
    Patreon account is another user's. -/
def update (user : Nat) (f : Columns → Columns) : Site :=
  match s.users.get? user with
  | none => s
  | some current =>
    if s.taken user (f current) then s else { s with users := s.users.set user (f current) }

end Site

/-- `(expires - now) > timedelta(minutes=5)`. -/
def stillHolds (columns : Columns) (now : Time) : Bool :=
  columns.expiresAt.any fun expires => decide (expires - now > seconds 300)

/-- `get_valid_token` up to its call, and what `sync_user_tier` makes of no token. -/
def startSync (v : Visit) (columns : Columns) (now : Time) : Phase :=
  let noToken := Phase.storing v (.sync (some columns.patreonTier)) none
  match columns.accessToken with
  | none => noToken
  | some accessToken =>
    if stillHolds columns now then .ranking v (.sync (some columns.patreonTier)) accessToken
    else
      match columns.refreshToken with
      | none => noToken
      | some refreshToken => .refreshing v columns refreshToken

/-- The callback's checks. -/
def checkCallback (s : Site) (browser user : Nat) (columns : Columns) (cookie : Cookie)
    (code oauthState error : Option String) : Site × Phase :=
  let popped := { cookie with oauthState := none }
  match error.filter (· ≠ ""), code.filter (· ≠ ""), oauthState.filter (· ≠ "") with
  | some _, _, _ => (s, .answering browser cookie)
  | none, some code, some given =>
    if cookie.oauthState = some given then
      let grant : Grant := ⟨browser, user, given, code⟩
      ({ s with log := { s.log with accepted := grant :: s.log.accepted } },
        .exchanging ⟨browser, popped, user⟩ columns grant)
    else (s, .answering browser popped)
  | none, _, _ => (s, .answering browser popped)

/-- **The server**: one statement, or one answer, of a request. -/
def serve : Program Site Nat Phase Event
  | _, .create user, s, .idle =>
    if (s.users.get? user).isSome then none
    else
      some ({ s with
        users := s.users.set user Columns.unlinked
        log := { s.log with born := user :: s.log.born } }, .idle)
  | _, .delete user, s, .idle => some ({ s with users := s.users.erase user }, .idle)
  | _, .configure clientId campaignId, s, .idle =>
    some ({ s with clientId := clientId, campaignId := campaignId }, .idle)
  | _, .register browser cookie user, s, .idle =>
    if (s.users.get? user).isSome || !s.holds browser cookie then none
    else
      match s.currentUser cookie with
      | some _ => some (s, .answering browser cookie)
      | none =>
        some ({ s with
          users := s.users.set user Columns.unlinked
          log := { s.log with
            born := user :: s.log.born
            signedIn := (browser, user) :: s.log.signedIn } },
          .answering browser { cookie with userId := some user })
  | _, .login browser cookie user, s, .idle =>
    if !s.holds browser cookie then none
    else
      match s.currentUser cookie, s.users.get? user with
      | some _, _ => some (s, .answering browser cookie)
      | none, none => none
      | none, some columns =>
        some ({ s with log := { s.log with signedIn := (browser, user) :: s.log.signedIn } },
          .loaded ⟨browser, { cookie with userId := some user }, user⟩ columns)
  | _, .logout browser cookie, s, .idle =>
    if !s.holds browser cookie then none
    else
      match s.currentUser cookie with
      | none => some (s, .answering browser cookie)
      | some _ => some (s, .answering browser { cookie with userId := none })
  | _, .deleteAccount browser cookie, s, .idle =>
    if !s.holds browser cookie then none
    else
      match s.currentUser cookie with
      | none => some (s, .answering browser cookie)
      | some (user, _) =>
        some ({ s with users := s.users.erase user },
          .answering browser { cookie with userId := none })
  | _, .link browser cookie drawn, s, .idle =>
    if !s.holds browser cookie then none
    else if (s.currentUser cookie).isNone || s.clientId == "" then
      some (s, .answering browser cookie)
    else
      some ({ s with log := { s.log with issued := (browser, drawn) :: s.log.issued } },
        .answering browser { cookie with oauthState := some drawn })
  | _, .callback browser cookie code oauthState error, s, .idle =>
    if !s.holds browser cookie then none
    else
      match s.currentUser cookie with
      | none => some (s, .answering browser cookie)
      | some (user, columns) =>
        some (checkCallback s browser user columns cookie code oauthState error)
  | _, .unlink browser cookie, s, .idle =>
    if !s.holds browser cookie then none
    else
      match s.currentUser cookie with
      | none => some (s, .answering browser cookie)
      | some (user, columns) => some (s, .unlinking ⟨browser, cookie, user⟩ columns)
  | _, .proceed now, s, .loaded v columns =>
    some (s, if s.clientId == "" then .answering v.browser v.cookie else startSync v columns now)
  | _, .tokens answer, s, .exchanging v columns grant =>
    match answer with
    | none => some (s, .answering v.browser v.cookie)
    | some tokens =>
      some ({ s with log := { s.log with exchanged := (grant, tokens) :: s.log.exchanged } },
        .identifying v columns grant tokens)
  | _, .identity answer, s, .identifying v columns _ tokens =>
    match answer with
    | none => some (s, .answering v.browser v.cookie)
    | some patreonId =>
      some ({ s with
        log := { s.log with identified := (tokens.accessToken, patreonId) :: s.log.identified } },
        .ranking v (.link columns tokens patreonId) tokens.accessToken)
  | _, .tokens answer, s, .refreshing v columns refreshToken =>
    match answer with
    | none => some (s, .storing v (.sync (some columns.patreonTier)) none)
    | some tokens =>
      some ({ s with
        log := { s.log with refreshed := (v.user, refreshToken, tokens) :: s.log.refreshed } },
        .renewing v columns tokens)
  | _, .commit now, s, .renewing v columns tokens =>
    some (if (s.users.get? v.user).isNone then (s, .answering v.browser v.cookie)
      else (s.update v.user fun current => renewed columns current tokens now,
        .ranking v (.sync none) tokens.accessToken))
  | _, .campaign, s, .ranking v lookup accessToken =>
    some (s, if s.campaignId == "" then .storing v lookup none else .listing v lookup accessToken)
  | _, .members answer, s, .listing v lookup accessToken =>
    match answer with
    | none => some (s, .storing v lookup none)
    | some page =>
      some ({ s with log := { s.log with listed := (v.user, accessToken, page) :: s.log.listed } },
        .storing v lookup (fetchMembershipTier page))
  | _, .commit now, s, .storing v lookup tier =>
    let f (current : Columns) : Columns :=
      match lookup with
      | .link columns tokens patreonId => linked columns current patreonId tier tokens now
      | .sync loadedTier => ranked loadedTier current tier
    some (s.update v.user f, .answering v.browser v.cookie)
  | _, .commit _, s, .unlinking v columns =>
    some (s.update v.user fun current => unlinked columns current, .answering v.browser v.cookie)
  | _, .respond, s, .answering browser cookie =>
    some ({ s with jars := s.jars.set browser (cookie :: s.jar browser) }, .idle)
  | _, .fail, s, .loaded v _ | _, .fail, s, .exchanging v _ _ | _, .fail, s, .identifying v _ _ _
  | _, .fail, s, .refreshing v _ _ | _, .fail, s, .renewing v _ _ | _, .fail, s, .ranking v _ _
  | _, .fail, s, .listing v _ _ | _, .fail, s, .storing v _ _ | _, .fail, s, .unlinking v _ =>
    some (s, .answering v.browser v.cookie)
  | _, _, _, _ => none

end RetroBridge.Patreon
