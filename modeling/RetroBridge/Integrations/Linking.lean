/-
  File:      RetroBridge/Integrations/Linking.lean
  Subject:   WHERE A PATREON ACCOUNT COMES FROM, over every interleaving of requests.

  * `Log.Earned` -- tokens that a user has by the exchange of a code, and by refreshes since;
  * `Backed`, `ColumnsOk`, `PhaseOk`, `SiteOk` -- the invariant: every column has its origin in the
    log, and so has what a request carries;
  * `serve_ok` -- **one statement or answer keeps it**;
  * `NewId` -- no new user is given the id of a deleted one, so that an id names one user;
  * `link_run` -- A USER'S TOKENS, TIER AND ACCOUNT come from codes that this user's own callbacks
    have exchanged, each with a state that had been issued to the same browser and to no other;
  * `Orderly`, `accepted_once` -- a browser that waits for its answers uses no state twice.
-/
import RetroBridge.Integrations.Patreon

namespace RetroBridge.Patreon

open Ordered Transition Interleaved

/-! ## 1. The log -/

/-- **Tokens that Patreon has given for a user**: for the code of a callback of this user, or for a
    refresh token of such tokens. -/
inductive Log.Earned (g : Log) (u : Nat) : Tokens → Prop where
  | exchanged {grant : Grant} {t : Tokens} (h : (grant, t) ∈ g.exchanged) (hu : grant.user = u) :
      g.Earned u t
  | refreshed {t t' : Tokens} (h : g.Earned u t) (hr : (u, t.refreshToken, t') ∈ g.refreshed) :
      g.Earned u t'

/-- An access token of the user. -/
def Log.Access (g : Log) (u : Nat) (a : String) : Prop := ∃ t, g.Earned u t ∧ t.accessToken = a

def Log.Refresh (g : Log) (u : Nat) (r : String) : Prop := ∃ t, g.Earned u t ∧ t.refreshToken = r

/-- Patreon has listed an active membership of this tier for an access token of the user. -/
def Log.Tier (g : Log) (u : Nat) (tier : String) : Prop :=
  ∃ a page, g.Access u a ∧ (u, a, page) ∈ g.listed ∧ page.Grants tier

/-- Patreon has named this account for the tokens of a callback of the user. -/
def Log.Account (g : Log) (u : Nat) (patreonId : String) : Prop :=
  ∃ grant t, (grant, t) ∈ g.exchanged ∧ grant.user = u ∧ (t.accessToken, patreonId) ∈ g.identified

/-- More has happened. -/
structure Log.Le (g g' : Log) : Prop where
  born : ∀ u ∈ g.born, u ∈ g'.born
  issued : ∀ x ∈ g.issued, x ∈ g'.issued
  signedIn : ∀ x ∈ g.signedIn, x ∈ g'.signedIn
  accepted : ∀ x ∈ g.accepted, x ∈ g'.accepted
  exchanged : ∀ x ∈ g.exchanged, x ∈ g'.exchanged
  refreshed : ∀ x ∈ g.refreshed, x ∈ g'.refreshed
  identified : ∀ x ∈ g.identified, x ∈ g'.identified
  listed : ∀ x ∈ g.listed, x ∈ g'.listed

section Log

variable {g g' : Log} {u : Nat}

theorem Log.Le.rfl : g.Le g :=
  ⟨fun _ h => h, fun _ h => h, fun _ h => h, fun _ h => h, fun _ h => h, fun _ h => h,
    fun _ h => h, fun _ h => h⟩

theorem Log.Earned.mono (hle : g.Le g') {t : Tokens} (h : g.Earned u t) : g'.Earned u t := by
  induction h with
  | exchanged h hu => exact .exchanged (hle.exchanged _ h) hu
  | refreshed _ hr ih => exact .refreshed ih (hle.refreshed _ hr)

theorem Log.Access.mono (hle : g.Le g') {a : String} (h : g.Access u a) : g'.Access u a := by
  obtain ⟨t, ht, ha⟩ := h
  exact ⟨t, ht.mono hle, ha⟩

theorem Log.Refresh.mono (hle : g.Le g') {r : String} (h : g.Refresh u r) : g'.Refresh u r := by
  obtain ⟨t, ht, hr⟩ := h
  exact ⟨t, ht.mono hle, hr⟩

theorem Log.Tier.mono (hle : g.Le g') {tier : String} (h : g.Tier u tier) : g'.Tier u tier := by
  obtain ⟨a, page, ha, hpage, hgrants⟩ := h
  exact ⟨a, page, ha.mono hle, hle.listed _ hpage, hgrants⟩

theorem Log.Account.mono (hle : g.Le g') {i : String} (h : g.Account u i) : g'.Account u i := by
  obtain ⟨grant, t, ht, hu, hi⟩ := h
  exact ⟨grant, t, hle.exchanged _ ht, hu, hle.identified _ hi⟩

end Log

/-! ## 2. The invariant -/

/-- Whatever a column holds, this is so of it. -/
def Backed {α : Type} (P : α → Prop) (o : Option α) : Prop := ∀ a, o = some a → P a

section Backed

variable {α : Type} {P Q : α → Prop} {loaded new current : Option α}

theorem backed_none : Backed P none := fun _ h => by cases h

theorem backed_some {a : α} (h : P a) : Backed P (some a) := fun _ hb => Option.some.inj hb ▸ h

theorem Backed.mono (hPQ : ∀ a, P a → Q a) {o : Option α} (h : Backed P o) : Backed Q o :=
  fun a ha => hPQ a (h a ha)

theorem backed_assigned [DecidableEq α] (hnew : Backed P new) (hcurrent : Backed P current) :
    Backed P (assigned loaded new current) := by
  unfold assigned
  split
  · exact hcurrent
  · exact hnew

theorem backed_rewritten (hnew : Backed P new) (hcurrent : Backed P current) :
    Backed P (rewritten loaded new current) := by
  unfold rewritten
  split
  · exact hcurrent
  · exact hnew

theorem backed_tokenColumn {P : String → Prop} {value : String} (h : P value) :
    Backed P (tokenColumn value) := by
  unfold tokenColumn
  split
  · exact backed_none
  · exact backed_some h

end Backed

/-- **The columns of a user**, each with its origin. -/
structure ColumnsOk (g : Log) (u : Nat) (c : Columns) : Prop where
  access : Backed (g.Access u) c.accessToken
  refresh : Backed (g.Refresh u) c.refreshToken
  tier : Backed (g.Tier u) c.patreonTier
  account : Backed (g.Account u) c.patreonId

/-- A cookie names a state of its browser, and a user who has signed in there. -/
structure CookieOk (g : Log) (browser : Nat) (c : Cookie) : Prop where
  state : Backed (fun st => (browser, st) ∈ g.issued) c.oauthState
  user : Backed (fun u => (browser, u) ∈ g.signedIn) c.userId

def LookupOk (g : Log) (u : Nat) : Lookup → Prop
  | .link _ tokens patreonId =>
    g.Access u tokens.accessToken ∧ g.Refresh u tokens.refreshToken ∧ g.Account u patreonId
  | .sync _ => True

/-- **What a request carries.** -/
def PhaseOk (g : Log) : Phase → Prop
  | .idle => True
  | .loaded v c => CookieOk g v.browser v.cookie ∧ ColumnsOk g v.user c
  | .exchanging v _ grant =>
    CookieOk g v.browser v.cookie ∧ grant ∈ g.accepted ∧ grant.user = v.user
  | .identifying v _ grant tokens =>
    CookieOk g v.browser v.cookie ∧ (grant, tokens) ∈ g.exchanged ∧ grant.user = v.user
  | .refreshing v _ refreshToken =>
    CookieOk g v.browser v.cookie ∧ g.Refresh v.user refreshToken
  | .renewing v _ tokens => CookieOk g v.browser v.cookie ∧ g.Earned v.user tokens
  | .ranking v lookup accessToken | .listing v lookup accessToken =>
    CookieOk g v.browser v.cookie ∧ LookupOk g v.user lookup ∧ g.Access v.user accessToken
  | .storing v lookup tier =>
    CookieOk g v.browser v.cookie ∧ LookupOk g v.user lookup ∧ Backed (g.Tier v.user) tier
  | .unlinking v _ => CookieOk g v.browser v.cookie
  | .answering browser cookie => CookieOk g browser cookie

/-- **The database, the browsers and the log.** -/
structure SiteOk (s : Site) : Prop where
  born : ∀ u c, s.users.get? u = some c → u ∈ s.log.born
  signedIn : ∀ x ∈ s.log.signedIn, x.2 ∈ s.log.born
  users : ∀ u c, s.users.get? u = some c → ColumnsOk s.log u c
  jars : ∀ browser, ∀ c ∈ s.jar browser, CookieOk s.log browser c
  accepted : ∀ grant ∈ s.log.accepted, (grant.browser, grant.oauthState) ∈ s.log.issued ∧
    (grant.browser, grant.user) ∈ s.log.signedIn
  exchanged : ∀ x ∈ s.log.exchanged, x.1 ∈ s.log.accepted
  distinct : ∀ u u' c c', s.users.get? u = some c → s.users.get? u' = some c' →
    c.patreonId.isSome = true → c.patreonId = c'.patreonId → u = u'

section Mono

variable {g g' : Log} {u browser : Nat}

theorem ColumnsOk.mono (hle : g.Le g') {c : Columns} (h : ColumnsOk g u c) : ColumnsOk g' u c where
  access := h.access.mono fun _ => Log.Access.mono hle
  refresh := h.refresh.mono fun _ => Log.Refresh.mono hle
  tier := h.tier.mono fun _ => Log.Tier.mono hle
  account := h.account.mono fun _ => Log.Account.mono hle

theorem CookieOk.mono (hle : g.Le g') {c : Cookie} (h : CookieOk g browser c) :
    CookieOk g' browser c where
  state := h.state.mono fun _ => hle.issued _
  user := h.user.mono fun _ => hle.signedIn _

theorem LookupOk.mono (hle : g.Le g') {l : Lookup} (h : LookupOk g u l) : LookupOk g' u l := by
  cases l with
  | link columns tokens patreonId =>
      obtain ⟨haccess, hrefresh, haccount⟩ := h
      exact ⟨haccess.mono hle, hrefresh.mono hle, haccount.mono hle⟩
  | sync loadedTier => exact trivial

theorem PhaseOk.mono (hle : g.Le g') {p : Phase} (h : PhaseOk g p) : PhaseOk g' p := by
  cases p with
  | idle => exact trivial
  | loaded v c => exact ⟨h.1.mono hle, h.2.mono hle⟩
  | exchanging v c grant => exact ⟨h.1.mono hle, hle.accepted _ h.2.1, h.2.2⟩
  | identifying v c grant tokens => exact ⟨h.1.mono hle, hle.exchanged _ h.2.1, h.2.2⟩
  | refreshing v c refreshToken => exact ⟨h.1.mono hle, h.2.mono hle⟩
  | renewing v c tokens => exact ⟨h.1.mono hle, h.2.mono hle⟩
  | ranking v lookup accessToken => exact ⟨h.1.mono hle, h.2.1.mono hle, h.2.2.mono hle⟩
  | listing v lookup accessToken => exact ⟨h.1.mono hle, h.2.1.mono hle, h.2.2.mono hle⟩
  | storing v lookup tier =>
      exact ⟨h.1.mono hle, h.2.1.mono hle, h.2.2.mono fun _ => Log.Tier.mono hle⟩
  | unlinking v c => exact CookieOk.mono hle h
  | answering browser cookie => exact CookieOk.mono hle h

end Mono

theorem columnsOk_unlinked (g : Log) (u : Nat) : ColumnsOk g u Columns.unlinked :=
  ⟨backed_none, backed_none, backed_none, backed_none⟩

theorem cookieOk_blank (g : Log) (browser : Nat) : CookieOk g browser Cookie.blank :=
  ⟨backed_none, backed_none⟩

/-! ## 3. What a statement keeps -/

namespace SiteOk

variable {s : Site} {u : Nat} {browser : Nat} {cookie : Cookie} {c : Columns}

/-- More has happened, and the rows and the cookies are as they were. -/
theorem log (h : SiteOk s) {g : Log} (hle : s.log.Le g)
    (hsignedIn : ∀ x ∈ g.signedIn, x ∈ s.log.signedIn ∨ x.2 ∈ g.born)
    (haccepted : ∀ grant ∈ g.accepted, grant ∈ s.log.accepted ∨
      (grant.browser, grant.oauthState) ∈ g.issued ∧ (grant.browser, grant.user) ∈ g.signedIn)
    (hexchanged : ∀ x ∈ g.exchanged, x ∈ s.log.exchanged ∨ x.1 ∈ g.accepted) :
    SiteOk { s with log := g } where
  born u c hc := hle.born u (h.born u c hc)
  signedIn x hx := (hsignedIn x hx).elim (fun hold => hle.born _ (h.signedIn x hold)) id
  users u c hc := (h.users u c hc).mono hle
  jars browser c hc := (h.jars browser c hc).mono hle
  accepted grant hgrant := by
    rcases haccepted grant hgrant with hold | hnew
    · obtain ⟨hissued, hsigned⟩ := h.accepted grant hold
      exact ⟨hle.issued _ hissued, hle.signedIn _ hsigned⟩
    · exact hnew
  exchanged x hx := by
    rcases hexchanged x hx with hold | hnew
    · exact hle.accepted _ (h.exchanged x hold)
    · exact hnew
  distinct := h.distinct

/-- A row is replaced by one with an origin, its account nobody else's. -/
theorem set (h : SiteOk s) (hu : u ∈ s.log.born) (hc : ColumnsOk s.log u c)
    (hfree : ∀ u' c', u' ≠ u → s.users.get? u' = some c' → c.patreonId.isSome = true →
      c'.patreonId ≠ c.patreonId) :
    SiteOk { s with users := s.users.set u c } where
  born u' c' hc' := by
    rw [Dict.get?_set] at hc'
    split_ifs at hc' with heq
    · exact heq ▸ hu
    · exact h.born u' c' hc'
  signedIn := h.signedIn
  users u' c' hc' := by
    rw [Dict.get?_set] at hc'
    split_ifs at hc' with heq
    · cases hc'
      exact heq ▸ hc
    · exact h.users u' c' hc'
  jars := h.jars
  accepted := h.accepted
  exchanged := h.exchanged
  distinct u₁ u₂ c₁ c₂ h₁ h₂ hsome heq := by
    rw [Dict.get?_set] at h₁ h₂
    split_ifs at h₁ h₂ with hu₁ hu₂ hu₂
    · exact hu₁.trans hu₂.symm
    · cases h₁
      exact absurd heq.symm (hfree u₂ c₂ hu₂ h₂ hsome)
    · cases h₂
      exact absurd heq (hfree u₁ c₁ hu₁ h₁ (heq ▸ hsome))
    · exact h.distinct u₁ u₂ c₁ c₂ h₁ h₂ hsome heq

/-- A new user. -/
theorem create (h : SiteOk s) (hu : u ∈ s.log.born) :
    SiteOk { s with users := s.users.set u Columns.unlinked } :=
  h.set hu (columnsOk_unlinked s.log u) fun _ _ _ _ hsome => by cases hsome

theorem delete (h : SiteOk s) : SiteOk { s with users := s.users.erase u } where
  born u' c' hc' := by
    rw [Dict.get?_erase] at hc'
    split_ifs at hc'
    exact h.born u' c' hc'
  signedIn := h.signedIn
  users u' c' hc' := by
    rw [Dict.get?_erase] at hc'
    split_ifs at hc'
    exact h.users u' c' hc'
  jars := h.jars
  accepted := h.accepted
  exchanged := h.exchanged
  distinct u₁ u₂ c₁ c₂ h₁ h₂ := by
    rw [Dict.get?_erase] at h₁ h₂
    split_ifs at h₁ h₂
    exact h.distinct u₁ u₂ c₁ c₂ h₁ h₂

/-- **A commit**, whose assignments have an origin. -/
theorem update (h : SiteOk s) {f : Columns → Columns}
    (hf : ∀ c, ColumnsOk s.log u c → ColumnsOk s.log u (f c)) : SiteOk (s.update u f) := by
  unfold Site.update
  cases hc : s.users.get? u with
  | none => exact h
  | some c =>
      dsimp only
      by_cases htaken : s.taken u (f c) = true
      · rw [if_pos htaken]
        exact h
      · rw [if_neg htaken]
        refine h.set (h.born u c hc) (hf c (h.users u c hc)) fun u' c' hu hc' hsome heq => htaken ?_
        rw [Site.taken, hsome, Bool.true_and, List.any_eq_true]
        refine ⟨(u', c'), Dict.get?_eq_some.mp hc', ?_⟩
        simpa using ⟨hu, heq⟩

/-- **A response.** -/
theorem respond (h : SiteOk s) (hcookie : CookieOk s.log browser cookie) :
    SiteOk { s with jars := s.jars.set browser (cookie :: s.jar browser) } where
  born := h.born
  signedIn := h.signedIn
  users := h.users
  jars b c hc := by
    rw [Site.jar, Dict.get?_set] at hc
    split_ifs at hc with hb
    · rw [hb]
      rcases List.mem_cons.mp hc with rfl | hold
      · exact hcookie
      · exact h.jars browser c hold
    · exact h.jars b c hc
  accepted := h.accepted
  exchanged := h.exchanged
  distinct := h.distinct

theorem holds (h : SiteOk s) (hb : s.holds browser cookie = true) :
    CookieOk s.log browser cookie := by
  rcases Bool.or_eq_true_iff.mp hb with hblank | hjar
  · rw [eq_of_beq hblank]
    exact cookieOk_blank s.log browser
  · exact h.jars browser cookie (by simpa using hjar)

theorem currentUser (h : SiteOk s) (hb : s.holds browser cookie = true)
    (hu : s.currentUser cookie = some (u, c)) :
    (browser, u) ∈ s.log.signedIn ∧ ColumnsOk s.log u c := by
  obtain ⟨u', hid, hrow⟩ := Option.bind_eq_some_iff.mp hu
  obtain ⟨c', hc', hpair⟩ := Option.map_eq_some_iff.mp hrow
  cases hpair
  exact ⟨(h.holds hb).user u hid, h.users u c hc'⟩

end SiteOk

section Commits

variable {g : Log} {u : Nat} {loaded c : Columns} {tokens : Tokens} {now : Time}

theorem columnsOk_linked {patreonId : String} {tier : Option String} (h : ColumnsOk g u c)
    (hl : LookupOk g u (.link loaded tokens patreonId)) (htier : Backed (g.Tier u) tier) :
    ColumnsOk g u (linked loaded c patreonId tier tokens now) where
  access := backed_rewritten (backed_tokenColumn hl.1) h.access
  refresh := backed_rewritten (backed_tokenColumn hl.2.1) h.refresh
  tier := backed_assigned htier h.tier
  account := backed_assigned (backed_some hl.2.2) h.account

theorem columnsOk_unlink (h : ColumnsOk g u c) : ColumnsOk g u (unlinked loaded c) where
  access := backed_rewritten backed_none h.access
  refresh := backed_rewritten backed_none h.refresh
  tier := backed_assigned backed_none h.tier
  account := backed_assigned backed_none h.account

theorem columnsOk_renewed (h : ColumnsOk g u c) (ht : g.Earned u tokens) :
    ColumnsOk g u (renewed loaded c tokens now) where
  access := backed_rewritten (backed_tokenColumn ⟨tokens, ht, rfl⟩) h.access
  refresh := backed_rewritten (backed_tokenColumn ⟨tokens, ht, rfl⟩) h.refresh
  tier := h.tier
  account := h.account

theorem columnsOk_ranked {loadedTier : Option (Option String)} {tier : Option String}
    (h : ColumnsOk g u c) (htier : Backed (g.Tier u) tier) :
    ColumnsOk g u (ranked loadedTier c tier) where
  access := h.access
  refresh := h.refresh
  tier := by
    cases loadedTier with
    | none => exact htier
    | some loaded => exact backed_assigned htier h.tier
  account := h.account

end Commits

/-! ## 4. The server -/

section Serve

variable {s s' : Site} {r : Nat} {e : Event} {p p' : Phase}

/-- The id that a new user is given. -/
def Event.newUser : Event → Option Nat
  | .create user | .register _ _ user => some user
  | _ => none

/-- The ids that have been given, with that of an event's new user. -/
def Births (e : Event) (g g' : Log) : Prop :=
  g'.born = g.born ∨ ∃ user, e.newUser = some user ∧ g'.born = user :: g.born

/-- What a statement leaves. -/
structure Kept (e : Event) (s s' : Site) (p' : Phase) : Prop where
  site : SiteOk s'
  phase : PhaseOk s'.log p'
  grown : s.log.Le s'.log
  births : Births e s.log s'.log

/-- Nothing is written, and the request carries what it did. -/
theorem kept_answering {browser : Nat} {cookie : Cookie} (hs : SiteOk s)
    (hcookie : CookieOk s.log browser cookie) : Kept e s s (.answering browser cookie) :=
  ⟨hs, hcookie, .rfl, .inl rfl⟩

theorem update_frame (u : Nat) (f : Columns → Columns) :
    (s.update u f).log = s.log ∧ (s.update u f).jars = s.jars := by
  unfold Site.update
  split
  · exact ⟨rfl, rfl⟩
  · split <;> exact ⟨rfl, rfl⟩

theorem kept_update {v : Visit} {f : Columns → Columns} (hs : SiteOk s)
    (hcookie : CookieOk s.log v.browser v.cookie)
    (hf : ∀ c, ColumnsOk s.log v.user c → ColumnsOk s.log v.user (f c)) :
    Kept e s (s.update v.user f) (.answering v.browser v.cookie) := by
  have hlog := (update_frame (s := s) v.user f).1
  refine ⟨hs.update hf, ?_, ?_, .inl (congrArg Log.born hlog)⟩
  · rw [hlog]
    exact hcookie
  · rw [hlog]
    exact .rfl

/-- The log grows by what is no callback, no sign-in and no new user. -/
theorem kept_log {g : Log} (hs : SiteOk s) (hle : s.log.Le g) (hborn : g.born = s.log.born)
    (hsignedIn : g.signedIn = s.log.signedIn) (haccepted : g.accepted = s.log.accepted)
    (hexchanged : g.exchanged = s.log.exchanged) (hp' : PhaseOk g p') :
    Kept e s { s with log := g } p' :=
  ⟨hs.log hle (fun _ hx => .inl (hsignedIn ▸ hx)) (fun _ hx => .inl (haccepted ▸ hx))
    fun _ hx => .inl (hexchanged ▸ hx), hp', hle, .inl hborn⟩

/-- A browser signs in. -/
theorem kept_signIn {browser u : Nat} {cookie : Cookie} (hs : SiteOk s) (hu : u ∈ s.log.born)
    (hcookie : CookieOk s.log browser cookie) :
    let g := { s.log with signedIn := (browser, u) :: s.log.signedIn }
    s.log.Le g ∧ SiteOk { s with log := g } ∧
      CookieOk g browser { cookie with userId := some u } := by
  intro g
  have hle : s.log.Le g := { Log.Le.rfl with signedIn := fun _ hx => List.mem_cons_of_mem _ hx }
  refine ⟨hle, hs.log hle (fun x hx => ?_) (fun _ hx => .inl hx) (fun _ hx => .inl hx),
    (hcookie.mono hle).state, backed_some List.mem_cons_self⟩
  rcases List.mem_cons.mp hx with rfl | hold
  · exact .inr hu
  · exact .inl hold

/-- A user is given an id. -/
theorem kept_born (hs : SiteOk s) (u : Nat) :
    let g := { s.log with born := u :: s.log.born }
    s.log.Le g ∧ SiteOk { s with log := g } := by
  intro g
  have hle : s.log.Le g := { Log.Le.rfl with born := fun _ hx => List.mem_cons_of_mem _ hx }
  exact ⟨hle, hs.log hle (fun _ hx => .inl hx) (fun _ hx => .inl hx) (fun _ hx => .inl hx)⟩

/-! ### A request begins -/

section Begin

variable {browser : Nat} {cookie : Cookie}

theorem held (hs : SiteOk s) (hb : ¬(!s.holds browser cookie) = true) :
    CookieOk s.log browser cookie := hs.holds (by simpa using hb)

theorem create_ok (hs : SiteOk s) {user : Nat}
    (h : serve r (.create user) s .idle = some (s', p')) : Kept (.create user) s s' p' := by
  unfold serve at h
  dsimp only at h
  split_ifs at h
  cases h
  obtain ⟨hle, hsite⟩ := kept_born hs user
  exact ⟨hsite.create List.mem_cons_self, trivial, hle, .inr ⟨user, rfl, rfl⟩⟩

theorem register_ok (hs : SiteOk s) {user : Nat}
    (h : serve r (.register browser cookie user) s .idle = some (s', p')) :
    Kept (.register browser cookie user) s s' p' := by
  unfold serve at h
  dsimp only at h
  split_ifs at h with hb
  rw [Bool.or_eq_true, not_or] at hb
  have hcookie := held hs hb.2
  split at h
  · cases h
    exact kept_answering hs hcookie
  · cases h
    obtain ⟨hborn, hnamed⟩ := kept_born hs user
    obtain ⟨hle, hsite, hnew⟩ :=
      @kept_signIn _ browser user cookie hnamed List.mem_cons_self (hcookie.mono hborn)
    exact ⟨hsite.create List.mem_cons_self, hnew,
      { hborn with signedIn := fun _ hx => List.mem_cons_of_mem _ hx }, .inr ⟨user, rfl, rfl⟩⟩

theorem login_ok (hs : SiteOk s) {user : Nat}
    (h : serve r (.login browser cookie user) s .idle = some (s', p')) :
    Kept (.login browser cookie user) s s' p' := by
  unfold serve at h
  dsimp only at h
  split_ifs at h with hb
  have hcookie := held hs hb
  split at h
  · cases h
    exact kept_answering hs hcookie
  · cases h
  · rename_i columns _ hrow
    cases h
    obtain ⟨hle, hsite, hnew⟩ :=
      @kept_signIn s browser user cookie hs (hs.born user columns hrow) hcookie
    exact ⟨hsite, ⟨hnew, (hs.users user columns hrow).mono hle⟩, hle, .inl rfl⟩

theorem logout_ok (hs : SiteOk s) (h : serve r (.logout browser cookie) s .idle = some (s', p')) :
    Kept (.logout browser cookie) s s' p' := by
  unfold serve at h
  dsimp only at h
  split_ifs at h with hb
  have hcookie := held hs hb
  split at h
  · cases h
    exact kept_answering hs hcookie
  · cases h
    exact kept_answering hs ⟨hcookie.state, backed_none⟩

theorem deleteAccount_ok (hs : SiteOk s)
    (h : serve r (.deleteAccount browser cookie) s .idle = some (s', p')) :
    Kept (.deleteAccount browser cookie) s s' p' := by
  unfold serve at h
  dsimp only at h
  split_ifs at h with hb
  have hcookie := held hs hb
  split at h
  · cases h
    exact kept_answering hs hcookie
  · cases h
    exact ⟨hs.delete, ⟨hcookie.state, backed_none⟩, .rfl, .inl rfl⟩

theorem link_ok (hs : SiteOk s) {drawn : String}
    (h : serve r (.link browser cookie drawn) s .idle = some (s', p')) :
    Kept (.link browser cookie drawn) s s' p' := by
  unfold serve at h
  dsimp only at h
  split_ifs at h with hb
  · cases h
    exact kept_answering hs (held hs hb)
  · cases h
    have hle : s.log.Le { s.log with issued := (browser, drawn) :: s.log.issued } :=
      { Log.Le.rfl with issued := fun _ hx => List.mem_cons_of_mem _ hx }
    exact kept_log hs hle rfl rfl rfl rfl
      ⟨backed_some List.mem_cons_self, ((held hs hb).mono hle).user⟩

/-- The checks of a callback: the state that it gives is its browser's. -/
theorem checkCallback_ok (hs : SiteOk s) (hcookie : CookieOk s.log browser cookie) {user : Nat}
    {columns : Columns} {code oauthState error : Option String}
    (hsigned : (browser, user) ∈ s.log.signedIn) :
    Kept e s (checkCallback s browser user columns cookie code oauthState error).1
      (checkCallback s browser user columns cookie code oauthState error).2 := by
  have hpopped : CookieOk s.log browser { cookie with oauthState := none } :=
    ⟨backed_none, hcookie.user⟩
  unfold checkCallback
  split
  · exact kept_answering hs hcookie
  · rename_i code given _ _ _
    split_ifs with hstate
    · have hle : s.log.Le { s.log with
          accepted := ⟨browser, user, given, code⟩ :: s.log.accepted } :=
        { Log.Le.rfl with accepted := fun _ hx => List.mem_cons_of_mem _ hx }
      refine ⟨hs.log hle (fun _ hx => .inl hx) (fun grant hgrant => ?_) fun _ hx => .inl hx,
        ⟨hpopped.mono hle, List.mem_cons_self, rfl⟩, hle, .inl rfl⟩
      rcases List.mem_cons.mp hgrant with rfl | hold
      · exact .inr ⟨hcookie.state given hstate, hsigned⟩
      · exact .inl hold
    · exact kept_answering hs hpopped
  · exact kept_answering hs hpopped

theorem callback_ok (hs : SiteOk s) {code oauthState error : Option String}
    (h : serve r (.callback browser cookie code oauthState error) s .idle = some (s', p')) :
    Kept (.callback browser cookie code oauthState error) s s' p' := by
  unfold serve at h
  dsimp only at h
  split_ifs at h with hb
  have hcookie := held hs hb
  split at h
  · cases h
    exact kept_answering hs hcookie
  · rename_i user columns huser
    obtain ⟨hsigned, -⟩ := hs.currentUser (by simpa using hb) huser
    obtain ⟨rfl, rfl⟩ := Prod.mk.inj (Option.some.inj h)
    exact checkCallback_ok hs hcookie hsigned

theorem unlink_ok (hs : SiteOk s) (h : serve r (.unlink browser cookie) s .idle = some (s', p')) :
    Kept (.unlink browser cookie) s s' p' := by
  unfold serve at h
  dsimp only at h
  split_ifs at h with hb
  have hcookie := held hs hb
  split at h
  · cases h
    exact kept_answering hs hcookie
  · cases h
    exact ⟨hs, hcookie, .rfl, .inl rfl⟩

end Begin

/-- **A request begins.** -/
theorem begin_ok (hs : SiteOk s) (h : serve r e s .idle = some (s', p')) : Kept e s s' p' := by
  cases e with
  | create user => exact create_ok hs h
  | delete user =>
      cases h
      exact ⟨hs.delete, trivial, .rfl, .inl rfl⟩
  | configure clientId campaignId =>
      cases h
      exact ⟨⟨hs.born, hs.signedIn, hs.users, hs.jars, hs.accepted, hs.exchanged, hs.distinct⟩,
        trivial, .rfl, .inl rfl⟩
  | register browser cookie user => exact register_ok hs h
  | login browser cookie user => exact login_ok hs h
  | logout browser cookie => exact logout_ok hs h
  | deleteAccount browser cookie => exact deleteAccount_ok hs h
  | link browser cookie drawn => exact link_ok hs h
  | callback browser cookie code oauthState error => exact callback_ok hs h
  | unlink browser cookie => exact unlink_ok hs h
  | _ => cases h

/-! ### A request goes on -/

section Go

variable {v : Visit} {columns : Columns} {grant : Grant} {tokens : Tokens} {lookup : Lookup}
  {accessToken refreshToken : String} {tier : Option String}

/-- `is_enabled` and `get_valid_token`, up to its call. -/
theorem startSync_ok (hcookie : CookieOk s.log v.browser v.cookie)
    (hcolumns : ColumnsOk s.log v.user columns) (now : Time) :
    PhaseOk s.log (startSync v columns now) := by
  unfold startSync
  split
  · exact ⟨hcookie, trivial, backed_none⟩
  · rename_i accessToken haccess
    split
    · exact ⟨hcookie, trivial, hcolumns.access _ haccess⟩
    · split
      · exact ⟨hcookie, trivial, backed_none⟩
      · rename_i refreshToken hrefresh
        exact ⟨hcookie, hcolumns.refresh _ hrefresh⟩

theorem loaded_ok (hs : SiteOk s) (hp : PhaseOk s.log (.loaded v columns))
    (h : serve r e s (.loaded v columns) = some (s', p')) : Kept e s s' p' := by
  obtain ⟨hcookie, hcolumns⟩ := hp
  cases e with
  | proceed now =>
      cases h
      refine ⟨hs, ?_, .rfl, .inl rfl⟩
      split
      · exact hcookie
      · exact startSync_ok hcookie hcolumns now
  | fail => cases h; exact kept_answering hs hcookie
  | _ => cases h

theorem exchanging_ok (hs : SiteOk s) (hp : PhaseOk s.log (.exchanging v columns grant))
    (h : serve r e s (.exchanging v columns grant) = some (s', p')) : Kept e s s' p' := by
  obtain ⟨hcookie, hgrant, huser⟩ := hp
  cases e with
  | tokens answer =>
      cases answer with
      | none => cases h; exact kept_answering hs hcookie
      | some tokens =>
          cases h
          have hle : s.log.Le { s.log with exchanged := (grant, tokens) :: s.log.exchanged } :=
            { Log.Le.rfl with exchanged := fun _ hx => List.mem_cons_of_mem _ hx }
          refine ⟨hs.log hle (fun _ hx => .inl hx) (fun _ hx => .inl hx) fun x hx => ?_,
            ⟨hcookie.mono hle, List.mem_cons_self, huser⟩, hle, .inl rfl⟩
          rcases List.mem_cons.mp hx with rfl | hold
          · exact .inr hgrant
          · exact .inl hold
  | fail => cases h; exact kept_answering hs hcookie
  | _ => cases h

theorem identifying_ok (hs : SiteOk s) (hp : PhaseOk s.log (.identifying v columns grant tokens))
    (h : serve r e s (.identifying v columns grant tokens) = some (s', p')) : Kept e s s' p' := by
  obtain ⟨hcookie, hexchanged, huser⟩ := hp
  cases e with
  | identity answer =>
      cases answer with
      | none => cases h; exact kept_answering hs hcookie
      | some patreonId =>
          cases h
          have hle : s.log.Le { s.log with
              identified := (tokens.accessToken, patreonId) :: s.log.identified } :=
            { Log.Le.rfl with identified := fun _ hx => List.mem_cons_of_mem _ hx }
          have hearned : s.log.Earned v.user tokens := .exchanged hexchanged huser
          have haccess := Log.Access.mono hle ⟨tokens, hearned, rfl⟩
          have hrefresh := Log.Refresh.mono hle ⟨tokens, hearned, rfl⟩
          exact kept_log hs hle rfl rfl rfl rfl ⟨hcookie.mono hle,
            ⟨haccess, hrefresh, grant, tokens, hexchanged, huser, List.mem_cons_self⟩, haccess⟩
  | fail => cases h; exact kept_answering hs hcookie
  | _ => cases h

theorem refreshing_ok (hs : SiteOk s) (hp : PhaseOk s.log (.refreshing v columns refreshToken))
    (h : serve r e s (.refreshing v columns refreshToken) = some (s', p')) : Kept e s s' p' := by
  obtain ⟨hcookie, t, hearned, rfl⟩ := hp
  cases e with
  | tokens answer =>
      cases answer with
      | none => cases h; exact ⟨hs, ⟨hcookie, trivial, backed_none⟩, .rfl, .inl rfl⟩
      | some tokens =>
          cases h
          have hle : s.log.Le { s.log with
              refreshed := (v.user, t.refreshToken, tokens) :: s.log.refreshed } :=
            { Log.Le.rfl with refreshed := fun _ hx => List.mem_cons_of_mem _ hx }
          exact kept_log hs hle rfl rfl rfl rfl
            ⟨hcookie.mono hle, .refreshed (hearned.mono hle) List.mem_cons_self⟩
  | fail => cases h; exact kept_answering hs hcookie
  | _ => cases h

theorem renewing_ok (hs : SiteOk s) (hp : PhaseOk s.log (.renewing v columns tokens))
    (h : serve r e s (.renewing v columns tokens) = some (s', p')) : Kept e s s' p' := by
  obtain ⟨hcookie, hearned⟩ := hp
  cases e with
  | commit now =>
      unfold serve at h
      dsimp only at h
      split_ifs at h
      · cases h
        exact kept_answering hs hcookie
      · cases h
        obtain ⟨hsite, hanswer, hle, hborn⟩ :=
          @kept_update s (.commit now) v _ hs hcookie fun c hc => columnsOk_renewed hc hearned
        exact ⟨hsite, ⟨hanswer, trivial, tokens, hearned.mono hle, rfl⟩, hle, hborn⟩
  | fail => cases h; exact kept_answering hs hcookie
  | _ => cases h

theorem ranking_ok (hs : SiteOk s) (hp : PhaseOk s.log (.ranking v lookup accessToken))
    (h : serve r e s (.ranking v lookup accessToken) = some (s', p')) : Kept e s s' p' := by
  obtain ⟨hcookie, hlookup, haccess⟩ := hp
  cases e with
  | campaign =>
      cases h
      refine ⟨hs, ?_, .rfl, .inl rfl⟩
      split
      · exact ⟨hcookie, hlookup, backed_none⟩
      · exact ⟨hcookie, hlookup, haccess⟩
  | fail => cases h; exact kept_answering hs hcookie
  | _ => cases h

theorem listing_ok (hs : SiteOk s) (hp : PhaseOk s.log (.listing v lookup accessToken))
    (h : serve r e s (.listing v lookup accessToken) = some (s', p')) : Kept e s s' p' := by
  obtain ⟨hcookie, hlookup, haccess⟩ := hp
  cases e with
  | members answer =>
      cases answer with
      | none => cases h; exact ⟨hs, ⟨hcookie, hlookup, backed_none⟩, .rfl, .inl rfl⟩
      | some page =>
          cases h
          have hle : s.log.Le { s.log with
              listed := (v.user, accessToken, page) :: s.log.listed } :=
            { Log.Le.rfl with listed := fun _ hx => List.mem_cons_of_mem _ hx }
          exact kept_log hs hle rfl rfl rfl rfl ⟨hcookie.mono hle, hlookup.mono hle,
            fun tier htier => ⟨accessToken, page, haccess.mono hle, List.mem_cons_self,
              grants_of_fetch htier⟩⟩
  | fail => cases h; exact kept_answering hs hcookie
  | _ => cases h

theorem storing_ok (hs : SiteOk s) (hp : PhaseOk s.log (.storing v lookup tier))
    (h : serve r e s (.storing v lookup tier) = some (s', p')) : Kept e s s' p' := by
  obtain ⟨hcookie, hlookup, htier⟩ := hp
  cases e with
  | commit now =>
      cases h
      refine kept_update hs hcookie fun c hc => ?_
      cases lookup with
      | link columns tokens patreonId => exact columnsOk_linked hc hlookup htier
      | sync loadedTier => exact columnsOk_ranked hc htier
  | fail => cases h; exact kept_answering hs hcookie
  | _ => cases h

theorem unlinking_ok (hs : SiteOk s) (hp : PhaseOk s.log (.unlinking v columns))
    (h : serve r e s (.unlinking v columns) = some (s', p')) : Kept e s s' p' := by
  cases e with
  | commit now => cases h; exact kept_update hs hp fun c hc => columnsOk_unlink hc
  | fail => cases h; exact kept_answering hs hp
  | _ => cases h

theorem answering_ok (hs : SiteOk s) {browser : Nat} {cookie : Cookie}
    (hp : PhaseOk s.log (.answering browser cookie))
    (h : serve r e s (.answering browser cookie) = some (s', p')) : Kept e s s' p' := by
  cases e with
  | respond => cases h; exact ⟨hs.respond hp, trivial, .rfl, .inl rfl⟩
  | _ => cases h

end Go

/-- **A request goes on.** -/
theorem go_ok (hs : SiteOk s) (hp : PhaseOk s.log p) (hidle : p ≠ .idle)
    (h : serve r e s p = some (s', p')) : Kept e s s' p' := by
  cases p with
  | idle => exact absurd rfl hidle
  | loaded => exact loaded_ok hs hp h
  | exchanging => exact exchanging_ok hs hp h
  | identifying => exact identifying_ok hs hp h
  | refreshing => exact refreshing_ok hs hp h
  | renewing => exact renewing_ok hs hp h
  | ranking => exact ranking_ok hs hp h
  | listing => exact listing_ok hs hp h
  | storing => exact storing_ok hs hp h
  | unlinking => exact unlinking_ok hs hp h
  | answering => exact answering_ok hs hp h

/-- **One statement or answer keeps the invariant.** -/
theorem serve_ok (hs : SiteOk s) (hp : PhaseOk s.log p) (h : serve r e s p = some (s', p')) :
    Kept e s s' p' := by
  by_cases hidle : p = .idle
  · subst hidle
    exact begin_ok hs h
  · exact go_ok hs hp hidle h

end Serve

/-! ## 5. States -/

/-- The browser of a request, and the cookie that its response sets. -/
def Phase.holder : Phase → Option (Nat × Cookie)
  | .idle => none
  | .answering browser cookie => some (browser, cookie)
  | .loaded v _ | .exchanging v _ _ | .identifying v _ _ _ | .refreshing v _ _ | .renewing v _ _
  | .ranking v _ _ | .listing v _ _ | .storing v _ _ | .unlinking v _ => some (v.browser, v.cookie)

/-- The browser that sends a request, and its cookie. -/
def Event.origin : Event → Option (Nat × Cookie)
  | .register browser cookie _ | .login browser cookie _ | .logout browser cookie
  | .deleteAccount browser cookie | .link browser cookie _ | .callback browser cookie _ _ _
  | .unlink browser cookie => some (browser, cookie)
  | _ => none

/-- **What a step does to the states of browsers.** -/
inductive Moves (s : Site) (e : Event) (p : Phase) (s' : Site) (p' : Phase) : Prop where
  /-- Nothing; a request may go on. -/
  | rests (hissued : s'.log.issued = s.log.issued) (haccepted : s'.log.accepted = s.log.accepted)
      (hjars : s'.jars = s.jars) (hholder : p'.holder = p.holder)
      (hlink : ∀ browser cookie drawn, e ≠ .link browser cookie drawn)
  /-- A request begins that issues and accepts none. -/
  | begins (browser : Nat) (cookie cookie' : Cookie) (hp : p.holder = none)
      (horigin : e.origin = some (browser, cookie))
      (hissued : s'.log.issued = s.log.issued) (haccepted : s'.log.accepted = s.log.accepted)
      (hjars : s'.jars = s.jars) (hholder : p'.holder = some (browser, cookie'))
      (hstate : cookie'.oauthState = cookie.oauthState ∨ cookie'.oauthState = none)
  | issues (browser : Nat) (cookie cookie' : Cookie) (drawn : String)
      (hp : p.holder = none) (he : e = .link browser cookie drawn)
      (hissued : s'.log.issued = (browser, drawn) :: s.log.issued)
      (haccepted : s'.log.accepted = s.log.accepted) (hjars : s'.jars = s.jars)
      (hholder : p'.holder = some (browser, cookie'))
      (hstate : cookie'.oauthState = some drawn)
  | accepts (cookie cookie' : Cookie) (grant : Grant) (hp : p.holder = none)
      (horigin : e.origin = some (grant.browser, cookie))
      (hissued : s'.log.issued = s.log.issued)
      (haccepted : s'.log.accepted = grant :: s.log.accepted) (hjars : s'.jars = s.jars)
      (hholder : p'.holder = some (grant.browser, cookie'))
      (hgiven : cookie.oauthState = some grant.oauthState) (hstate : cookie'.oauthState = none)
  | answers (browser : Nat) (cookie : Cookie) (hp : p.holder = some (browser, cookie))
      (hissued : s'.log.issued = s.log.issued) (haccepted : s'.log.accepted = s.log.accepted)
      (hjars : s'.jars = s.jars.set browser (cookie :: s.jar browser)) (hholder : p'.holder = none)

section Moves

variable {s s' : Site} {r : Nat} {e : Event} {p p' : Phase}

/-- The checks of a callback: the state is popped, and accepted where the cookie has it. -/
theorem checkCallback_moves {browser user : Nat} {columns : Columns} {cookie : Cookie}
    {code oauthState error : Option String} (horigin : e.origin = some (browser, cookie)) :
    Moves s e .idle (checkCallback s browser user columns cookie code oauthState error).1
      (checkCallback s browser user columns cookie code oauthState error).2 := by
  unfold checkCallback
  split
  · exact .begins browser cookie _ rfl horigin rfl rfl rfl rfl (.inl rfl)
  · rename_i code given _ _ _
    split_ifs with hstate
    · exact .accepts cookie _ ⟨browser, user, given, code⟩ rfl horigin rfl rfl rfl rfl hstate rfl
    · exact .begins browser cookie _ rfl horigin rfl rfl rfl rfl (.inr rfl)
  · exact .begins browser cookie _ rfl horigin rfl rfl rfl rfl (.inr rfl)

/-- A request begins. -/
theorem begin_moves (h : serve r e s .idle = some (s', p')) : Moves s e .idle s' p' := by
  cases e with
  | create user =>
      unfold serve at h
      dsimp only at h
      split_ifs at h
      cases h
      exact .rests rfl rfl rfl rfl fun _ _ _ => Event.noConfusion
  | delete user => cases h; exact .rests rfl rfl rfl rfl fun _ _ _ => Event.noConfusion
  | configure clientId campaignId =>
      cases h
      exact .rests rfl rfl rfl rfl fun _ _ _ => Event.noConfusion
  | register browser cookie user =>
      unfold serve at h
      dsimp only at h
      split_ifs at h
      split at h
      · cases h; exact .begins browser cookie _ rfl rfl rfl rfl rfl rfl (.inl rfl)
      · cases h; exact .begins browser cookie _ rfl rfl rfl rfl rfl rfl (.inl rfl)
  | login browser cookie user =>
      unfold serve at h
      dsimp only at h
      split_ifs at h
      split at h
      · cases h; exact .begins browser cookie _ rfl rfl rfl rfl rfl rfl (.inl rfl)
      · cases h
      · cases h; exact .begins browser cookie _ rfl rfl rfl rfl rfl rfl (.inl rfl)
  | logout browser cookie =>
      unfold serve at h
      dsimp only at h
      split_ifs at h
      split at h
      · cases h; exact .begins browser cookie _ rfl rfl rfl rfl rfl rfl (.inl rfl)
      · cases h; exact .begins browser cookie _ rfl rfl rfl rfl rfl rfl (.inl rfl)
  | deleteAccount browser cookie =>
      unfold serve at h
      dsimp only at h
      split_ifs at h
      split at h
      · cases h; exact .begins browser cookie _ rfl rfl rfl rfl rfl rfl (.inl rfl)
      · cases h; exact .begins browser cookie _ rfl rfl rfl rfl rfl rfl (.inl rfl)
  | link browser cookie drawn =>
      unfold serve at h
      dsimp only at h
      split_ifs at h
      · cases h; exact .begins browser cookie _ rfl rfl rfl rfl rfl rfl (.inl rfl)
      · cases h; exact .issues browser cookie _ drawn rfl rfl rfl rfl rfl rfl rfl
  | callback browser cookie code oauthState error =>
      unfold serve at h
      dsimp only at h
      split_ifs at h
      split at h
      · cases h; exact .begins browser cookie _ rfl rfl rfl rfl rfl rfl (.inl rfl)
      · obtain ⟨rfl, rfl⟩ := Prod.mk.inj (Option.some.inj h)
        exact checkCallback_moves rfl
  | unlink browser cookie =>
      unfold serve at h
      dsimp only at h
      split_ifs at h
      split at h
      · cases h; exact .begins browser cookie _ rfl rfl rfl rfl rfl rfl (.inl rfl)
      · cases h; exact .begins browser cookie _ rfl rfl rfl rfl rfl rfl (.inl rfl)
  | _ => cases h

/-! A request goes on, event by event. -/

theorem fail_moves (hidle : p ≠ .idle) (h : serve r .fail s p = some (s', p')) :
    Moves s .fail p s' p' := by
  cases p with
  | idle => exact absurd rfl hidle
  | answering => cases h
  | _ => cases h; exact .rests rfl rfl rfl rfl fun _ _ _ => Event.noConfusion

theorem proceed_moves {now : Time} (h : serve r (.proceed now) s p = some (s', p')) :
    Moves s (.proceed now) p s' p' := by
  cases p with
  | loaded v columns =>
      cases h
      refine .rests rfl rfl rfl ?_ fun _ _ _ => Event.noConfusion
      split
      · rfl
      · unfold startSync
        split
        · rfl
        · split
          · rfl
          · split <;> rfl
  | _ => cases h

theorem tokens_moves {answer : Option Tokens} (h : serve r (.tokens answer) s p = some (s', p')) :
    Moves s (.tokens answer) p s' p' := by
  cases p with
  | exchanging | refreshing =>
      cases answer with
      | none => cases h; exact .rests rfl rfl rfl rfl fun _ _ _ => Event.noConfusion
      | some tokens => cases h; exact .rests rfl rfl rfl rfl fun _ _ _ => Event.noConfusion
  | _ => cases h

theorem identity_moves {answer : Option String}
    (h : serve r (.identity answer) s p = some (s', p')) : Moves s (.identity answer) p s' p' := by
  cases p with
  | identifying =>
      cases answer with
      | none => cases h; exact .rests rfl rfl rfl rfl fun _ _ _ => Event.noConfusion
      | some patreonId => cases h; exact .rests rfl rfl rfl rfl fun _ _ _ => Event.noConfusion
  | _ => cases h

theorem campaign_moves (h : serve r .campaign s p = some (s', p')) : Moves s .campaign p s' p' := by
  cases p with
  | ranking =>
      cases h
      refine .rests rfl rfl rfl ?_ fun _ _ _ => Event.noConfusion
      split <;> rfl
  | _ => cases h

theorem members_moves {answer : Option MembersPage}
    (h : serve r (.members answer) s p = some (s', p')) : Moves s (.members answer) p s' p' := by
  cases p with
  | listing =>
      cases answer with
      | none => cases h; exact .rests rfl rfl rfl rfl fun _ _ _ => Event.noConfusion
      | some page => cases h; exact .rests rfl rfl rfl rfl fun _ _ _ => Event.noConfusion
  | _ => cases h

/-- A commit to the user's row leaves the states of browsers. -/
theorem update_moves {now : Time} {v : Visit} {f : Columns → Columns}
    (hp' : p'.holder = some (v.browser, v.cookie)) (hp : p.holder = some (v.browser, v.cookie)) :
    Moves s (.commit now) p (s.update v.user f) p' := by
  obtain ⟨hlog, hjars⟩ := @update_frame s v.user f
  exact .rests (by rw [hlog]) (by rw [hlog]) hjars (hp'.trans hp.symm) fun _ _ _ =>
    Event.noConfusion

theorem commit_moves {now : Time} (h : serve r (.commit now) s p = some (s', p')) :
    Moves s (.commit now) p s' p' := by
  cases p with
  | renewing v columns tokens =>
      unfold serve at h
      dsimp only at h
      split_ifs at h
      · cases h; exact .rests rfl rfl rfl rfl fun _ _ _ => Event.noConfusion
      · cases h; exact update_moves rfl rfl
  | storing | unlinking => cases h; exact update_moves rfl rfl
  | _ => cases h

theorem respond_moves (h : serve r .respond s p = some (s', p')) : Moves s .respond p s' p' := by
  cases p with
  | answering browser cookie => cases h; exact .answers browser cookie rfl rfl rfl rfl rfl
  | _ => cases h

/-- A request goes on, or is answered. -/
theorem go_moves (hidle : p ≠ .idle) (h : serve r e s p = some (s', p')) : Moves s e p s' p' := by
  cases e with
  | fail => exact fail_moves hidle h
  | proceed now => exact proceed_moves h
  | tokens answer => exact tokens_moves h
  | identity answer => exact identity_moves h
  | campaign => exact campaign_moves h
  | members answer => exact members_moves h
  | commit now => exact commit_moves h
  | respond => exact respond_moves h
  | _ =>
      cases p with
      | idle => exact absurd rfl hidle
      | _ => cases h

/-- **What a step does to the states.** -/
theorem serve_moves (h : serve r e s p = some (s', p')) : Moves s e p s' p' := by
  by_cases hidle : p = .idle
  · subst hidle
    exact begin_moves h
  · exact go_moves hidle h

end Moves

/-! ## 6. Runs -/

/-- Nothing has happened since these users were created. -/
def Log.start (born : List Nat) : Log := ⟨born, [], [], [], [], [], [], []⟩

/-- No request is under way, and no browser has been given a cookie. -/
def start (clientId campaignId : String) (users : Dict Nat Columns) : World Site Nat Phase :=
  ⟨⟨users, clientId, campaignId, Dict.empty, .start (users.entries.map Prod.fst)⟩, fun _ => .idle⟩

/-- `secrets.token_urlsafe` draws no state that has been issued. -/
def Fresh (w : World Site Nat Phase) (l : Nat × Event) : Prop :=
  ∀ browser cookie drawn, l.2 = .link browser cookie drawn →
    ∀ x ∈ w.shared.log.issued, x.2 ≠ drawn

/-- **A new user is given an id that no user has had**: `max(id) + 1` is one, unless the user with
    the highest id has been deleted. -/
def NewId (w : World Site Nat Phase) (l : Nat × Event) : Prop :=
  ∀ user, l.2.newUser = some user → user ∉ w.shared.log.born

/-- **The browser waits**: it sends a request once the last is answered, with its newest cookie. -/
def Orderly (browser : Nat) (w : World Site Nat Phase) (l : Nat × Event) : Prop :=
  ∀ cookie, l.2.origin = some (browser, cookie) →
    (∀ r cookie', (w.phase r).holder ≠ some (browser, cookie')) ∧
      cookie = (w.shared.jar browser).headD .blank

/-- No state has been issued twice. -/
def Distinct (s : Site) : Prop := (s.log.issued.map Prod.snd).Nodup

section Runs

variable {clientId campaignId : String} {users : Dict Nat Columns} {ls : List (Nat × Event)}
  {w w' : World Site Nat Phase} {l : Nat × Event} {browser : Nat}

theorem distinct_step (h : Distinct w.shared) (hfresh : Fresh w l) (ht : Turn serve w l w') :
    Distinct w'.shared := by
  obtain ⟨s, p, hserve, rfl⟩ := turn_some.mp ht
  show Distinct s
  cases serve_moves hserve with
  | issues browser cookie cookie' drawn _ he hissued =>
      unfold Distinct
      rw [hissued, List.map_cons, List.nodup_cons]
      refine ⟨fun hmem => ?_, h⟩
      obtain ⟨x, hx, hdrawn⟩ := List.mem_map.mp hmem
      exact hfresh browser cookie drawn he x hx hdrawn
  | rests hissued => unfold Distinct; rw [hissued]; exact h
  | begins _ _ _ _ _ hissued => unfold Distinct; rw [hissued]; exact h
  | accepts _ _ _ _ _ hissued => unfold Distinct; rw [hissued]; exact h
  | answers _ _ _ hissued => unfold Distinct; rw [hissued]; exact h

theorem owner_eq {s : Site} (h : Distinct s) {b b' : Nat} {st : String}
    (hb : (b, st) ∈ s.log.issued) (hb' : (b', st) ∈ s.log.issued) : b = b' :=
  congrArg Prod.fst (List.inj_on_of_nodup_map h hb hb' rfl)

theorem annotated_start (hu : ∀ u c, users.get? u = some c → c = Columns.unlinked) :
    Annotated SiteOk (fun _ p s => PhaseOk s.log p) (start clientId campaignId users) where
  shared := {
    born := fun _ _ hc => List.mem_map_of_mem (Dict.get?_eq_some.mp hc)
    signedIn := fun _ hx => absurd hx List.not_mem_nil
    users := fun u c hc => hu u c hc ▸ columnsOk_unlinked _ u
    jars := fun _ _ hc => absurd hc List.not_mem_nil
    accepted := fun _ hgrant => absurd hgrant List.not_mem_nil
    exchanged := fun _ hx => absurd hx List.not_mem_nil
    distinct := fun u _ c _ hc _ hsome => by
      rw [hu u c hc] at hsome
      cases hsome }
  thread _ := trivial

/-- Every column has its origin, and no state is issued twice. -/
theorem invariant_run {ok : World Site Nat Phase → Nat × Event → Prop}
    (hok : ∀ w l, ok w l → Fresh w l)
    (hu : ∀ u c, users.get? u = some c → c = Columns.unlinked)
    (h : Run (guarded (Turn serve) ok) (start clientId campaignId users) ls w) :
    SiteOk w.shared ∧ Distinct w.shared := by
  have hdistinct : Distinct (start clientId campaignId users).shared := List.nodup_nil
  refine ⟨((annotated_start hu).run h fun w l s p hann _ hserve => ?_).shared,
    h.invariant (I := fun w => Distinct w.shared) hdistinct fun w l w' hd hs =>
      distinct_step hd (hok w l hs.1) hs.2⟩
  obtain ⟨hsite, hphase, hle, -⟩ := serve_ok hann.shared (hann.thread l.1) hserve
  exact ⟨hsite, hphase, fun u _ hphase' => hphase'.mono hle⟩

/-- No id is given to two users. -/
theorem born_run (hu : ∀ u c, users.get? u = some c → c = Columns.unlinked)
    (h : Run (guarded (Turn serve) fun w l => Fresh w l ∧ NewId w l)
      (start clientId campaignId users) ls w) : w.shared.log.born.Nodup := by
  have hboth : Annotated SiteOk (fun _ p s => PhaseOk s.log p) w ∧ w.shared.log.born.Nodup := by
    induction h with
    | start => exact ⟨annotated_start hu, users.nodup⟩
    | step l _ hs ih =>
        obtain ⟨hann, hnodup⟩ := ih
        obtain ⟨⟨-, hnew⟩, hturn⟩ := hs
        obtain ⟨s, p, hserve, rfl⟩ := turn_some.mp hturn
        obtain ⟨hsite, hphase, hle, hbirths⟩ := serve_ok hann.shared (hann.thread l.1) hserve
        refine ⟨.move hsite hphase fun u _ => (hann.thread u).mono hle, ?_⟩
        rcases hbirths with hsame | ⟨user, huser, hborn⟩
        · exact hsame ▸ hnodup
        · exact hborn ▸ List.nodup_cons.mpr ⟨hnew user huser, hnodup⟩
  exact hboth.2

/-- **WHERE A PATREON ACCOUNT COMES FROM**: whatever the requests of all browsers and users are and
    however they interleave, where no new user is given the id of a deleted one: no two users have
    had one id, what a user's row holds goes back to codes that callbacks of this user have
    exchanged, each of them gave a state that had been issued to its own browser, where this user
    had signed in, and to no other; and no two users have one account. -/
theorem link_run (hu : ∀ u c, users.get? u = some c → c = Columns.unlinked)
    (h : Run (guarded (Turn serve) fun w l => Fresh w l ∧ NewId w l)
      (start clientId campaignId users) ls w) :
    w.shared.log.born.Nodup ∧ (∀ x ∈ w.shared.log.signedIn, x.2 ∈ w.shared.log.born) ∧
    (∀ u c, w.shared.users.get? u = some c → u ∈ w.shared.log.born ∧
      (∀ a, c.accessToken = some a → w.shared.log.Access u a) ∧
      (∀ r, c.refreshToken = some r → w.shared.log.Refresh u r) ∧
      (∀ tier, c.patreonTier = some tier → w.shared.log.Tier u tier) ∧
      ∀ i, c.patreonId = some i → w.shared.log.Account u i ∧
        ∀ u' c', w.shared.users.get? u' = some c' → c'.patreonId = some i → u' = u) ∧
    (∀ x ∈ w.shared.log.exchanged, x.1 ∈ w.shared.log.accepted) ∧
    ∀ grant ∈ w.shared.log.accepted, (grant.browser, grant.user) ∈ w.shared.log.signedIn ∧
      ∀ browser, (browser, grant.oauthState) ∈ w.shared.log.issued ↔ browser = grant.browser := by
  obtain ⟨hsite, hdistinct⟩ := invariant_run (fun _ _ hok => hok.1) hu h
  refine ⟨born_run hu h, hsite.signedIn, fun u c hc => ⟨hsite.born u c hc, ?_⟩, hsite.exchanged,
    fun grant hgrant => ?_⟩
  · obtain ⟨haccess, hrefresh, htier, haccount⟩ := hsite.users u c hc
    refine ⟨haccess, hrefresh, htier, fun i hi => ⟨haccount i hi, fun u' c' hc' hi' => ?_⟩⟩
    exact hsite.distinct u' u c' c hc' hc (by rw [hi']; rfl) (hi'.trans hi.symm)
  · obtain ⟨hissued, hsigned⟩ := hsite.accepted grant hgrant
    refine ⟨hsigned, fun browser => ⟨fun hb => owner_eq hdistinct hb hissued, ?_⟩⟩
    rintro rfl
    exact hissued

/-! ## 7. A state is used once -/

/-- The states that the callbacks of a browser have used. -/
def Log.used (g : Log) (browser : Nat) : List String :=
  (g.accepted.filter fun grant => grant.browser == browser).map Grant.oauthState

theorem mem_used {g : Log} {st : String} :
    st ∈ g.used browser ↔
      ∃ grant ∈ g.accepted, grant.browser = browser ∧ grant.oauthState = st := by
  simp [Log.used, and_assoc]

/-- **A waiting browser**: at most one request, no cookie of which it can still be answered or that
    it will send carries a state that has been used. -/
structure Once (browser : Nat) (w : World Site Nat Phase) : Prop where
  one : ∀ r r' cookie cookie', (w.phase r).holder = some (browser, cookie) →
    (w.phase r').holder = some (browser, cookie') → r = r'
  carried : ∀ r cookie, (w.phase r).holder = some (browser, cookie) →
    ∀ st, cookie.oauthState = some st → st ∉ w.shared.log.used browser
  newest : (∀ r cookie, (w.phase r).holder ≠ some (browser, cookie)) →
    ∀ st, ((w.shared.jar browser).headD .blank).oauthState = some st →
      st ∉ w.shared.log.used browser
  nodup : (w.shared.log.used browser).Nodup

/-- A step that is nothing to the browser. -/
theorem Once.congr (h : Once browser w)
    (hholder : ∀ r cookie, (w'.phase r).holder = some (browser, cookie) ↔
      (w.phase r).holder = some (browser, cookie))
    (hused : w'.shared.log.used browser = w.shared.log.used browser)
    (hjar : w'.shared.jar browser = w.shared.jar browser) : Once browser w' where
  one r r' cookie cookie' hr hr' :=
    h.one r r' cookie cookie' ((hholder r cookie).mp hr) ((hholder r' cookie').mp hr')
  carried r cookie hr st hst := hused ▸ h.carried r cookie ((hholder r cookie).mp hr) st hst
  newest hnone st hst := by
    rw [hused]
    refine h.newest (fun r cookie hr => hnone r cookie ((hholder r cookie).mpr hr)) st ?_
    rwa [hjar] at hst
  nodup := hused ▸ h.nodup

/-- The browser's only request, just begun. -/
theorem Once.alone {t : Nat} {s : Site} {p : Phase} {cookie : Cookie}
    (hnone : ∀ r cookie', (w.phase r).holder ≠ some (browser, cookie'))
    (hholder : p.holder = some (browser, cookie))
    (hstate : ∀ st, cookie.oauthState = some st → st ∉ s.log.used browser)
    (hnodup : (s.log.used browser).Nodup) : Once browser (w.move t s p) := by
  have hself : ∀ r cookie', ((w.move t s p).phase r).holder = some (browser, cookie') →
      r = t ∧ cookie' = cookie := by
    intro r cookie' hr
    by_cases hrt : r = t
    · rw [hrt, World.move_phase_self, hholder] at hr
      exact ⟨hrt, (congrArg Prod.snd (Option.some.inj hr)).symm⟩
    · rw [World.move_phase_other hrt] at hr
      exact absurd hr (hnone r cookie')
  refine ⟨fun r r' _ _ hr hr' => (hself r _ hr).1.trans (hself r' _ hr').1.symm,
    fun r cookie' hr st hst => ?_, fun hno => ?_, hnodup⟩
  · rw [(hself r cookie' hr).2] at hst
    exact hstate st hst
  · exact absurd (by rw [World.move_phase_self, hholder]) (hno t cookie)

/-- Another thread's request, of another browser or of none. -/
theorem holder_move {t : Nat} {s : Site} {p : Phase} (hp : ∀ cookie, (w.phase t).holder ≠
      some (browser, cookie)) (hp' : ∀ cookie, p.holder ≠ some (browser, cookie)) (r : Nat)
    (cookie : Cookie) : ((w.move t s p).phase r).holder = some (browser, cookie) ↔
      (w.phase r).holder = some (browser, cookie) := by
  by_cases hrt : r = t
  · rw [hrt, World.move_phase_self]
    exact ⟨fun h => absurd h (hp' cookie), fun h => absurd h (hp cookie)⟩
  · rw [World.move_phase_other hrt]

/-- **One step.** -/
theorem once_step (h : Once browser w) (hsite : SiteOk w.shared) (hfresh : Fresh w l)
    (horderly : Orderly browser w l) (ht : Turn serve w l w') : Once browser w' := by
  obtain ⟨s, p, hserve, rfl⟩ := turn_some.mp ht
  have hother : ∀ {b : Nat} {o : Option (Nat × Cookie)} {cookie : Cookie}, b ≠ browser →
      o = some (b, cookie) → ∀ cookie', o ≠ some (browser, cookie') := by
    intro b o cookie hb ho cookie' ho'
    rw [ho] at ho'
    cases ho'
    exact hb rfl
  have hnobody : ∀ {o : Option (Nat × Cookie)}, o = none → ∀ cookie', o ≠ some (browser, cookie') :=
    fun ho cookie' ho' => by
      rw [ho] at ho'
      cases ho'
  have hused : s.log.accepted = w.shared.log.accepted →
      s.log.used browser = w.shared.log.used browser := fun ha => by rw [Log.used, Log.used, ha]
  have hjar : s.jars = w.shared.jars → s.jar browser = w.shared.jar browser := fun hj => by
    rw [Site.jar, Site.jar, hj]
  cases serve_moves hserve with
  | rests hissued haccepted hjars hholder hlink =>
      refine h.congr (fun r cookie => ?_) (hused haccepted) (hjar hjars)
      by_cases hr : r = l.1
      · rw [hr, World.move_phase_self, hholder]
      · rw [World.move_phase_other hr]
  | begins b cookie cookie' hp horigin hissued haccepted hjars hholder hstate =>
      by_cases hb : b = browser
      · subst hb
        obtain ⟨hnone, hnewest⟩ := horderly cookie horigin
        refine .alone hnone hholder (fun st hst => ?_) (hused haccepted ▸ h.nodup)
        rw [hused haccepted]
        rcases hstate with hsame | hcleared
        · exact h.newest hnone st (by rw [← hnewest, ← hsame, hst])
        · rw [hcleared] at hst
          cases hst
      · exact h.congr (holder_move (hnobody hp) (hother hb hholder)) (hused haccepted) (hjar hjars)
  | issues b cookie cookie' drawn hp he hissued haccepted hjars hholder hstate =>
      by_cases hb : b = browser
      · subst hb
        obtain ⟨hnone, -⟩ := horderly cookie (by rw [he]; rfl)
        refine .alone hnone hholder (fun st hst hmem => ?_) (hused haccepted ▸ h.nodup)
        rw [hused haccepted] at hmem
        obtain ⟨grant, hgrant, hbrowser, hgiven⟩ := mem_used.mp hmem
        have hdrawn : grant.oauthState = drawn := by
          rw [hstate] at hst
          exact hgiven.trans (Option.some.inj hst).symm
        exact hfresh b cookie drawn he _ (hsite.accepted grant hgrant).1 hdrawn
      · exact h.congr (holder_move (hnobody hp) (hother hb hholder)) (hused haccepted) (hjar hjars)
  | accepts cookie cookie' grant hp horigin hissued haccepted hjars hholder hgiven hstate =>
      by_cases hb : grant.browser = browser
      · subst hb
        obtain ⟨hnone, hnewest⟩ := horderly cookie horigin
        have hmore : s.log.used grant.browser =
            grant.oauthState :: w.shared.log.used grant.browser := by
          rw [Log.used, haccepted, List.filter_cons_of_pos (by simp)]
          rfl
        refine .alone hnone hholder (fun st hst => ?_) ?_
        · rw [hstate] at hst
          cases hst
        · rw [hmore, List.nodup_cons]
          exact ⟨h.newest hnone grant.oauthState (by rw [← hnewest, hgiven]), h.nodup⟩
      · refine h.congr (holder_move (hnobody hp) (hother hb hholder)) ?_ (hjar hjars)
        show s.log.used browser = _
        rw [Log.used, haccepted, List.filter_cons_of_neg (by simpa using hb)]
        rfl
  | answers b cookie hp hissued haccepted hjars hholder =>
      by_cases hb : b = browser
      · subst hb
        have hgone : ∀ r cookie', ((w.move l.1 s p).phase r).holder ≠ some (b, cookie') := by
          intro r cookie' hr
          by_cases hrt : r = l.1
          · rw [hrt, World.move_phase_self, hholder] at hr
            cases hr
          · rw [World.move_phase_other hrt] at hr
            exact hrt (h.one r l.1 cookie' cookie hr hp)
        refine ⟨fun r _ cookie' _ hr => absurd hr (hgone r cookie'),
          fun r cookie' hr => absurd hr (hgone r cookie'), fun _ st hst => ?_,
          hused haccepted ▸ h.nodup⟩
        have hhead : (s.jar b).headD .blank = cookie := by
          rw [Site.jar, hjars, Dict.get?_set, if_pos rfl]
          rfl
        show st ∉ s.log.used b
        rw [hused haccepted]
        exact h.carried l.1 cookie hp st (hhead ▸ hst)
      · refine h.congr (holder_move (hother hb hp) (hnobody hholder)) (hused haccepted) ?_
        show s.jar browser = _
        rw [Site.jar, hjars, Dict.get?_set, if_neg (Ne.symm hb)]
        rfl

theorem once_start : Once browser (start clientId campaignId users) where
  one r r' cookie cookie' hr := by cases hr
  carried r cookie hr := by cases hr
  newest _ st hst := by cases hst
  nodup := List.nodup_nil

/-- **NO STATE IS USED TWICE** by a browser that waits for its answers, whatever the others do. -/
theorem accepted_once (hu : ∀ u c, users.get? u = some c → c = Columns.unlinked)
    (h : Run (guarded (Turn serve) fun w l => Fresh w l ∧ Orderly browser w l)
      (start clientId campaignId users) ls w) :
    (w.shared.log.used browser).Nodup := by
  have hboth : SiteOk w.shared ∧ Once browser w := by
    induction h with
    | start =>
        exact ⟨(annotated_start hu).shared, once_start⟩
    | step l hr hs ih =>
        refine ⟨(invariant_run (fun _ _ hok => hok.1) hu (.step l hr hs)).1, ?_⟩
        exact once_step ih.2 ih.1 hs.1.1 hs.1.2 hs.2
  exact hboth.2.nodup

end Runs

/-! ## 8. A browser that links an account -/

/-- Two users. -/
def smallUsers : Dict Nat Columns := ⟨[(1, .unlinked), (2, .unlinked)], by decide⟩

theorem smallUsers_unlinked (u : Nat) (c : Columns) (h : smallUsers.get? u = some c) :
    c = Columns.unlinked := by
  have hmem := Dict.get?_eq_some.mp h
  simp only [smallUsers, List.mem_cons, List.not_mem_nil, or_false, Prod.mk.injEq] at hmem
  rcases hmem with ⟨-, rfl⟩ | ⟨-, rfl⟩ <;> rfl

/-- One active membership. -/
def smallPage : MembersPage :=
  ⟨[⟨"former_patron", "t1"⟩, ⟨"active_patron", "t2"⟩],
    [⟨"t1", "tier", "Silver"⟩, ⟨"t2", "tier", " Gold "⟩], fun _ => ""⟩

/-- Browser 7 signs in as user 1, links an account, and calls back once more. -/
def smallEvents : List (Nat × Event) :=
  [.login 7 .blank 1, .proceed 0, .commit 0, .respond,
    .link 7 ⟨some 1, none⟩ "drawn", .respond,
    .callback 7 ⟨some 1, some "drawn"⟩ (some "code") (some "drawn") none,
    .tokens (some ⟨"access", "refresh", 3600⟩), .identity (some "77"), .campaign,
    .members (some smallPage), .commit 5, .respond,
    .callback 7 ⟨some 1, none⟩ (some "code") (some "drawn") none, .respond].map fun e => (0, e)

/-- `Fresh` and `Orderly`, where only request 0 is under way. -/
def smallOk (w : World Site Nat Phase) (l : Nat × Event) : Bool :=
  (match l.2 with
    | .link _ _ drawn => w.shared.log.issued.all fun x => x.2 != drawn
    | _ => true) &&
  (match l.2.origin with
    | some (browser, cookie) =>
      (w.phase 0).holder.isNone && cookie == (w.shared.jar browser).headD .blank
    | none => true)

/-- What the run leaves. -/
def smallResult (w : World Site Nat Phase) : Bool :=
  decide (w.shared.users.get? 1 =
    some ⟨some "77", some "Gold", some "access", some "refresh", some (5 + seconds 3600)⟩) &&
    decide (w.shared.log.used 7 = ["drawn"])

theorem small_run : ∃ w, Run (guarded (Turn serve) fun w l => Fresh w l ∧ Orderly 7 w l)
    (start "client" "campaign" smallUsers) smallEvents w ∧ smallResult w = true := by
  have hrun : (execAll (execWhen (fun w l => decide (l.1 ∈ [0]) && smallOk w l) (turn serve))
      (start "client" "campaign" smallUsers) smallEvents).any smallResult = true := by
    decide +kernel
  refine exists_run_of_turns [0] (fun w l hothers hok => ?_) hrun
  obtain ⟨hfresh, horderly⟩ := Bool.and_eq_true_iff.mp hok
  refine ⟨fun browser cookie drawn he x hx => ?_, fun cookie horigin => ?_⟩
  · rw [he] at hfresh
    simpa using List.all_eq_true.mp hfresh x hx
  · rw [horigin] at horderly
    obtain ⟨hnone, hcookie⟩ := Bool.and_eq_true_iff.mp horderly
    refine ⟨fun r cookie' hr => ?_, eq_of_beq hcookie⟩
    by_cases hr0 : r = 0
    · rw [hr0] at hr
      rw [hr] at hnone
      cases hnone
    · rw [hothers r (by simpa using hr0)] at hr
      cases hr

/-- The second callback is refused. -/
theorem accepted_once_small : ∃ ls w,
    Run (guarded (Turn serve) fun w l => Fresh w l ∧ Orderly 7 w l)
      (start "client" "campaign" smallUsers) ls w ∧ w.shared.log.used 7 = ["drawn"] ∧
        (w.shared.log.used 7).Nodup := by
  obtain ⟨w, hr, hw⟩ := small_run
  exact ⟨_, w, hr, of_decide_eq_true (Bool.and_eq_true_iff.mp hw).2,
    accepted_once smallUsers_unlinked hr⟩

/-! ## 9. A new user that links an account -/

/-- Browser 7 registers as user 3 and links an account, and user 2 is deleted. -/
def linkEvents : List (Nat × Event) :=
  [.register 7 .blank 3, .respond, .link 7 ⟨some 3, none⟩ "drawn", .respond, .delete 2,
    .callback 7 ⟨some 3, some "drawn"⟩ (some "code") (some "drawn") none,
    .tokens (some ⟨"access", "refresh", 3600⟩), .identity (some "77"), .campaign,
    .members (some smallPage), .commit 5].map fun e => (0, e)

/-- `Fresh` and `NewId`, decided. -/
def linkOk (w : World Site Nat Phase) (l : Nat × Event) : Bool :=
  (match l.2 with
    | .link _ _ drawn => w.shared.log.issued.all fun x => x.2 != drawn
    | _ => true) &&
  l.2.newUser.all fun user => !w.shared.log.born.contains user

theorem linkOk_sound (w : World Site Nat Phase) (l : Nat × Event) (h : linkOk w l = true) :
    Fresh w l ∧ NewId w l := by
  obtain ⟨hfresh, hnew⟩ := Bool.and_eq_true_iff.mp h
  refine ⟨fun browser cookie drawn he x hx => ?_, fun user huser => ?_⟩
  · rw [he] at hfresh
    simpa using List.all_eq_true.mp hfresh x hx
  · rw [huser] at hnew
    simpa using hnew

/-- The tier of user 3 comes from a membership that was listed for a token of user 3. -/
theorem link_run_small : ∃ ls w, Run (guarded (Turn serve) fun w l => Fresh w l ∧ NewId w l)
    (start "client" "campaign" smallUsers) ls w ∧ w.shared.log.born = [3, 1, 2] ∧
    w.shared.log.Access 3 "access" ∧ w.shared.log.Tier 3 "Gold" ∧
    w.shared.log.Account 3 "77" := by
  have hrun : (execAll (execWhen linkOk (turn serve)) (start "client" "campaign" smallUsers)
      linkEvents).any (fun w => decide (w.shared.log.born = [3, 1, 2]) &&
        decide (w.shared.users.get? 3 =
          some ⟨some "77", some "Gold", some "access", some "refresh",
            some (5 + seconds 3600)⟩)) = true := by decide +kernel
  obtain ⟨w, hr, hw⟩ := exists_guarded_run linkOk_sound hrun
  obtain ⟨hborn, hrow⟩ := Bool.and_eq_true_iff.mp hw
  obtain ⟨-, haccess, -, htier, haccount⟩ :=
    (link_run smallUsers_unlinked hr).2.2.1 3 _ (of_decide_eq_true hrow)
  exact ⟨_, w, hr, of_decide_eq_true hborn, haccess _ rfl, htier _ rfl, (haccount _ rfl).1⟩

-- Where an id is given again, a callback on its way writes the row of its new holder.
example : ((execAll (turn serve) (start "client" "campaign" smallUsers)
    (linkEvents.take 10 ++ [(1, .delete 3), (1, .register 8 .blank 3), (0, .commit 5)])).any
      fun w => decide (w.shared.log.born = [3, 3, 1, 2]) &&
        decide ((w.shared.users.get? 3).bind Columns.accessToken = some "access")) = true := by
  decide +kernel

end RetroBridge.Patreon
