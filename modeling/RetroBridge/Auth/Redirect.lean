/-
  File:      RetroBridge/Auth/Redirect.lean
  Subject:   REDIRECTS AFTER A LOGIN (retrobridge/auth/routes.py: `_is_safe_redirect_url`, which
             `login` asks before it redirects to the query's `next`).

  The check looks at the raw target where that begins with a single slash, else at what `urljoin`
  makes of it. A browser removes tabs and line ends first and takes any number of slashes for two.

  * `isSafeRedirectUrl` -- the check;
  * `Site` -- a host URL that both readings accept, with the host the browser finds in it;
  * `Safe` -- an accepted target does not leave the host;
  * `Smuggles` -- slashes the check takes for a path's, before an authority of another host;
  * `safe_iff` -- **a target is safe exactly if it smuggles none**;
  * `tab_between_slashes` -- an accepted target that leads away.
-/
import RetroBridge.Library.Url

namespace RetroBridge.Auth

open Urls

/-! ## 1. The check -/

/-- A target that begins with one slash. -/
def OneSlash (target : Text) : Prop := target.head? = some '/' ∧ ¬['/', '/'] <+: target

instance (target : Text) : Decidable (OneSlash target) := inferInstanceAs (Decidable (_ ∧ _))

/-- **`_is_safe_redirect_url`**; none where `urlparse` or `urljoin` raises. -/
def isSafeRedirectUrl (check : Text → Bool) (hostUrl : Text) : Option Text → Option Bool
  | none => some false
  | some target =>
    if target = [] then some false
    else if '\\' ∈ target then some false
    else if OneSlash target then some true
    else do
      let ref ← urlsplit check hostUrl []
      let joined ← urljoin check hostUrl target
      let test ← urlsplit check joined []
      return decide ((test.scheme = "http".toList ∨ test.scheme = "https".toList) ∧
        test.netloc = ref.netloc)

/-! ## 2. The site and the browser -/

/-- What `urlsplit` asks of a network location: of none it asks nothing. -/
structure NetlocCheck where
  ok : Text → Bool
  nil : ok [] = true

/-- **A host URL**, in both readings: its host is one to Python and to the browser. -/
structure Site {H : Type*} (check : NetlocCheck) (parseHost : Text → Option H) where
  scheme : Text
  host : Text
  reached : H
  http : IsHttp scheme
  plain : ∀ c ∈ host, endsAuthority c = false ∧ isC0OrSpace c = false
  accepted : check.ok host = true
  parsed : authorityHost parseHost host = some reached

section

variable {H : Type*} {check : NetlocCheck} {parseHost : Text → Option H}

/-- `request.host_url`. -/
def Site.hostUrl (site : Site check parseHost) : Text :=
  site.scheme ++ ':' :: '/' :: '/' :: site.host ++ ['/']

/-- Where the browser goes with a target. -/
def Site.goes (site : Site check parseHost) (target : Text) : Reached H :=
  reach parseHost site.scheme site.host target

/-- **An accepted target reaches the host of the site**, or no URL at all. -/
def Safe (site : Site check parseHost) (target : Text) : Prop :=
  isSafeRedirectUrl check.ok site.hostUrl (some target) = some true →
    site.goes target = .failure ∨ site.goes target = .host site.reached

/-- The target as the browser reads it: its scheme, or the site's, and what is behind it. -/
def Site.reading (site : Site check parseHost) (target : Text) : Text × Text :=
  front site.scheme (browserClean target)

/-- **Slashes the check takes for a path's**: one in the raw target where the browser reads two, or
    more than two; behind them stands another host. -/
def Smuggles (site : Site check parseHost) (target : Text) : Prop :=
  '\\' ∉ target ∧ (site.reading target).1 = site.scheme ∧
    (OneSlash target ∨ ['/', '/', '/'] <+: (site.reading target).2) ∧
    hasAuthority (site.reading target).2 = true ∧
    ∃ h, authorityHost parseHost (authority (site.reading target).2) = some h ∧ h ≠ site.reached

/-! ## 3. What the check judges -/

variable {site : Site check parseHost} {target : Text}

theorem Site.nonempty (site : Site check parseHost) : site.host ≠ [] := by
  intro hempty
  have hparsed := site.parsed
  rw [hempty] at hparsed
  cases hparsed

theorem Site.isNetloc (site : Site check parseHost) : IsNetloc site.host := by
  intro c hc
  obtain ⟨hends, hc0⟩ := site.plain c hc
  refine ⟨(Bool.or_eq_false_iff.mp hends).1, ?_⟩
  by_contra htab
  have hle : isC0OrSpace c = true := by
    unfold isTabOrNewline at htab
    simp only [Bool.not_eq_false, Bool.or_eq_true, beq_iff_eq] at htab
    rcases htab with (rfl | rfl) | rfl <;> rfl
  rw [hc0] at hle
  cases hle

theorem endsNetloc_slash : EndsNetloc ['/'] := by
  intro c hc
  rw [← Option.some.inj hc]
  rfl

/-- Where Python's cleaning and the browser's differ: an end that is stripped. -/
theorem front_clean (site : Site check parseHost) (target : Text) :
    ∃ tail, (∀ c ∈ tail, isC0OrSpace c = true) ∧
      front site.scheme (clean target) =
        ((site.reading target).1, (site.reading target).2 ++ tail) := by
  obtain ⟨tail, hclean, htail⟩ := clean_eq target
  refine ⟨tail, htail, ?_⟩
  rw [hclean, front_append htail]
  rfl

/-- The verdict on a joined URL, by its scheme and its network location. -/
theorem verdict_eq (check : Text → Bool) (netloc : Text) (joined : Option Text) :
    (joined.bind fun url => (urlsplit check url []).bind fun test =>
        some (decide ((test.scheme = "http".toList ∨ test.scheme = "https".toList) ∧
          test.netloc = netloc))) =
      Option.map (fun p : Text × Text =>
          decide ((p.1 = "http".toList ∨ p.1 = "https".toList) ∧ p.2 = netloc))
        ((joined.bind fun url => urlsplit check url []).map fun v => (v.scheme, v.netloc)) := by
  cases joined with
  | none => rfl
  | some url =>
      rw [Option.bind_some, Option.bind_some]
      cases urlsplit check url [] <;> rfl

/-- **The check behind its first rule**, by the scheme and the network location of the target. -/
theorem isSafeRedirectUrl_eq (hnonempty : target ≠ []) (hslash : '\\' ∉ target)
    (hone : ¬OneSlash target) {scheme located : Text}
    (hfront : front site.scheme (clean target) = (scheme, located)) :
    isSafeRedirectUrl check.ok site.hostUrl (some target) =
      if check.ok (splitNetloc located).1 then
        some (decide ((scheme = "http".toList ∨ scheme = "https".toList) ∧
          (if scheme = site.scheme ∧ (splitNetloc located).1 = [] then site.host
            else (splitNetloc located).1) = site.host))
      else none := by
  obtain ⟨b, hb, hparts⟩ : ∃ b, urlsplit check.ok site.hostUrl [] = some b ∧
      (b.scheme, b.netloc) = (site.scheme, site.host) := by
    refine Option.map_eq_some_iff.mp ?_
    exact (urlsplit_text site.http site.isNetloc endsNetloc_slash []).trans (if_pos site.accepted)
  have hjoined := urljoin_split site.http site.isNetloc site.nonempty endsNetloc_slash site.accepted
    hnonempty
  have hsplit := urlsplit_eq check.ok target site.scheme
  rw [hfront] at hsplit
  rw [isSafeRedirectUrl, if_neg hnonempty, if_neg hslash, if_neg hone, hb]
  refine (verdict_eq check.ok b.netloc _).trans ?_
  rw [(Prod.mk.inj hparts).2]
  unfold Site.hostUrl
  rw [hjoined]
  cases hu : urlsplit check.ok target site.scheme with
  | none =>
      rw [hu] at hsplit
      split at hsplit
      · cases hsplit
      · rename_i hcheck
        exact (if_neg hcheck).symm
  | some u =>
      rw [hu] at hsplit
      split at hsplit
      · rename_i hcheck
        obtain ⟨rfl, hnetloc⟩ := Prod.mk.inj (Option.some.inj hsplit)
        rw [if_pos hcheck, ← hnetloc]
        rfl
      · cases hsplit

/-! ## 4. Which targets are safe -/

/-- **A target that smuggles is accepted and leads to the other host.** -/
theorem accepted_of_smuggles (h : Smuggles site target) :
    isSafeRedirectUrl check.ok site.hostUrl (some target) = some true ∧
      ∃ h, h ≠ site.reached ∧ site.goes target = .host h := by
  obtain ⟨hslash, hscheme, hslashes, hauthority, other, hparsed, hother⟩ := h
  refine ⟨?_, other, hother, ?_⟩
  · by_cases hone : OneSlash target
    · have hnonempty : target ≠ [] := by
        rintro rfl
        cases hone.1
      rw [isSafeRedirectUrl, if_neg hnonempty, if_neg hslash, if_pos hone]
    · obtain ⟨text, htext⟩ := hslashes.resolve_left hone
      have hnonempty : target ≠ [] := by
        rintro rfl
        cases htext
      obtain ⟨tail, -, hfront⟩ := front_clean site target
      rw [isSafeRedirectUrl_eq hnonempty hslash hone hfront]
      have hnetloc : (splitNetloc ((site.reading target).2 ++ tail)).1 = [] := by
        rw [← htext]
        rfl
      rw [hnetloc, if_pos check.nil, if_pos ⟨hscheme, rfl⟩, hscheme]
      exact congrArg some (decide_eq_true ⟨site.http, rfl⟩)
  · have hgoes : site.goes target = goRelative parseHost site.host (site.reading target).2 :=
      reach_relative hscheme
    rw [hgoes, goRelative, if_pos hauthority, goTo, hparsed]

theorem Site.goTo_host (site : Site check parseHost) :
    goTo parseHost site.host = .host site.reached := by
  rw [goTo, site.parsed]

/-- An authority behind slashes of a path is the site's, where nothing is smuggled. -/
theorem goTo_of_not_smuggles (h : ¬Smuggles site target) (hslash : '\\' ∉ target)
    (hscheme : (site.reading target).1 = site.scheme)
    (hslashes : OneSlash target ∨ ['/', '/', '/'] <+: (site.reading target).2)
    (hauthority : hasAuthority (site.reading target).2 = true) :
    goTo parseHost (authority (site.reading target).2) = .failure ∨
      goTo parseHost (authority (site.reading target).2) = .host site.reached := by
  unfold goTo
  cases hparsed : authorityHost parseHost (authority (site.reading target).2) with
  | none => exact Or.inl rfl
  | some other =>
      have hsame : other = site.reached := by
        by_contra hother
        exact h ⟨hslash, hscheme, hslashes, hauthority, other, hparsed, hother⟩
      exact Or.inr (congrArg Reached.host hsame)

/-- A relative target stays on the host, where nothing is smuggled behind its slashes. -/
theorem stays_of_relative (h : ¬Smuggles site target) (hslash : '\\' ∉ target)
    (hscheme : (site.reading target).1 = site.scheme)
    (hslashes : hasAuthority (site.reading target).2 = true →
      authority (site.reading target).2 = [] ∨
        OneSlash target ∨ ['/', '/', '/'] <+: (site.reading target).2) :
    site.goes target = .failure ∨ site.goes target = .host site.reached := by
  have hgoes : site.goes target = goRelative parseHost site.host (site.reading target).2 :=
    reach_relative hscheme
  rw [hgoes, goRelative]
  split
  · rename_i hauthority
    rcases hslashes hauthority with hempty | hslashes
    · rw [hempty]
      exact Or.inl rfl
    · exact goTo_of_not_smuggles h hslash hscheme hslashes hauthority
  · exact Or.inr site.goTo_host

/-- **A target with the site's network location reaches the site**, relative or not. -/
theorem reaches_of_netloc {tail : Text} (htail : ∀ c ∈ tail, isC0OrSpace c = true)
    (hhttp : IsHttp (site.reading target).1)
    (hnetloc : (splitNetloc ((site.reading target).2 ++ tail)).1 = site.host) :
    site.goes target = .host site.reached := by
  obtain ⟨hauthority, hsame⟩ := authority_of_netloc site.plain site.nonempty htail hnetloc
  by_cases hscheme : (site.reading target).1 = site.scheme
  · have hgoes : site.goes target = goRelative parseHost site.host (site.reading target).2 :=
      reach_relative hscheme
    rw [hgoes, goRelative, if_pos hauthority, hsame, site.goTo_host]
  · exact (reach_absolute hscheme hhttp).trans (hsame ▸ site.goTo_host)

/-- **An accepted target that smuggles nothing stays on the host.** -/
theorem stays_of_accepted (h : ¬Smuggles site target)
    (haccepted : isSafeRedirectUrl check.ok site.hostUrl (some target) = some true) :
    site.goes target = .failure ∨ site.goes target = .host site.reached := by
  have hnonempty : target ≠ [] := by
    rintro rfl
    cases haccepted
  have hslash : '\\' ∉ target := by
    intro hslash
    rw [isSafeRedirectUrl, if_neg hnonempty, if_pos hslash] at haccepted
    cases haccepted
  by_cases hone : OneSlash target
  · have hscheme : (site.reading target).1 = site.scheme := by
      cases target with
      | nil => exact absurd rfl hnonempty
      | cons c rest =>
          obtain rfl : c = '/' := Option.some.inj hone.1
          exact front_slash site.scheme rest
    exact stays_of_relative h hslash hscheme fun _ => Or.inr (Or.inl hone)
  · obtain ⟨tail, htail, hfront⟩ := front_clean site target
    rw [isSafeRedirectUrl_eq hnonempty hslash hone hfront,
      Option.ite_none_right_eq_some] at haccepted
    obtain ⟨hhttp, hnetloc⟩ := of_decide_eq_true (Option.some.inj haccepted.2)
    by_cases hnone : (site.reading target).1 = site.scheme ∧
        (splitNetloc ((site.reading target).2 ++ tail)).1 = []
    · -- Python finds no network location: the browser finds none either, or behind three slashes
      have hbackslash : '\\' ∉ (site.reading target).2 :=
        fun hmem => hslash (mem_of_mem_browserClean (mem_of_mem_front hmem))
      exact stays_of_relative h hslash hnone.1 fun hauthority =>
        (authority_of_no_netloc hnone.2 hauthority hbackslash).imp_right Or.inr
    · rw [if_neg hnone] at hnetloc
      exact Or.inr (reaches_of_netloc htail hhttp hnetloc)

/-- **A target is safe exactly if it smuggles none.** -/
theorem safe_iff (site : Site check parseHost) (target : Text) :
    Safe site target ↔ ¬Smuggles site target := by
  refine ⟨fun hsafe hsmuggles => ?_, fun h haccepted => stays_of_accepted h haccepted⟩
  obtain ⟨haccepted, other, hother, hgoes⟩ := accepted_of_smuggles hsmuggles
  rcases hsafe haccepted with hfailure | hreached
  · rw [hgoes] at hfailure
    cases hfailure
  · rw [hgoes] at hreached
    exact hother (Reached.host.inj hreached)

end

/-! ## 5. A tab between the slashes -/

/-- A development server: every network location is one, and a host is compared in lower case. -/
def localhost : Site ⟨fun _ => true, rfl⟩ fun host => some (host.map Char.toLower) where
  scheme := "http".toList
  host := "localhost".toList
  reached := "localhost".toList
  http := Or.inl rfl
  plain c hc := by
    have hall : "localhost".toList.all
        (fun c => endsAuthority c == false && isC0OrSpace c == false) = true := rfl
    have hplain := List.all_eq_true.mp hall c hc
    rwa [Bool.and_eq_true, beq_iff_eq, beq_iff_eq] at hplain
  accepted := rfl
  parsed := by decide

/-- **`/<tab>/evil.com` is accepted and leads to evil.com.** -/
theorem tab_between_slashes :
    ¬(∀ target, Safe localhost target) ∧
      isSafeRedirectUrl (fun _ => true) localhost.hostUrl (some "/\t/evil.com".toList) = some true ∧
      localhost.goes "/\t/evil.com".toList = .host "evil.com".toList := by
  have haccepted : isSafeRedirectUrl (fun _ => true) localhost.hostUrl
      (some "/\t/evil.com".toList) = some true := by decide
  have hgoes : localhost.goes "/\t/evil.com".toList = .host "evil.com".toList := by decide
  refine ⟨fun hsafe => ?_, haccepted, hgoes⟩
  rcases hsafe _ haccepted with hfailure | hreached
  · rw [hgoes] at hfailure
    cases hfailure
  · rw [hgoes] at hreached
    exact absurd (Reached.host.inj hreached) (by decide)

end RetroBridge.Auth
