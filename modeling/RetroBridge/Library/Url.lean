/-
  File:      RetroBridge/Library/Url.lean
  Subject:   URLS IN TWO READINGS: Python's `urlsplit`, `urlunsplit` and `urljoin`, which follow RFC
             3986, and the WHATWG rules by which a browser finds the host of a reference.

  * `splitScheme` -- a scheme and what is behind its colon, in both readings;
  * `urlsplit`, `urlunsplit`, `urljoin` -- the three functions; `check` is what `urlsplit` asks of a
    network location before it raises `ValueError`;
  * `reach` -- the host a browser goes to: tabs and line ends removed, both ends stripped, a
    backslash for a slash, and any number of them before the host;
  * `clean_eq` -- Python's cleaning leaves what the browser's leaves, and an end it strips;
  * `urlsplit_text` -- a text with a scheme and a network location splits into them;
  * `urljoin_split` -- **the scheme and the network location of a joined URL**;
  * `authority_of_netloc`, `authority_of_no_netloc` -- **what the browser takes for the authority
    where Python finds a network location, and where it finds none**.
-/
import Mathlib.Data.List.TakeWhile
import Mathlib.Data.List.Basic
import Mathlib.Tactic.Common

namespace Urls

abbrev Text := List Char

/-! ## 1. Characters and schemes -/

/-- A C0 control or a space. -/
def isC0OrSpace (c : Char) : Bool := decide (c.toNat ≤ 0x20)

/-- A character that is removed anywhere. -/
def isTabOrNewline (c : Char) : Bool := c == '\t' || c == '\n' || c == '\r'

/-- A character of a scheme. -/
def isSchemeChar (c : Char) : Bool := c.isAlphanum || c == '+' || c == '-' || c == '.'

/-- A character that ends a network location. -/
def isDelimiter (c : Char) : Bool := c == '/' || c == '?' || c == '#'

/-- **The scheme**, in lower case, and what is behind its colon. -/
def splitScheme (url : Text) : Option (Text × Text) :=
  match url.dropWhile (· ≠ ':') with
  | [] => none
  | _ :: rest =>
    let scheme := url.takeWhile (· ≠ ':')
    if scheme.head?.any Char.isAlpha && scheme.all isSchemeChar then
      some (scheme.map Char.toLower, rest)
    else none

/-! ## 2. Python -/

/-- The parts of a URL. -/
structure Split where
  scheme : Text
  netloc : Text
  path : Text
  query : Text
  fragment : Text
  deriving DecidableEq

/-- What `urlsplit` removes: C0 controls and spaces in front, tabs and line ends anywhere. -/
def clean (url : Text) : Text := (url.dropWhile isC0OrSpace).filter (!isTabOrNewline ·)

/-- `_splitnetloc(url, 2)` behind two slashes. -/
def splitNetloc (url : Text) : Text × Text :=
  match url with
  | '/' :: '/' :: rest => (rest.takeWhile (!isDelimiter ·), rest.dropWhile (!isDelimiter ·))
  | _ => ([], url)

/-- `url.split(c, 1)`, with nothing behind where the character is not there. -/
def cut (c : Char) (url : Text) : Text × Text :=
  (url.takeWhile (· ≠ c), (url.dropWhile (· ≠ c)).drop 1)

section Python

variable (check : Text → Bool)

/-- **`urlsplit(url, scheme)`**; none where it raises. -/
def urlsplit (url scheme : Text) : Option Split :=
  let url := clean url
  let front := (splitScheme url).getD (scheme, url)
  let located := splitNetloc front.2
  let fragmented := cut '#' located.2
  let queried := cut '?' fragmented.1
  if check located.1 then
    some ⟨front.1, located.1, queried.1, queried.2, fragmented.2⟩
  else none

/-- `uses_relative`. -/
def usesRelative : List Text :=
  ["", "ftp", "http", "gopher", "nntp", "imap", "wais", "file", "https", "shttp", "mms", "prospero",
    "rtsp", "rtsps", "rtspu", "sftp", "svn", "svn+ssh", "ws", "wss"].map String.toList

/-- `uses_netloc`. -/
def usesNetloc : List Text :=
  ["", "ftp", "http", "gopher", "nntp", "telnet", "imap", "wais", "file", "mms", "https", "shttp",
    "snews", "prospero", "rtsp", "rtsps", "rtspu", "rsync", "svn", "svn+ssh", "sftp", "nfs", "git",
    "git+ssh", "ws", "wss", "itms-services"].map String.toList

/-- **`urlunsplit(parts)`.** -/
def urlunsplit (u : Split) : Text :=
  let url :=
    if u.netloc ≠ [] then
      '/' :: '/' :: u.netloc ++
        if u.path ≠ [] ∧ u.path.head? ≠ some '/' then '/' :: u.path else u.path
    else if ['/', '/'].isPrefixOf u.path then '/' :: '/' :: u.path
    else if u.scheme ≠ [] ∧ u.scheme ∈ usesNetloc ∧ (u.path = [] ∨ u.path.head? = some '/') then
      '/' :: '/' :: u.path
    else u.path
  let url := if u.scheme ≠ [] then u.scheme ++ ':' :: url else url
  let url := if u.query ≠ [] then url ++ '?' :: u.query else url
  if u.fragment ≠ [] then url ++ '#' :: u.fragment else url

/-- One segment of a path, with those before it resolved. -/
def resolveSegment (resolved : List Text) (segment : Text) : List Text :=
  if segment = ['.', '.'] then resolved.dropLast
  else if segment = ['.'] then resolved
  else resolved ++ [segment]

/-- The path of a reference, resolved against the path of its base. -/
def resolvePath (base path : Text) : Text :=
  let baseParts := base.splitOn '/'
  let baseParts := if baseParts.getLast? ≠ some [] then baseParts.dropLast else baseParts
  let segments :=
    if path.head? = some '/' then path.splitOn '/'
    else
      let all := baseParts ++ path.splitOn '/'
      all.take 1 ++ (all.dropLast.drop 1).filter (· ≠ []) ++ (all.drop 1).getLast?.toList
  let resolved := segments.foldl resolveSegment []
  let resolved :=
    if segments.getLast? = some ['.'] ∨ segments.getLast? = some ['.', '.'] then resolved ++ [[]]
    else resolved
  let joined := ['/'].intercalate resolved
  if joined = [] then ['/'] else joined

/-- What `urljoin` returns once the base and the reference are split. -/
def joinParts (b u : Split) (url : Text) : Text :=
  if u.scheme ≠ b.scheme ∨ u.scheme ∉ usesRelative then url
  else if u.scheme ∈ usesNetloc ∧ u.netloc ≠ [] then urlunsplit u
  else
    let netloc := if u.scheme ∈ usesNetloc then b.netloc else u.netloc
    if u.path = [] then
      let query := if u.query = [] then b.query else u.query
      urlunsplit { u with netloc, path := b.path, query }
    else urlunsplit { u with netloc, path := resolvePath b.path u.path }

/-- **`urljoin(base, url)`**; parameters behind a semicolon stay part of the path. -/
def urljoin (base url : Text) : Option Text :=
  if base = [] then some url
  else if url = [] then some base
  else do
    let b ← urlsplit check base []
    let u ← urlsplit check url b.scheme
    return joinParts b u url

end Python

/-! ## 3. The browser -/

/-- What the URL parser removes: C0 controls and spaces at both ends, tabs and line ends
    anywhere. -/
def browserClean (url : Text) : Text :=
  (((url.dropWhile isC0OrSpace).reverse.dropWhile isC0OrSpace).reverse).filter (!isTabOrNewline ·)

/-- A slash or a backslash. -/
def isSlash (c : Char) : Bool := c == '/' || c == '\\'

/-- A character that ends an authority. -/
def endsAuthority (c : Char) : Bool := isDelimiter c || c == '\\'

/-- The host and the port of an authority: what is behind its last `@`. -/
def afterUserinfo (authority : Text) : Text := (authority.reverse.takeWhile (· ≠ '@')).reverse

/-- The host, and the port behind the first colon outside brackets. -/
def splitPort : Bool → Text → Text × Option Text
  | _, [] => ([], none)
  | inside, c :: cs =>
    if c = ':' ∧ inside = false then ([], some cs)
    else
      let rest := splitPort (if c = '[' then true else if c = ']' then false else inside) cs
      (c :: rest.1, rest.2)

/-- Decimal digits, at most 65535. -/
def validPort (port : Text) : Bool :=
  port.all Char.isDigit && decide (Nat.ofDigitChars 10 port 0 ≤ 65535)

/-- Where a browser goes: nowhere, as the parser fails; to another scheme than http and https; to a
    host. -/
inductive Reached (H : Type*) where
  | failure
  | otherScheme
  | host (h : H)
  deriving DecidableEq

section Browser

variable {H : Type*} (parseHost : Text → Option H)

/-- **The host of an authority**, by the host parser `parseHost`. -/
def authorityHost (authority : Text) : Option H :=
  let hostPort := splitPort false (afterUserinfo authority)
  if hostPort.1 = [] then none
  else if hostPort.2.all validPort then parseHost hostPort.1
  else none

/-- The authority behind any number of slashes. -/
def authority (rest : Text) : Text := (rest.dropWhile isSlash).takeWhile (!endsAuthority ·)

/-- The host of an authority, as a place to go to. -/
def goTo (authority : Text) : Reached H :=
  match authorityHost parseHost authority with
  | some h => .host h
  | none => .failure

/-- Two slashes in front. -/
def hasAuthority : Text → Bool
  | a :: b :: _ => isSlash a && isSlash b
  | _ => false

/-- A reference without another scheme than that of its base. -/
def goRelative (baseAuthority rest : Text) : Reached H :=
  if hasAuthority rest then goTo parseHost (authority rest) else goTo parseHost baseAuthority

/-- **The host a browser reaches** with a reference from a page of http or https. -/
def reach (baseScheme baseAuthority url : Text) : Reached H :=
  match splitScheme (browserClean url) with
  | none => goRelative parseHost baseAuthority (browserClean url)
  | some (scheme, rest) =>
    if scheme = baseScheme then goRelative parseHost baseAuthority rest
    else if scheme = "http".toList ∨ scheme = "https".toList then goTo parseHost (authority rest)
    else .otherScheme

end Browser

/-! ## 4. The two cleanings, and schemes -/

section Cleaning

variable {tail : Text}

/-- **Python leaves what the browser leaves, and an end that the browser strips.** -/
theorem clean_eq (url : Text) :
    ∃ tail, clean url = browserClean url ++ tail ∧ ∀ c ∈ tail, isC0OrSpace c = true := by
  have hends : url.dropWhile isC0OrSpace =
      ((url.dropWhile isC0OrSpace).reverse.dropWhile isC0OrSpace).reverse ++
        ((url.dropWhile isC0OrSpace).reverse.takeWhile isC0OrSpace).reverse := by
    rw [← List.reverse_append, List.takeWhile_append_dropWhile, List.reverse_reverse]
  refine ⟨((url.dropWhile isC0OrSpace).reverse.takeWhile isC0OrSpace).reverse.filter
    (!isTabOrNewline ·), ?_, fun c hc => ?_⟩
  · rw [clean, hends, List.filter_append, ← hends]
    rfl
  · have hmem := List.mem_reverse.mp (List.mem_filter.mp hc).1
    exact List.mem_takeWhile_imp hmem

/-- A control or a space is none of the characters that structure a URL. -/
theorem ne_of_c0 {c d : Char} (h : isC0OrSpace c = true) (hd : isC0OrSpace d = false) : c ≠ d := by
  rintro rfl
  rw [h] at hd
  cases hd

theorem splitScheme_append (htail : ∀ c ∈ tail, isC0OrSpace c = true) (url : Text) :
    splitScheme (url ++ tail) = (splitScheme url).map fun front => (front.1, front.2 ++ tail) := by
  have hcolon : tail.dropWhile (· ≠ ':') = [] := by
    refine List.dropWhile_eq_nil_iff.mpr fun c hc => decide_eq_true ?_
    exact ne_of_c0 (htail c hc) (by decide)
  unfold splitScheme
  rw [List.dropWhile_append]
  cases hdrop : url.dropWhile (· ≠ ':') with
  | nil =>
      rw [List.isEmpty_nil, if_pos rfl, hcolon]
      rfl
  | cons c rest =>
      have hsplit : url.takeWhile (· ≠ ':') ++ url.dropWhile (· ≠ ':') = url :=
        List.takeWhile_append_dropWhile
      have htake : (url ++ tail).takeWhile (· ≠ ':') = url.takeWhile (· ≠ ':') := by
        have hlt : (url.takeWhile (· ≠ ':')).length ≠ url.length := by
          intro hlength
          have hsum := congrArg List.length hsplit
          rw [List.length_append, hdrop, List.length_cons] at hsum
          omega
        rw [List.takeWhile_append, if_neg hlt]
      rw [htake]
      change (if _ then _ else _) = Option.map _ (if _ then _ else _)
      split <;> rfl

theorem splitScheme_slash (url : Text) : splitScheme ('/' :: url) = none := by
  have htake : ('/' :: url).takeWhile (· ≠ ':') = '/' :: url.takeWhile (· ≠ ':') :=
    List.takeWhile_cons_of_pos (by decide)
  unfold splitScheme
  split
  · rfl
  · rw [htake]
    rfl

end Cleaning

/-! ## 5. The scheme and the network location -/

/-- One of the two schemes of the web. -/
def IsHttp (scheme : Text) : Prop := scheme = "http".toList ∨ scheme = "https".toList

/-- A text that can be a network location. -/
def IsNetloc (netloc : Text) : Prop :=
  ∀ c ∈ netloc, isDelimiter c = false ∧ isTabOrNewline c = false

/-- A text that ends a network location in front of it. -/
def EndsNetloc (rest : Text) : Prop := ∀ c ∈ rest.head?, isDelimiter c = true

/-- The scheme of a cleaned URL, or the one given, and what is behind it. -/
def front (scheme url : Text) : Text × Text := (splitScheme url).getD (scheme, url)

variable {check : Text → Bool} {scheme netloc rest url base : Text}

/-- **What `urlsplit` says of the two.** -/
theorem urlsplit_eq (check : Text → Bool) (url scheme : Text) :
    (urlsplit check url scheme).map (fun u => (u.scheme, u.netloc)) =
      if check (splitNetloc (front scheme (clean url)).2).1 then
        some ((front scheme (clean url)).1, (splitNetloc (front scheme (clean url)).2).1)
      else none := by
  unfold urlsplit
  change Option.map _ (if check (splitNetloc (front scheme (clean url)).2).1 then _ else none) = _
  split <;> rfl

/-- The longest part in front whose characters all satisfy `p`. -/
theorem takeWhile_append_ends {p : Char → Bool} {text : Text} (ht : ∀ c ∈ text, p c = true)
    (hr : ∀ c ∈ rest.head?, p c = false) : (text ++ rest).takeWhile p = text := by
  have hrest : rest.takeWhile p = [] := by
    cases rest with
    | nil => rfl
    | cons c rest => exact List.takeWhile_cons_of_neg (by rw [hr c rfl]; exact Bool.false_ne_true)
  rw [List.takeWhile_append_of_pos ht, hrest, List.append_nil]

theorem takeWhile_netloc (hn : IsNetloc netloc) (hr : EndsNetloc rest) :
    (netloc ++ rest).takeWhile (!isDelimiter ·) = netloc :=
  takeWhile_append_ends (fun c hc => by rw [(hn c hc).1]; rfl) fun c hc => by rw [hr c hc]; rfl

theorem EndsNetloc.filter (hr : EndsNetloc rest) :
    EndsNetloc (rest.filter (!isTabOrNewline ·)) := by
  cases rest with
  | nil => exact hr
  | cons c rest =>
      have hc : isDelimiter c = true := hr c rfl
      have hkeep : (!isTabOrNewline c) = true := by
        unfold isDelimiter at hc
        simp only [Bool.or_eq_true, beq_iff_eq] at hc
        rcases hc with (rfl | rfl) | rfl <;> rfl
      have hcons : (c :: rest).filter (!isTabOrNewline ·) = c :: rest.filter (!isTabOrNewline ·) :=
        List.filter_cons_of_pos hkeep
      rw [hcons]
      exact hr

/-- **A text with a scheme of the web and a network location splits into them.** -/
theorem urlsplit_text (hs : IsHttp scheme) (hn : IsNetloc netloc) (hr : EndsNetloc rest)
    (d : Text) :
    (urlsplit check (scheme ++ ':' :: '/' :: '/' :: netloc ++ rest) d).map
        (fun u => (u.scheme, u.netloc)) =
      if check netloc then some (scheme, netloc) else none := by
  have hfilter : (netloc ++ rest).filter (!isTabOrNewline ·) =
      netloc ++ rest.filter (!isTabOrNewline ·) := by
    rw [List.filter_append, List.filter_eq_self.mpr fun c hc => by rw [(hn c hc).2]; rfl]
  have hfront : front d (clean (scheme ++ ':' :: '/' :: '/' :: netloc ++ rest)) =
      (scheme, '/' :: '/' :: (netloc ++ rest.filter (!isTabOrNewline ·))) := by
    rw [← hfilter]
    rcases hs with rfl | rfl
    · rfl
    · rfl
  rw [urlsplit_eq, hfront]
  change (if check ((netloc ++ _).takeWhile _) then some (scheme, (netloc ++ _).takeWhile _)
    else none) = _
  rw [takeWhile_netloc hn hr.filter]

theorem EndsNetloc.append {text : Text} (h : EndsNetloc text) (hr : EndsNetloc rest) :
    EndsNetloc (text ++ rest) := by
  cases text with
  | nil => exact hr
  | cons c text => exact h

/-- A part of a URL that a delimiter announces, if it is not empty. -/
theorem endsNetloc_part {c : Char} (hc : isDelimiter c = true) (text : Text) :
    EndsNetloc (if text ≠ [] then c :: text else []) := by
  split
  · intro d hd
    rw [← Option.some.inj hd]
    exact hc
  · exact nofun

/-- A URL put together from a network location begins with it. -/
theorem urlunsplit_text {u : Split} (hs : u.scheme ≠ []) (hn : u.netloc ≠ []) :
    ∃ rest, urlunsplit u = u.scheme ++ ':' :: '/' :: '/' :: u.netloc ++ rest ∧ EndsNetloc rest := by
  have hpath : EndsNetloc
      (if u.path ≠ [] ∧ u.path.head? ≠ some '/' then '/' :: u.path else u.path) := by
    split
    · intro c hc
      rw [← Option.some.inj hc]
      rfl
    · rename_i hslash
      cases hp : u.path with
      | nil => exact nofun
      | cons c path =>
          rw [hp] at hslash
          intro d hd
          have hc : c = '/' := by
            by_contra hne
            exact hslash ⟨List.cons_ne_nil _ _, fun heq => hne (Option.some.inj heq)⟩
          rw [← Option.some.inj hd, hc]
          rfl
  have hquery := @endsNetloc_part '?' rfl u.query
  have hfragment := @endsNetloc_part '#' rfl u.fragment
  refine ⟨_, ?_, (hpath.append hquery).append hfragment⟩
  have hend : ∀ (c : Char) (url part : Text),
      (if part ≠ [] then url ++ c :: part else url) =
        url ++ if part ≠ [] then c :: part else [] := by
    intro c url part
    split
    · rfl
    · exact (List.append_nil url).symm
  unfold urlunsplit
  simp only [if_pos hn, if_pos hs, hend]
  simp only [List.append_assoc, List.cons_append]

theorem mem_of_mem_front {c : Char} (h : c ∈ (front scheme url).2) : c ∈ url := by
  unfold front splitScheme at h
  cases hdrop : url.dropWhile (· ≠ ':') with
  | nil =>
      rw [hdrop] at h
      exact h
  | cons d rest =>
      rw [hdrop] at h
      change c ∈ (Option.getD (if _ then some (_, rest) else none) (scheme, url)).2 at h
      split at h
      · refine (List.dropWhile_sublist (· ≠ ':')).mem ?_
        rw [hdrop]
        exact List.mem_cons_of_mem d h
      · exact h

theorem mem_splitNetloc {c : Char} (h : c ∈ (splitNetloc url).1) :
    isDelimiter c = false ∧ c ∈ url := by
  unfold splitNetloc at h
  split at h
  · rename_i rest
    have hdelimiter := List.mem_takeWhile_imp h
    refine ⟨by simpa using hdelimiter, ?_⟩
    exact List.mem_cons_of_mem _ (List.mem_cons_of_mem _ ((List.takeWhile_sublist _).mem h))
  · exact absurd h List.not_mem_nil

/-- What `urlsplit` finds can be a network location. -/
theorem isNetloc_of_urlsplit {u : Split} (h : urlsplit check url scheme = some u) :
    IsNetloc u.netloc ∧ check u.netloc = true ∧ u.scheme = (front scheme (clean url)).1 := by
  have heq := urlsplit_eq check url scheme
  rw [h] at heq
  by_cases hcheck : check (splitNetloc (front scheme (clean url)).2).1 = true
  · rw [if_pos hcheck] at heq
    obtain ⟨hscheme, hnetloc⟩ := Prod.mk.inj (Option.some.inj heq)
    rw [hnetloc]
    refine ⟨fun c hc => ?_, hcheck, hscheme⟩
    obtain ⟨hdelimiter, hmem⟩ := mem_splitNetloc hc
    have hkept := (List.mem_filter.mp (mem_of_mem_front hmem)).2
    exact ⟨hdelimiter, by simpa using hkept⟩
  · rw [if_neg hcheck] at heq
    cases heq

/-- Another scheme than the one given is the URL's own. -/
theorem front_of_ne {other : Text} (h : (front scheme url).1 ≠ scheme) :
    front other url = front scheme url := by
  unfold front at h ⊢
  cases hsplit : splitScheme url with
  | none =>
      rw [hsplit] at h
      exact absurd rfl h
  | some found => rfl

/-- A URL put together again splits into its scheme and network location. -/
theorem urlsplit_urlunsplit {v : Split} (hs : IsHttp v.scheme) (hn : IsNetloc v.netloc)
    (hnonempty : v.netloc ≠ []) (hcheck : check v.netloc = true) :
    (urlsplit check (urlunsplit v) []).map (fun w => (w.scheme, w.netloc)) =
      some (v.scheme, v.netloc) := by
  have hscheme : v.scheme ≠ [] := by
    rcases hs with hs | hs <;> rw [hs] <;> exact List.cons_ne_nil _ _
  obtain ⟨text, htext, hend⟩ := urlunsplit_text hscheme hnonempty
  rw [htext, urlsplit_text hs hn hend, if_pos hcheck]

/-- The parts of a joined URL, by whether the reference has a scheme or a location of its own. -/
theorem joinParts_split {b u : Split} (hs : IsHttp b.scheme) (hbn : IsNetloc b.netloc)
    (hbnonempty : b.netloc ≠ []) (hbcheck : check b.netloc = true)
    (hu : urlsplit check url b.scheme = some u) :
    (urlsplit check (joinParts b u url) []).map (fun v => (v.scheme, v.netloc)) =
      some (u.scheme, if u.scheme = b.scheme ∧ u.netloc = [] then b.netloc else u.netloc) := by
  obtain ⟨hun, hucheck, huscheme⟩ := isNetloc_of_urlsplit hu
  by_cases hsame : u.scheme = b.scheme
  · have hrelative : u.scheme ∈ usesRelative ∧ u.scheme ∈ usesNetloc := by
      rw [hsame]
      rcases hs with hs | hs <;> rw [hs] <;> decide
    have hus : IsHttp u.scheme := hsame ▸ hs
    unfold joinParts
    rw [if_neg (not_or.mpr ⟨not_not.mpr hsame, not_not.mpr hrelative.1⟩)]
    by_cases hempty : u.netloc = []
    · have hown : ¬(u.scheme ∈ usesNetloc ∧ u.netloc ≠ []) := fun h => h.2 hempty
      have htaken : u.scheme = b.scheme ∧ u.netloc = [] := ⟨hsame, hempty⟩
      rw [if_neg hown, if_pos hrelative.2, if_pos htaken]
      change Option.map _ (urlsplit check (if u.path = [] then _ else _) []) = _
      split
      · exact urlsplit_urlunsplit hus hbn hbnonempty hbcheck
      · exact urlsplit_urlunsplit hus hbn hbnonempty hbcheck
    · rw [if_pos ⟨hrelative.2, hempty⟩, if_neg fun h => hempty h.2]
      exact urlsplit_urlunsplit hus hun hempty hucheck
  · -- the reference is returned as it is: its scheme is its own, whatever the default
    have hfront : front [] (clean url) = front b.scheme (clean url) :=
      front_of_ne (huscheme ▸ hsame)
    have heq := urlsplit_eq check url b.scheme
    rw [hu] at heq
    unfold joinParts
    rw [if_pos (Or.inl hsame), if_neg fun h => hsame h.1, urlsplit_eq, hfront, ← heq]
    rfl

/-- **The scheme and the network location of a joined URL**: those of the reference, where its
    scheme is another; else the base's location unless the reference has one. -/
theorem urljoin_split (hs : IsHttp scheme) (hn : IsNetloc netloc) (hnonempty : netloc ≠ [])
    (hr : EndsNetloc rest) (hcheck : check netloc = true) (hurl : url ≠ []) :
    ((urljoin check (scheme ++ ':' :: '/' :: '/' :: netloc ++ rest) url).bind
        fun joined => urlsplit check joined []).map (fun v => (v.scheme, v.netloc)) =
      (urlsplit check url scheme).map fun u =>
        (u.scheme, if u.scheme = scheme ∧ u.netloc = [] then netloc else u.netloc) := by
  have hbase := @urlsplit_text check scheme netloc rest hs hn hr []
  rw [if_pos hcheck, Option.map_eq_some_iff] at hbase
  obtain ⟨b, hb, hparts⟩ := hbase
  obtain ⟨rfl, rfl⟩ := Prod.mk.inj hparts
  unfold urljoin
  rw [if_neg (by simp), if_neg hurl, hb]
  change Option.map _ (Option.bind (Option.bind (urlsplit check url b.scheme)
    fun u => some (joinParts b u url)) _) = _
  cases hu : urlsplit check url b.scheme with
  | none => rfl
  | some u => exact joinParts_split hs hn hnonempty hcheck hu

/-! ## 6. The browser's reading of the same text -/

theorem front_append {tail : Text} (htail : ∀ c ∈ tail, isC0OrSpace c = true) (scheme url : Text) :
    front scheme (url ++ tail) = ((front scheme url).1, (front scheme url).2 ++ tail) := by
  unfold front
  rw [splitScheme_append htail]
  cases splitScheme url <;> rfl

theorem mem_of_mem_browserClean {c : Char} (h : c ∈ browserClean url) : c ∈ url := by
  obtain ⟨tail, hclean, -⟩ := clean_eq url
  have hmem : c ∈ clean url := hclean ▸ List.mem_append_left tail h
  exact (List.dropWhile_sublist _).mem (List.mem_filter.mp hmem).1

/-- A URL that begins with a slash has no scheme for the browser. -/
theorem front_slash (scheme url : Text) :
    (front scheme (browserClean ('/' :: url))).1 = scheme := by
  obtain ⟨tail, hclean, htail⟩ := clean_eq ('/' :: url)
  have hslash : clean ('/' :: url) = '/' :: url.filter (!isTabOrNewline ·) := rfl
  rw [hslash] at hclean
  cases hb : browserClean ('/' :: url) with
  | nil =>
      rw [hb, List.nil_append] at hclean
      have hc0 : isC0OrSpace '/' = true := htail '/' (hclean ▸ List.mem_cons_self)
      exact absurd hc0 (by decide)
  | cons c text =>
      rw [hb, List.cons_append] at hclean
      obtain ⟨rfl, -⟩ := List.cons.inj hclean
      unfold front
      rw [splitScheme_slash]
      rfl

section Reach

variable {H : Type*} {parseHost : Text → Option H} {baseAuthority : Text}

/-- A reference of the base's scheme, or of none, is relative. -/
theorem reach_relative (h : (front scheme (browserClean url)).1 = scheme) :
    reach parseHost scheme baseAuthority url =
      goRelative parseHost baseAuthority (front scheme (browserClean url)).2 := by
  unfold front reach at *
  cases hsplit : splitScheme (browserClean url) with
  | none => rfl
  | some found =>
      rw [hsplit] at h
      exact if_pos h

/-- A reference of the other scheme of the web has an authority, behind slashes or not. -/
theorem reach_absolute (h : (front scheme (browserClean url)).1 ≠ scheme)
    (hs : IsHttp (front scheme (browserClean url)).1) :
    reach parseHost scheme baseAuthority url =
      goTo parseHost (authority (front scheme (browserClean url)).2) := by
  unfold front reach at *
  cases hsplit : splitScheme (browserClean url) with
  | none =>
      rw [hsplit] at h
      exact absurd rfl h
  | some found =>
      rw [hsplit] at h hs
      exact (if_neg h).trans (if_pos hs)

/-- Two slashes in front, where there is no backslash. -/
theorem exists_of_hasAuthority (h : hasAuthority rest = true) (hb : '\\' ∉ rest) :
    ∃ text, rest = '/' :: '/' :: text := by
  have hslash : ∀ c ∈ rest, isSlash c = true → c = '/' := by
    intro c hc hslash
    unfold isSlash at hslash
    rw [Bool.or_eq_true, beq_iff_eq, beq_iff_eq] at hslash
    rcases hslash with rfl | rfl
    · rfl
    · exact absurd hc hb
  match rest, h with
  | c :: d :: text, h =>
      obtain ⟨hc, hd⟩ := Bool.and_eq_true_iff.mp h
      rw [hslash c List.mem_cons_self hc, hslash d (List.mem_cons_of_mem _ List.mem_cons_self) hd]
      exact ⟨text, rfl⟩

variable {tail : Text}

/-- **No network location for Python, an authority for the browser**: an empty one, or behind three
    slashes. -/
theorem authority_of_no_netloc (hnetloc : (splitNetloc (rest ++ tail)).1 = [])
    (h : hasAuthority rest = true) (hb : '\\' ∉ rest) :
    authority rest = [] ∨ ['/', '/', '/'] <+: rest := by
  obtain ⟨text, rfl⟩ := exists_of_hasAuthority h hb
  cases text with
  | nil => exact Or.inl rfl
  | cons c text =>
      change (c :: (text ++ tail)).takeWhile (!isDelimiter ·) = [] at hnetloc
      have hc : isDelimiter c = true := by
        by_contra hne
        rw [List.takeWhile_cons_of_pos (by rw [Bool.not_eq_true] at hne; rw [hne]; rfl)] at hnetloc
        cases hnetloc
      unfold isDelimiter at hc
      simp only [Bool.or_eq_true, beq_iff_eq] at hc
      rcases hc with (rfl | rfl) | rfl
      · exact Or.inr ⟨text, rfl⟩
      · exact Or.inl rfl
      · exact Or.inl rfl

/-- A network location stands behind two slashes, and ends where it can. -/
theorem exists_of_netloc (hnetloc : (splitNetloc url).1 = netloc) (hnonempty : netloc ≠ []) :
    ∃ after, url = '/' :: '/' :: netloc ++ after ∧ EndsNetloc after := by
  subst hnetloc
  unfold splitNetloc at hnonempty ⊢
  split
  · rename_i text
    refine ⟨text.dropWhile (!isDelimiter ·), ?_, fun c hc => ?_⟩
    · rw [List.cons_append, List.cons_append, List.takeWhile_append_dropWhile]
    · have hhead := List.head?_dropWhile_not (!isDelimiter ·) text
      rw [hc] at hhead
      simpa using hhead
  · rename_i hslashes
    split at hnonempty
    · exact absurd rfl (hslashes _)
    · exact absurd rfl hnonempty

/-- The end that the browser strips lies behind a network location without such characters. -/
theorem exists_of_netloc_append (hn : ∀ c ∈ netloc, isC0OrSpace c = false) (hnonempty : netloc ≠ [])
    (htail : ∀ c ∈ tail, isC0OrSpace c = true)
    (hnetloc : (splitNetloc (rest ++ tail)).1 = netloc) :
    ∃ behind, rest = '/' :: '/' :: netloc ++ behind ∧ EndsNetloc behind := by
  obtain ⟨after, htext, hafter⟩ := exists_of_netloc hnetloc hnonempty
  rcases List.append_eq_append_iff.mp htext with ⟨lost, hlocated, htail'⟩ | ⟨behind, hrest, rfl⟩
  · have hlost : lost = [] := by
      refine List.eq_nil_iff_forall_not_mem.mpr fun c hc => ?_
      have hc0 : isC0OrSpace c = true := htail c (htail' ▸ List.mem_append_left after hc)
      have hmem : c ∈ '/' :: '/' :: netloc := hlocated ▸ List.mem_append_right rest hc
      rcases List.mem_cons.mp hmem with rfl | hmem
      · exact absurd hc0 (by decide)
      · rcases List.mem_cons.mp hmem with rfl | hmem
        · exact absurd hc0 (by decide)
        · rw [hn c hmem] at hc0
          cases hc0
    rw [hlost, List.append_nil] at hlocated
    exact ⟨[], by rw [hlocated, List.append_nil], nofun⟩
  · refine ⟨behind, hrest, fun c hc => hafter c ?_⟩
    cases behind with
    | nil => cases hc
    | cons d behind => exact hc

/-- **A network location without a character the browser treats otherwise is its authority.** -/
theorem authority_of_netloc (hn : ∀ c ∈ netloc, endsAuthority c = false ∧ isC0OrSpace c = false)
    (hnonempty : netloc ≠ []) (htail : ∀ c ∈ tail, isC0OrSpace c = true)
    (hnetloc : (splitNetloc (rest ++ tail)).1 = netloc) :
    hasAuthority rest = true ∧ authority rest = netloc := by
  obtain ⟨behind, rfl, hbehind⟩ :=
    exists_of_netloc_append (fun c hc => (hn c hc).2) hnonempty htail hnetloc
  refine ⟨rfl, ?_⟩
  have hslashes : ('/' :: '/' :: netloc ++ behind).dropWhile isSlash = netloc ++ behind := by
    cases netloc with
    | nil => exact absurd rfl hnonempty
    | cons c netloc =>
        have hc : isSlash c = false := by
          have hends := (hn c List.mem_cons_self).1
          unfold endsAuthority isDelimiter at hends
          unfold isSlash
          simp only [Bool.or_eq_false_iff] at hends ⊢
          exact ⟨hends.1.1.1, hends.2⟩
        change (c :: (netloc ++ behind)).dropWhile isSlash = _
        rw [List.dropWhile_cons_of_neg (by rw [hc]; exact Bool.false_ne_true)]
        rfl
  unfold authority
  rw [hslashes]
  refine takeWhile_append_ends (fun c hc => by rw [(hn c hc).1]; rfl) fun c hc => ?_
  unfold endsAuthority
  rw [hbehind c hc]
  rfl

end Reach

end Urls
