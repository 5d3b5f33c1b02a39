/-
  File:      RetroBridge/Security/Limiter.lean
  Subject:   THE RATE LIMITER OF THE APPLICATION (retrobridge/security.py: `_check_rate_limit`,
             `_is_exempt`, `_resolve_limits`) over either store.

  * `Incoming` -- what the middleware reads of a request, with what werkzeug and Flask promise of
    it: an address and an endpoint hold no slash, a path begins with one;
  * `resolveLimits`, `isExempt`, `rateKey`, `checkRateLimit` -- the middleware;
  * `rateKey_inj` -- the text that the key is loses neither the address nor what is asked for;
  * `exceeded` -- **the limiter it stands for**, over the requests and no keys: at least `max_req`
    earlier requests of the same client for the same thing were let through in the window;
  * `checkRateLimit_step` -- one request, over any store that implements the sliding window;
  * `limiter_run` -- **with either store the middleware is that limiter**, no window lets more
    through than its limit, and a client is answered as if there were no other.
-/
import RetroBridge.Security.RateLimit
import RetroBridge.Security.ClientAddress

namespace RetroBridge.Security

open Answering Ordered

/-! ## 1. Requests -/

/-- **A request as the middleware sees it**, with the time of the check and whether a sweep of the
    SQLite store that is due goes through. -/
structure Incoming where
  endpoint : Option String
  path : String
  remoteAddr : Option String
  forwardedFor : Option String
  now : Time
  sweeps : Bool
  endpoint_plain : ∀ e, endpoint = some e → '/' ∉ e.toList ∧ ':' ∉ e.toList
  path_rooted : path.toList.head? = some '/'
  address_plain : ∀ a, remoteAddr = some a → '/' ∉ a.toList

/-- `RATE_LIMITS`: a number of requests and a number of seconds, by endpoint, blueprint or
    "default". -/
abbrev RateLimits := Dict String (Int × Int)

section Middleware

variable (config : RateLimits) (r : Incoming)

/-- `request.endpoint or request.path`. -/
def target : String :=
  match r.endpoint with
  | none => r.path
  | some e => if e = "" then r.path else e

/-- `endpoint.rpartition(".")[0]`, where there is a dot. -/
def beforeLastDot (e : String) : Option String :=
  if '.' ∈ e.toList then
    some (String.ofList ((e.toList.reverse.dropWhile (· ≠ '.')).drop 1).reverse)
  else none

/-- `request.blueprint`. -/
def blueprint : Option String := r.endpoint.bind beforeLastDot

/-- The address the key begins with. -/
def client : String := (clientIp (flaskRequest r.remoteAddr r.forwardedFor)).getD "None"

/-- **`_is_exempt`.** -/
def isExempt : Bool :=
  r.endpoint == some "static" || blueprint r == some "health" ||
    "/socket.io/".toList.isPrefixOf r.path.toList

/-- **`_resolve_limits`.** -/
def resolveLimits : Int × Int :=
  match config.get? (target r) with
  | some limits => limits
  | none =>
    match (blueprint r).filter (· ≠ "") |>.bind config.get? with
    | some limits => limits
    | none => (config.get? "default").getD (0, 60)

/-- `f"{ip}:{request.endpoint or request.path}"`. -/
def rateKey : String := client r ++ ":" ++ target r

/-- The limit a request is checked against, if it is. -/
def limitOf : Option (Nat × Int) :=
  if isExempt r then none
  else
    let (maxReq, window) := resolveLimits config r
    if maxReq ≤ 0 then none else some (maxReq.toNat, window)

/-- The call of the store. -/
def rateCall : Call := ⟨rateKey r, r.now, r.sweeps⟩

/-- **`_check_rate_limit`** over a store: the `Retry-After` of the 429, if that is the answer. -/
def checkRateLimit {σ : Type} (check : Limits → σ → Call → Bool × σ) (store : σ) :
    Option Int × σ :=
  match limitOf config r with
  | none => (none, store)
  | some (maxReq, window) =>
    let (isOver, store) := check ⟨fun _ => maxReq, fun _ => seconds window⟩ store (rateCall r)
    (if isOver then some window else none, store)

end Middleware

/-! ## 2. The key -/

section Key

variable {r q : Incoming}

/-- Two requests of one client for the same thing. -/
def sameClient (r q : Incoming) : Bool := client r == client q && target r == target q

theorem client_plain (r : Incoming) : '/' ∉ (client r).toList := by
  unfold client
  rw [clientIp_flaskRequest]
  cases h : r.remoteAddr with
  | none => decide
  | some a => exact r.address_plain a h

/-- What is asked for begins with a slash, or it holds neither slash nor colon. -/
theorem target_cases (r : Incoming) : (target r).toList.head? = some '/' ∨
    ('/' ∉ (target r).toList ∧ ':' ∉ (target r).toList) := by
  unfold target
  split
  · exact .inl r.path_rooted
  · rename_i e he
    split
    · exact .inl r.path_rooted
    · exact .inr (r.endpoint_plain e he)

theorem toList_rateKey (r : Incoming) :
    (rateKey r).toList = (client r).toList ++ ':' :: (target r).toList := by
  simp [rateKey]

/-- Where an element stands first, a list is split in one way. -/
theorem split_first {a : Char} {x y z w : List Char} (hx : a ∉ x) (hy : a ∉ y)
    (h : x ++ a :: z = y ++ a :: w) : x = y ∧ z = w := by
  induction x generalizing y with
  | nil =>
      cases y with
      | nil => simpa using h
      | cons c y =>
          simp only [List.nil_append, List.cons_append, List.cons.injEq] at h
          simp [h.1] at hy
  | cons c x ih =>
      cases y with
      | nil =>
          simp only [List.nil_append, List.cons_append, List.cons.injEq] at h
          simp [h.1] at hx
      | cons d y =>
          simp only [List.cons_append, List.cons.injEq] at h
          simp only [List.mem_cons, not_or] at hx hy
          obtain ⟨rfl, hrest⟩ := h
          obtain ⟨rfl, rfl⟩ := ih hx.2 hy.2 hrest
          exact ⟨rfl, rfl⟩

/-- A text that begins with a slash, behind an address. -/
theorem split_rooted {c c' t t' : List Char} (hc : '/' ∉ c) (hc' : '/' ∉ c')
    (h : c ++ ':' :: '/' :: t = c' ++ ':' :: '/' :: t') : c = c' ∧ t = t' := by
  have hsplit : (c ++ [':']) ++ '/' :: t = (c' ++ [':']) ++ '/' :: t' := by simpa using h
  obtain ⟨hcs, hts⟩ := split_first (by simp [hc]) (by simp [hc']) hsplit
  exact ⟨List.append_cancel_right hcs, hts⟩

/-- A text without colon, behind an address: seen from the end. -/
theorem split_plain {c c' t t' : List Char} (ht : ':' ∉ t) (ht' : ':' ∉ t')
    (h : c ++ ':' :: t = c' ++ ':' :: t') : c = c' ∧ t = t' := by
  have hrev : t.reverse ++ ':' :: c.reverse = t'.reverse ++ ':' :: c'.reverse := by
    simpa using congrArg List.reverse h
  obtain ⟨hts, hcs⟩ := split_first (by simp [ht]) (by simp [ht']) hrev
  exact ⟨List.reverse_injective hcs, List.reverse_injective hts⟩

/-- **The key tells clients and targets apart.** -/
theorem rateKey_inj (h : rateKey r = rateKey q) : client r = client q ∧ target r = target q := by
  have hlist := congrArg String.toList h
  rw [toList_rateKey, toList_rateKey] at hlist
  have hsplit : (client r).toList = (client q).toList ∧ (target r).toList = (target q).toList := by
    have hslash : ∀ p : Incoming, (target p).toList.head? = some '/' →
        ∃ t, (target p).toList = '/' :: t := by
      intro p hp
      cases e : (target p).toList with
      | nil => simp [e] at hp
      | cons a t =>
          obtain rfl : a = '/' := by simpa [e] using hp
          exact ⟨t, rfl⟩
    rcases target_cases r with hr | ⟨hr, hr'⟩ <;> rcases target_cases q with hq | ⟨hq, hq'⟩
    · obtain ⟨t, et⟩ := hslash r hr
      obtain ⟨t', et'⟩ := hslash q hq
      rw [et, et'] at hlist ⊢
      obtain ⟨hc, rfl⟩ := split_rooted (client_plain r) (client_plain q) hlist
      exact ⟨hc, rfl⟩
    · obtain ⟨t, et⟩ := hslash r hr
      have hmem : '/' ∈ (client q).toList ++ ':' :: (target q).toList := by
        rw [← hlist, et]
        simp
      simp [client_plain, hq] at hmem
    · obtain ⟨t, et⟩ := hslash q hq
      have hmem : '/' ∈ (client r).toList ++ ':' :: (target r).toList := by
        rw [hlist, et]
        simp
      simp [client_plain, hr] at hmem
    · exact split_plain hr' hq' hlist
  exact ⟨String.toList_inj.mp hsplit.1, String.toList_inj.mp hsplit.2⟩

theorem rateKey_eq_iff : rateKey r = rateKey q ↔ sameClient r q = true := by
  unfold sameClient
  rw [Bool.and_eq_true, beq_iff_eq, beq_iff_eq]
  exact ⟨rateKey_inj, fun h => by rw [rateKey, rateKey, h.1, h.2]⟩

/-- The blueprint, read off what is asked for. -/
theorem blueprint_target (r : Incoming) : blueprint r =
    if '/' ∈ (target r).toList then none else beforeLastDot (target r) := by
  have hpath : '/' ∈ r.path.toList := List.mem_of_mem_head? r.path_rooted
  unfold blueprint target
  cases he : r.endpoint with
  | none => simp [hpath]
  | some e =>
      have hplain := (r.endpoint_plain e he).1
      by_cases hempty : e = ""
      · simp [hempty, hpath, beforeLastDot]
      · simp [hempty, hplain]

/-- **What is asked for decides the limit.** -/
theorem resolveLimits_congr (config : RateLimits) (h : target r = target q) :
    resolveLimits config r = resolveLimits config q := by
  unfold resolveLimits
  rw [blueprint_target, blueprint_target, h]

end Key

/-! ## 3. The limiter over requests -/

section Rule

variable (config : RateLimits)

/-- The request was checked for the client and the target of `r`, and let through. -/
def passed (r : Incoming) (e : Incoming × Option Int) : Bool :=
  (limitOf config e.1).isSome && sameClient r e.1 && e.2.isNone

/-- The requests like `r` that were let through since a time. -/
def passedSince (r : Incoming) (cutoff : Time) (log : List (Incoming × Option Int)) : Nat :=
  log.countP fun e => passed config r e && decide (cutoff ≤ e.1.now)

/-- The requests like `r` that were let through from `a` to `b`. -/
def passedWithin (r : Incoming) (a b : Time) (log : List (Incoming × Option Int)) : Nat :=
  Windowed.within (fun e => e.1.now) (passed config r) a b log

/-- **The limiter**: a request that is subject to a limit is answered 429 when as many as the limit
    were let through in the window before it. -/
def exceeded (log : List (Incoming × Option Int)) (r : Incoming) : Option Int :=
  match limitOf config r with
  | none => none
  | some (maxReq, window) =>
    if maxReq ≤ passedSince config r (r.now - seconds window) log then some window else none

/-- **What the application promises of its rate limiter.** -/
structure Limiter (answer : List Incoming → List (Option Int)) (rs : List Incoming) : Prop where
  window : answer rs = answers (byRule (exceeded config)) [] rs
  bound : ∀ r maxReq window a, limitOf config r = some (maxReq, window) →
    passedWithin config r a (a + seconds window) (record rs (answer rs)) ≤ maxReq
  isolated : ∀ ip, (record rs (answer rs)).filter (fun e => client e.1 == ip) =
    record (rs.filter fun r => client r == ip) (answer (rs.filter fun r => client r == ip))

/-- The answers of the middleware to a list of requests. -/
def rateLimited {σ : Type} (check : Limits → σ → Call → Bool × σ) (new : σ) (rs : List Incoming) :
    List (Option Int) :=
  answers (fun store r => checkRateLimit config r check store) new rs

variable {config} {r q : Incoming} {log : List (Incoming × Option Int)}

theorem limitOf_eq {maxReq : Nat} {window : Int} (h : limitOf config r = some (maxReq, window)) :
    maxReq = (resolveLimits config r).1.toNat ∧ window = (resolveLimits config r).2 := by
  unfold limitOf at h
  split at h
  · cases h
  · simp only at h
    split at h
    · cases h
    · cases h
      exact ⟨rfl, rfl⟩

theorem sameClient_iff : sameClient r q = true ↔ client r = client q ∧ target r = target q := by
  simp [sameClient]

/-- **No window lets more through than the limit.** -/
theorem exceeded_bound
    (h : ∀ r maxReq window a, limitOf config r = some (maxReq, window) →
      passedWithin config r a (a + seconds window) log ≤ maxReq) (q : Incoming) :
    ∀ r maxReq window a, limitOf config r = some (maxReq, window) →
      passedWithin config r a (a + seconds window) ((q, exceeded config log q) :: log) ≤
        maxReq := by
  intro r maxReq window a hr
  unfold passedWithin
  rw [Windowed.within_cons]
  cases hin : passed config r (q, exceeded config log q) && decide (a ≤ q.now) &&
      decide (q.now ≤ a + seconds window) with
  | false => exact h r maxReq window a hr
  | true =>
      simp only [passed, Bool.and_eq_true, decide_eq_true_eq] at hin
      obtain ⟨⟨⟨⟨hlimited, hsame⟩, hfree⟩, -⟩, hb⟩ := hin
      obtain ⟨⟨maxReq', window'⟩, hq⟩ := Option.isSome_iff_exists.mp hlimited
      have hclient := sameClient_iff.mp hsame
      obtain ⟨rfl, rfl⟩ := limitOf_eq hr
      obtain ⟨rfl, rfl⟩ := limitOf_eq hq
      rw [resolveLimits_congr config hclient.2] at hb ⊢
      have hlt : passedSince config q (q.now - seconds (resolveLimits config q).2) log <
          (resolveLimits config q).1.toNat := by
        unfold exceeded at hfree
        rw [hq] at hfree
        simpa using hfree
      -- what the window holds before `q` is part of what `q` counts
      have hle : passedWithin config r a (a + seconds (resolveLimits config q).2) log ≤
          passedSince config q (q.now - seconds (resolveLimits config q).2) log := by
        refine List.countP_mono_left fun e _ he => ?_
        simp only [passed, Bool.and_eq_true, decide_eq_true_eq, sameClient_iff] at he ⊢
        obtain ⟨⟨⟨⟨hl, hc, ht⟩, hn⟩, ha⟩, -⟩ := he
        exact ⟨⟨⟨hl, hclient.1.symm.trans hc, hclient.2.symm.trans ht⟩, hn⟩,
          le_trans (Int.sub_right_le_of_le_add hb) ha⟩
      exact Nat.lt_of_le_of_lt hle hlt

/-- **The limiter reads only what the client of the request has asked for.** -/
theorem exceeded_local {ip : String} (hip : (client r == ip) = true) :
    exceeded config log r = exceeded config (log.filter fun e => client e.1 == ip) r := by
  unfold exceeded
  cases limitOf config r with
  | none => rfl
  | some limits =>
      have hcount : ∀ cutoff, passedSince config r cutoff log =
          passedSince config r cutoff (log.filter fun e => client e.1 == ip) := by
        intro cutoff
        unfold passedSince
        rw [List.countP_filter]
        refine List.countP_congr fun e _ => ?_
        rw [beq_iff_eq] at hip
        simp only [passed, Bool.and_eq_true, decide_eq_true_eq, sameClient_iff, beq_iff_eq]
        constructor
        · intro he
          exact ⟨he, he.1.1.2.1.symm.trans hip⟩
        · exact And.left
      simp only [hcount]

end Rule

/-! ## 4. Over a store -/

section Store

/-- **A store that implements the sliding window** for limits that each key has of its own. -/
structure Implements {σ : Type} (check : Limits → σ → Call → Bool × σ) (new : σ) (limits : Limits)
    (Agrees : σ → List (Call × Bool) → List Call → Prop) : Prop where
  start : ∀ calls, Chronological calls → Agrees new [] calls
  step : ∀ store log c calls, Agrees store log (c :: calls) →
    (check limits store c).1 = limited limits log c ∧
      Agrees (check limits store c).2 ((c, limited limits log c) :: log) calls
  key : ∀ limits' store c, limits'.maxReq c.key = limits.maxReq c.key →
    limits'.window c.key = limits.window c.key → check limits' store c = check limits store c

theorem memory_implements (limits : Limits) :
    Implements memoryCheck Dict.empty limits (MemoryAgrees limits) where
  start _ h := ⟨h, fun _ => List.Pairwise.nil, fun _ _ ht => absurd ht List.not_mem_nil,
    fun _ _ _ => rfl⟩
  step _ _ _ _ h := h.step
  key limits' store c hmax hwindow := by
    unfold memoryCheck
    rw [hmax, hwindow]

theorem sqlite_implements {limits : Limits} (hwindow : ∀ key, limits.window key ≤ maxAge) :
    Implements sqliteCheck SqliteStore.new limits (SqliteAgrees limits) where
  start _ h := ⟨h, fun _ _ _ => rfl⟩
  step _ _ _ _ h := h.step hwindow
  key limits' store c hmax hwindow := by
    unfold sqliteCheck
    rw [hmax, hwindow]

/-- The limits of the keys: of a key of a request, those that are looked up for it. -/
noncomputable def keyLimits (config : RateLimits) : Limits where
  maxReq key :=
    open Classical in
    if h : ∃ r, rateKey r = key then (resolveLimits config h.choose).1.toNat else 0
  window key :=
    open Classical in
    if h : ∃ r, rateKey r = key then seconds (resolveLimits config h.choose).2 else 0

theorem keyLimits_rateKey (config : RateLimits) (r : Incoming) :
    (keyLimits config).maxReq (rateKey r) = (resolveLimits config r).1.toNat ∧
      (keyLimits config).window (rateKey r) = seconds (resolveLimits config r).2 := by
  have h : ∃ q, rateKey q = rateKey r := ⟨r, rfl⟩
  have hsame : resolveLimits config h.choose = resolveLimits config r :=
    resolveLimits_congr config (rateKey_inj h.choose_spec).2
  unfold keyLimits
  simp only [dif_pos h, hsame, and_self]

variable {config : RateLimits} {log : List (Incoming × Option Int)}

/-- The calls of the store among the requests. -/
def callsOf (config : RateLimits) (rs : List Incoming) : List Call :=
  rs.filterMap fun r => (limitOf config r).map fun _ => rateCall r

/-- The calls of the store in the log. -/
def callLog (config : RateLimits) (log : List (Incoming × Option Int)) : List (Call × Bool) :=
  log.filterMap fun e => (limitOf config e.1).map fun _ => (rateCall e.1, e.2.isSome)

/-- **The store counts the requests of the client for the target.** -/
theorem allowedSince_callLog (r : Incoming) (cutoff : Time) :
    allowedSince (rateKey r) cutoff (callLog config log) = passedSince config r cutoff log := by
  unfold allowedSince callLog passedSince
  rw [List.countP_filterMap]
  refine List.countP_congr fun e _ => ?_
  obtain ⟨q, answer⟩ := e
  have hkey : (rateKey q == rateKey r) = sameClient r q := by
    rw [Bool.eq_iff_iff, beq_iff_eq, ← rateKey_eq_iff]
    exact eq_comm
  cases h : limitOf config q with
  | none => simp [passed, h]
  | some limits => cases answer <;> simp [passed, h, allowed, rateCall, hkey]

/-- A request that the store was asked for. -/
theorem callLog_cons {r : Incoming} {limits : Nat × Int} (h : limitOf config r = some limits)
    (answer : Option Int) : callLog config ((r, answer) :: log) =
      (rateCall r, answer.isSome) :: callLog config log := by
  simp only [callLog, List.filterMap_cons, h, Option.map_some]

/-- **One request**: the answer of the limiter, and the store agrees with the log again. -/
theorem checkRateLimit_step {σ : Type} {check : Limits → σ → Call → Bool × σ} {new store : σ}
    {Agrees : σ → List (Call × Bool) → List Call → Prop}
    (h : Implements check new (keyLimits config) Agrees) {r : Incoming} {rs : List Incoming}
    (ha : Agrees store (callLog config log) (callsOf config (r :: rs))) :
    (checkRateLimit config r check store).1 = exceeded config log r ∧
      Agrees (checkRateLimit config r check store).2
        (callLog config ((r, exceeded config log r) :: log)) (callsOf config rs) := by
  unfold checkRateLimit exceeded
  cases hlimit : limitOf config r with
  | none =>
      refine ⟨rfl, ?_⟩
      simpa only [callLog, callsOf, List.filterMap_cons, hlimit, Option.map_none] using ha
  | some limits =>
      obtain ⟨maxReq, window⟩ := limits
      obtain ⟨hmax, hwindow⟩ := keyLimits_rateKey config r
      obtain ⟨rfl, rfl⟩ := limitOf_eq hlimit
      have hcalls : callsOf config (r :: rs) = rateCall r :: callsOf config rs := by
        simp only [callsOf, List.filterMap_cons, hlimit, Option.map_some]
      rw [hcalls] at ha
      obtain ⟨hanswer, hnext⟩ := h.step store _ _ _ ha
      have hover : limited (keyLimits config) (callLog config log) (rateCall r) =
          decide ((resolveLimits config r).1.toNat ≤ passedSince config r
            (r.now - seconds (resolveLimits config r).2) log) := by
        show decide ((keyLimits config).maxReq (rateKey r) ≤ allowedSince (rateKey r)
          (r.now - (keyLimits config).window (rateKey r)) (callLog config log)) = _
        rw [hmax, hwindow, allowedSince_callLog]
      simp only
      rw [h.key _ store (rateCall r) hmax.symm hwindow.symm, hanswer, hover]
      rw [hover] at hnext
      rw [callLog_cons hlimit]
      simp only [decide_eq_true_eq]
      refine ⟨trivial, ?_⟩
      by_cases hc : (resolveLimits config r).1.toNat ≤ passedSince config r
          (r.now - seconds (resolveLimits config r).2) log
      · simpa only [hc, if_true, decide_true, Option.isSome_some] using hnext
      · simpa only [hc, if_false, decide_false, Option.isSome_none] using hnext

/-- **Over a store that implements the sliding window the middleware is the limiter.** -/
theorem implements_run {σ : Type} {check : Limits → σ → Call → Bool × σ} {new : σ}
    {Agrees : σ → List (Call × Bool) → List Call → Prop}
    (h : Implements check new (keyLimits config) Agrees) {rs : List Incoming}
    (hrs : rs.Pairwise fun r q => r.now ≤ q.now) :
    Limiter config (rateLimited config check new) rs := by
  have hwindow : ∀ rs : List Incoming, (rs.Pairwise fun r q => r.now ≤ q.now) →
      rateLimited config check new rs = answers (byRule (exceeded config)) [] rs := by
    intro rs hrs
    refine answers_eq_of_sim (fun store log rs => Agrees store (callLog config log)
      (callsOf config rs)) (fun _ _ _ _ => checkRateLimit_step h) (h.start _ ?_)
    refine hrs.filterMap _ fun r q hrq c hc d hd => ?_
    obtain ⟨-, -, rfl⟩ := Option.map_eq_some_iff.mp hc
    obtain ⟨-, -, rfl⟩ := Option.map_eq_some_iff.mp hd
    exact hrq
  refine ⟨hwindow rs hrs, fun r maxReq window a hr => ?_, fun ip => ?_⟩
  · have hall : ∀ r maxReq window a, limitOf config r = some (maxReq, window) →
        passedWithin config r a (a + seconds window)
          (record rs (answers (byRule (exceeded config)) [] rs) ++ []) ≤ maxReq :=
      record_invariant (I := fun log => ∀ r maxReq window a,
          limitOf config r = some (maxReq, window) →
            passedWithin config r a (a + seconds window) log ≤ maxReq)
        (fun _ q hlog => exceeded_bound hlog q) fun _ _ _ _ _ => Nat.zero_le _
    rw [List.append_nil, ← hwindow rs hrs] at hall
    exact hall r maxReq window a hr
  · rw [hwindow rs hrs, hwindow _ (hrs.filter _)]
    have hlocal : ∀ (log : List (Incoming × Option Int)) r, (client r == ip) = true →
        exceeded config log r = exceeded config (log.filter fun e => client e.1 == ip) r :=
      fun _ _ => exceeded_local
    have hfilter := record_filter hlocal [] rs
    simpa only [List.append_nil, List.filter_nil] using hfilter

end Store

/-! ## 5. Both stores -/

/-- The windows of a configuration are no longer than `MAX_AGE`. -/
def WindowsFit (config : RateLimits) : Prop :=
  ∀ name limits, config.get? name = some limits → seconds limits.2 ≤ maxAge

theorem resolveLimits_fit {config : RateLimits} (h : WindowsFit config) (r : Incoming) :
    seconds (resolveLimits config r).2 ≤ maxAge := by
  unfold resolveLimits
  split
  · rename_i limits hget
    exact h _ limits hget
  · split
    · rename_i limits hget
      obtain ⟨name, -, hname⟩ := Option.bind_eq_some_iff.mp hget
      exact h name limits hname
    · cases hget : config.get? "default" with
      | none => decide
      | some limits => exact h "default" limits hget

/-- **THE RATE LIMITER**: with the store in memory and with the store in SQLite, requests in order
    of time are answered by the sliding window of their client and of what they ask for. -/
theorem limiter_run {config : RateLimits} (hfit : WindowsFit config) {rs : List Incoming}
    (hrs : rs.Pairwise fun r q => r.now ≤ q.now) :
    Limiter config (rateLimited config memoryCheck Dict.empty) rs ∧
      Limiter config (rateLimited config sqliteCheck SqliteStore.new) rs := by
  have hkeys : ∀ key, (keyLimits config).window key ≤ maxAge := by
    intro key
    unfold keyLimits
    simp only
    split
    · exact resolveLimits_fit hfit _
    · decide
  exact ⟨implements_run (memory_implements _) hrs, implements_run (sqlite_implements hkeys) hrs⟩

/-- A request from an address to an endpoint. -/
def requestOf (endpoint path address : String) (now : Time)
    (he : '/' ∉ endpoint.toList ∧ ':' ∉ endpoint.toList) (hp : path.toList.head? = some '/')
    (ha : '/' ∉ address.toList) : Incoming where
  endpoint := some endpoint
  path := path
  remoteAddr := some address
  forwardedFor := none
  now := now
  sweeps := true
  endpoint_plain _ h := by
    cases h
    exact he
  path_rooted := hp
  address_plain _ h := by
    cases h
    exact ha

/-- Two logins a minute for each client. -/
def twoLogins : RateLimits := Dict.empty.set "auth" (2, 60)

/-- Three logins of one client, one of another, and a page without limit. -/
def loginRequests : List Incoming :=
  [requestOf "auth.login" "/auth/login" "::1" (seconds 10) (by decide) (by decide) (by decide),
    requestOf "auth.login" "/auth/login" "::1" (seconds 20) (by decide) (by decide) (by decide),
    requestOf "auth.login" "/auth/login" "10.0.0.7" (seconds 25) (by decide) (by decide)
      (by decide),
    requestOf "auth.login" "/auth/login" "::1" (seconds 30) (by decide) (by decide) (by decide),
    requestOf "static" "/static/app.css" "::1" (seconds 30) (by decide) (by decide) (by decide)]

/-- The third login of the client is answered 429, and nothing else. -/
theorem limiter_run_small :
    rateLimited twoLogins sqliteCheck SqliteStore.new loginRequests =
      [none, none, none, some 60, none] ∧
    Limiter twoLogins (rateLimited twoLogins sqliteCheck SqliteStore.new) loginRequests := by
  refine ⟨by decide +kernel, (limiter_run (fun name limits h => ?_) (by decide)).2⟩
  have hall : ∀ e ∈ twoLogins.entries, seconds e.2.2 ≤ maxAge := by decide
  exact hall _ (Dict.get?_eq_some.mp h)

end RetroBridge.Security
