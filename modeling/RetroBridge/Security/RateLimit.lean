/-
  File:      RetroBridge/Security/RateLimit.lean
  Subject:   THE RATE LIMITER'S STORES (retrobridge/security.py: `_MemoryRateLimiterStore`,
             `_SqliteRateLimiterStore`) and the sliding window they stand for.

  * `memoryCheck` -- a list of times per key, popped from the front;
  * `sqliteCheck`, `sweepIfDue` -- rows of keys and times, deleted per key at each check and for all
    keys now and then;
  * `limited` -- the window: the earlier calls that were allowed, since `now - window`;
  * `memory_window`, `sqlite_window` -- **each store answers every list of calls in order of time as
    the window does**;
  * `window_bound` -- what the window allows.
-/
import RetroBridge.Models
import RetroBridge.Library.Answers
import RetroBridge.Library.Dict
import RetroBridge.Library.Window

namespace RetroBridge.Security

open Answering Ordered Windowed

/-! ## 1. Calls -/

/-- The limit of each key. -/
structure Limits where
  maxReq : String → Nat
  window : String → Time

/-- A call of `check`: the key, what `time.time()` answers, and whether a sweep that is due goes
    through (its exception is logged only). -/
structure Call where
  key : String
  now : Time
  sweeps : Bool

/-- Calls in order of time. -/
def Chronological (calls : List Call) : Prop := calls.Pairwise fun c d => c.now ≤ d.now

/-! ## 2. The store in memory -/

/-- `while timestamps and timestamps[0] < cutoff: timestamps.pop(0)`. -/
def popExpired (cutoff : Time) : List Time → List Time
  | [] => []
  | t :: ts => if t < cutoff then popExpired cutoff ts else t :: ts

/-- **`_MemoryRateLimiterStore.check`**. The list it pops from is the one in the store, if the key
    is there. -/
def memoryCheck (limits : Limits) (store : Dict String (List Time)) (c : Call) :
    Bool × Dict String (List Time) :=
  let popped := store.modify c.key (popExpired (c.now - limits.window c.key))
  let timestamps := (popped.get? c.key).getD []
  if limits.maxReq c.key ≤ timestamps.length then (true, popped)
  else (false, popped.set c.key (timestamps ++ [c.now]))

/-! ## 3. The store in SQLite -/

/-- `MAX_AGE`. -/
def maxAge : Time := seconds (24 * 3600)

/-- `SWEEP_INTERVAL`. -/
def sweepInterval : Time := seconds 300

/-- The rows of `rate_limits`, and `_last_sweep`. -/
structure SqliteStore where
  rows : List (String × Time)
  lastSweep : Time

/-- A new store on an empty table. -/
def SqliteStore.new : SqliteStore := ⟨[], 0⟩

/-- `_sweep_if_due`. -/
def sweepIfDue (store : SqliteStore) (c : Call) : SqliteStore :=
  if c.now - store.lastSweep < sweepInterval then store
  else
    { rows := if c.sweeps then store.rows.filter fun r => !decide (r.2 < c.now - maxAge)
              else store.rows
      lastSweep := c.now }

/-- **`_SqliteRateLimiterStore.check`**. -/
def sqliteCheck (limits : Limits) (store : SqliteStore) (c : Call) : Bool × SqliteStore :=
  let swept := sweepIfDue store c
  let kept := swept.rows.filter fun r =>
    !(r.1 == c.key && decide (r.2 < c.now - limits.window c.key))
  if limits.maxReq c.key ≤ kept.countP (fun r => r.1 == c.key) then
    (true, { swept with rows := kept })
  else (false, { swept with rows := kept ++ [(c.key, c.now)] })

/-! ## 4. The window -/

/-- An earlier call for a key that was allowed. -/
def allowed (key : String) (e : Call × Bool) : Bool := e.1.key == key && !e.2

/-- The calls for a key that were allowed since a time. -/
def allowedSince (key : String) (cutoff : Time) (log : List (Call × Bool)) : Nat :=
  log.countP fun e => allowed key e && decide (cutoff ≤ e.1.now)

/-- **The sliding window**: a call is limited when at least `max_req` earlier calls for its key were
    allowed since `now - window`. -/
def limited (limits : Limits) (log : List (Call × Bool)) (c : Call) : Bool :=
  decide (limits.maxReq c.key ≤ allowedSince c.key (c.now - limits.window c.key) log)

/-- The calls for a key that were allowed from `a` to `b`. -/
def allowedWithin (key : String) (a b : Time) (log : List (Call × Bool)) : Nat :=
  within (fun e => e.1.now) (allowed key) a b log

theorem allowedSince_cons {key : String} {cutoff : Time} {e : Call × Bool}
    {log : List (Call × Bool)} : allowedSince key cutoff (e :: log) =
      allowedSince key cutoff log + (allowed key e && decide (cutoff ≤ e.1.now)).toNat := by
  unfold allowedSince
  rw [List.countP_cons]
  cases allowed key e && decide (cutoff ≤ e.1.now) <;> rfl

theorem allowedWithin_cons {key : String} {a b : Time} {e : Call × Bool}
    {log : List (Call × Bool)} : allowedWithin key a b (e :: log) = allowedWithin key a b log +
      (allowed key e && decide (a ≤ e.1.now) && decide (e.1.now ≤ b)).toNat := within_cons

/-- A closed window up to a call of its length is part of what that call counts. -/
theorem allowedWithin_le_since {key : String} {a cutoff b : Time} {log : List (Call × Bool)}
    (h : cutoff ≤ a) : allowedWithin key a b log ≤ allowedSince key cutoff log := by
  refine List.countP_mono_left fun e _ he => ?_
  simp only [Bool.and_eq_true, decide_eq_true_eq] at he ⊢
  exact ⟨he.1.1, le_trans h he.1.2⟩

/-- **What the window allows**: at most `max_req` calls for a key in any closed window of its
    length. -/
theorem window_bound (limits : Limits) {log : List (Call × Bool)} {c : Call}
    (h : ∀ key a, allowedWithin key a (a + limits.window key) log ≤ limits.maxReq key)
    (key : String) (a : Time) :
    allowedWithin key a (a + limits.window key) ((c, limited limits log c) :: log) ≤
      limits.maxReq key := by
  rw [allowedWithin_cons]
  cases hin : allowed key (c, limited limits log c) && decide (a ≤ c.now) &&
      decide (c.now ≤ a + limits.window key) with
  | false => exact h key a
  | true =>
      -- the new call is in the window, which so starts no earlier than its cutoff
      simp only [allowed, Bool.and_eq_true, beq_iff_eq, Bool.not_eq_true', decide_eq_true_eq] at hin
      obtain ⟨⟨⟨rfl, hfree⟩, -⟩, hb⟩ := hin
      have hlt : allowedSince c.key (c.now - limits.window c.key) log < limits.maxReq c.key := by
        simpa [limited] using hfree
      have hle : allowedWithin c.key a (a + limits.window c.key) log ≤
          allowedSince c.key (c.now - limits.window c.key) log :=
        allowedWithin_le_since (Int.sub_right_le_of_le_add hb)
      exact Nat.lt_of_le_of_lt hle hlt

/-! ## 5. What a store keeps -/

/-- The times that a store keeps of each key are, from the cutoff of each call to come, those of
    the calls that were allowed. -/
def Keeps (limits : Limits) (kept : String → List Time) (log : List (Call × Bool))
    (calls : List Call) : Prop :=
  ∀ c ∈ calls, ∀ key, (kept key).countP (fun t => decide (c.now - limits.window key ≤ t)) =
    allowedSince key (c.now - limits.window key) log

/-- What a call adds to a key. -/
def added (c : Call) (lim : Bool) (key : String) : List Time :=
  if allowed key (c, lim) = true then [c.now] else []

section Keeps

variable {limits : Limits} {kept thin : String → List Time} {log : List (Call × Bool)} {c : Call}
  {calls : List Call}

/-- A filter that keeps all that counts keeps the count. -/
theorem countP_filter_of_imp {p q : Time → Bool} {l : List Time}
    (h : ∀ t, q t = true → p t = true) : (l.filter p).countP q = l.countP q := by
  rw [List.countP_filter]
  refine List.countP_congr fun t _ => ?_
  rw [Bool.and_eq_true]
  exact ⟨fun hpq => hpq.1, fun hq => ⟨hq, h t hq⟩⟩

/-- **One call**: a store that drops nothing that a later call counts, and adds the time of a call
    that it allows. -/
theorem Keeps.step (h : Keeps limits kept log (c :: calls)) (lim : Bool)
    (hthin : ∀ d ∈ calls, ∀ key,
      (thin key).countP (fun t => decide (d.now - limits.window key ≤ t)) =
        (kept key).countP (fun t => decide (d.now - limits.window key ≤ t))) :
    Keeps limits (fun key => thin key ++ added c lim key) ((c, lim) :: log) calls := by
  intro d hd key
  rw [List.countP_append, hthin d hd key, h d (List.mem_cons_of_mem _ hd) key, allowedSince_cons]
  congr 1
  unfold added
  cases allowed key (c, lim) with
  | false => rfl
  | true =>
      show [c.now].countP (fun t => decide (d.now - limits.window key ≤ t)) =
        (true && decide (d.now - limits.window key ≤ c.now)).toNat
      rw [List.countP_singleton, Bool.true_and]
      cases decide (d.now - limits.window key ≤ c.now) <;> rfl

/-- **The answer**: the number of the times that are left of the call's key, where none of them is
    before the cutoff. -/
theorem Keeps.answer (h : Keeps limits kept log (c :: calls))
    (hleft : ∀ t ∈ thin c.key, c.now - limits.window c.key ≤ t)
    (hthin : (thin c.key).countP (fun t => decide (c.now - limits.window c.key ≤ t)) =
      (kept c.key).countP (fun t => decide (c.now - limits.window c.key ≤ t))) :
    decide (limits.maxReq c.key ≤ (thin c.key).length) = limited limits log c := by
  have hlen : (thin c.key).length = allowedSince c.key (c.now - limits.window c.key) log := by
    rw [← h c (List.mem_cons_self ..) c.key, ← hthin]
    exact (List.countP_eq_length.mpr fun t ht => decide_eq_true (hleft t ht)).symm
  rw [hlen]
  rfl

end Keeps

/-! ## 6. The store in memory -/

/-- The times of a key in memory. -/
def timesOf (store : Dict String (List Time)) (key : String) : List Time :=
  (store.get? key).getD []

/-- Popping expired times off the front of a list in order leaves the times that are not. -/
theorem popExpired_sorted {cutoff : Time} {ts : List Time} (h : ts.Pairwise (· ≤ ·)) :
    popExpired cutoff ts = ts.filter fun t => decide (cutoff ≤ t) := by
  induction ts with
  | nil => rfl
  | cons t ts ih =>
      obtain ⟨hfirst, hrest⟩ := List.pairwise_cons.mp h
      unfold popExpired
      by_cases ht : t < cutoff
      · rw [if_pos ht, ih hrest, List.filter_cons_of_neg (by simpa using ht)]
      · have hall : ∀ u ∈ t :: ts, cutoff ≤ u := by
          intro u hu
          rcases List.mem_cons.mp hu with rfl | hu
          · exact not_lt.mp ht
          · exact le_trans (not_lt.mp ht) (hfirst u hu)
        rw [if_neg ht, List.filter_eq_self.mpr fun u hu => decide_eq_true (hall u hu)]

/-- What a check leaves of a key before it adds the call. -/
def memoryThin (limits : Limits) (store : Dict String (List Time)) (c : Call) (key : String) :
    List Time :=
  if key = c.key then popExpired (c.now - limits.window c.key) (timesOf store key)
  else timesOf store key

theorem timesOf_popped (limits : Limits) (store : Dict String (List Time)) (c : Call)
    (key : String) :
    timesOf (store.modify c.key (popExpired (c.now - limits.window c.key))) key =
      memoryThin limits store c key := by
  unfold timesOf memoryThin
  rw [Dict.get?_modify]
  split
  · unfold timesOf
    cases store.get? key <;> rfl
  · rfl

/-- **What a check in memory answers, and what it leaves of each key.** -/
theorem memoryCheck_spec (limits : Limits) (store : Dict String (List Time)) (c : Call) :
    (memoryCheck limits store c).1 =
      decide (limits.maxReq c.key ≤ (memoryThin limits store c c.key).length) ∧
    ∀ key, timesOf (memoryCheck limits store c).2 key =
      memoryThin limits store c key ++ added c (memoryCheck limits store c).1 key := by
  have hpop := timesOf_popped limits store c
  unfold timesOf at hpop
  unfold memoryCheck
  simp only [hpop]
  split
  · rename_i hlim
    refine ⟨(decide_eq_true hlim).symm, fun key => ?_⟩
    simp [timesOf, hpop, added, allowed]
  · rename_i hlim
    refine ⟨(decide_eq_false hlim).symm, fun key => ?_⟩
    show ((Dict.set _ c.key _).get? key).getD [] = _
    rw [Dict.get?_set]
    by_cases hk : key = c.key
    · subst hk
      simp [added, allowed]
    · rw [if_neg hk, hpop key]
      simp [added, allowed, Ne.symm hk]

/-- **The store in memory against the log**: what it keeps, and that its lists are in order and not
    in the future. -/
structure MemoryAgrees (limits : Limits) (store : Dict String (List Time))
    (log : List (Call × Bool)) (calls : List Call) : Prop where
  chronological : Chronological calls
  sorted : ∀ key, (timesOf store key).Pairwise (· ≤ ·)
  past : ∀ key, ∀ t ∈ timesOf store key, ∀ c ∈ calls, t ≤ c.now
  keeps : Keeps limits (timesOf store) log calls

theorem mem_added {c : Call} {lim : Bool} {key : String} {t : Time} (h : t ∈ added c lim key) :
    t = c.now := by
  unfold added at h
  split at h
  · exact List.mem_singleton.mp h
  · exact absurd h List.not_mem_nil

section Memory

variable {limits : Limits} {store : Dict String (List Time)} {log : List (Call × Bool)} {c : Call}
  {calls : List Call}

/-- In a store in order, a check leaves the times of its key that are not before the cutoff. -/
theorem memoryThin_filter (h : MemoryAgrees limits store log (c :: calls)) (key : String) :
    memoryThin limits store c key = (timesOf store key).filter fun t =>
      !(key == c.key) || decide (c.now - limits.window c.key ≤ t) := by
  unfold memoryThin
  by_cases hk : key = c.key
  · rw [if_pos hk, popExpired_sorted (h.sorted key)]
    simp [hk]
  · rw [if_neg hk, beq_false_of_ne hk]
    exact (List.filter_eq_self.mpr fun _ _ => rfl).symm

/-- What it drops no call from then on counts. -/
theorem memoryThin_count (h : MemoryAgrees limits store log (c :: calls)) {d : Call}
    (hd : c.now ≤ d.now) (key : String) :
    (memoryThin limits store c key).countP (fun t => decide (d.now - limits.window key ≤ t)) =
      (timesOf store key).countP (fun t => decide (d.now - limits.window key ≤ t)) := by
  rw [memoryThin_filter h key]
  refine countP_filter_of_imp fun t ht => ?_
  rw [Bool.or_eq_true, decide_eq_true_eq]
  by_cases hk : key = c.key
  · right
    rw [hk, decide_eq_true_eq] at ht
    exact le_trans (Int.sub_le_sub_right hd _) ht
  · left
    simp [hk]

/-- **One call in memory**: the answer of the window, and the store agrees with the log again. -/
theorem MemoryAgrees.step (h : MemoryAgrees limits store log (c :: calls)) :
    (memoryCheck limits store c).1 = limited limits log c ∧
      MemoryAgrees limits (memoryCheck limits store c).2 ((c, limited limits log c) :: log)
        calls := by
  obtain ⟨hanswer, htimes⟩ := memoryCheck_spec limits store c
  obtain ⟨hlater, hchron⟩ := List.pairwise_cons.mp h.chronological
  have hmem : ∀ key, ∀ t ∈ memoryThin limits store c key, t ∈ timesOf store key := by
    intro key t ht
    rw [memoryThin_filter h key] at ht
    exact (List.mem_filter.mp ht).1
  have hleft : ∀ t ∈ memoryThin limits store c c.key, c.now - limits.window c.key ≤ t := by
    intro t ht
    rw [memoryThin_filter h c.key] at ht
    simpa using (List.mem_filter.mp ht).2
  have hlim : (memoryCheck limits store c).1 = limited limits log c := by
    rw [hanswer]
    exact h.keeps.answer hleft (memoryThin_count h (le_refl _) c.key)
  rw [hlim] at htimes
  refine ⟨hlim, hchron, fun key => ?_, fun key t ht d hd => ?_, ?_⟩
  · rw [htimes key, List.pairwise_append]
    refine ⟨?_, ?_, fun t ht u hu => ?_⟩
    · rw [memoryThin_filter h key]
      exact (h.sorted key).filter _
    · unfold added
      split
      · exact List.pairwise_singleton _ _
      · exact List.Pairwise.nil
    · rw [mem_added hu]
      exact h.past key t (hmem key t ht) c (List.mem_cons_self ..)
  · rw [htimes key] at ht
    rcases List.mem_append.mp ht with ht | ht
    · exact h.past key t (hmem key t ht) d (List.mem_cons_of_mem _ hd)
    · rw [mem_added ht]
      exact hlater d hd
  · have hfun : timesOf (memoryCheck limits store c).2 =
        fun key => memoryThin limits store c key ++ added c (limited limits log c) key :=
      funext htimes
    rw [hfun]
    exact h.keeps.step _ fun d hd key => memoryThin_count h (hlater d hd) key

end Memory

/-- **The store in memory is the window**: on calls in order of time it gives the same answers. -/
theorem memory_window (limits : Limits) {calls : List Call} (h : Chronological calls) :
    answers (memoryCheck limits) Dict.empty calls =
      answers (byRule (limited limits)) [] calls := by
  refine answers_eq_of_sim (MemoryAgrees limits) (fun _ _ _ _ hs => hs.step) ?_
  exact ⟨h, fun _ => List.Pairwise.nil, fun _ t ht => absurd ht List.not_mem_nil,
    fun _ _ _ => rfl⟩

/-! ## 7. The store in SQLite -/

/-- The times of a key in a list of rows. -/
def timesIn (rows : List (String × Time)) (key : String) : List Time :=
  (rows.filter fun r => r.1 == key).map Prod.snd

theorem timesIn_filter (rows : List (String × Time)) (p : String × Time → Bool) (key : String) :
    timesIn (rows.filter p) key = (timesIn rows key).filter fun t => p (key, t) := by
  unfold timesIn
  rw [List.filter_map, List.filter_filter, List.filter_filter]
  congr 1
  refine List.filter_congr fun r _ => ?_
  by_cases hk : r.1 = key
  · subst hk
    simp
  · rw [beq_false_of_ne hk, Bool.false_and, Bool.and_false]

theorem countP_key (rows : List (String × Time)) (key : String) :
    rows.countP (fun r => r.1 == key) = (timesIn rows key).length := by
  rw [timesIn, List.length_map, List.countP_eq_length_filter]

/-- What a sweep leaves. -/
def sweptAway (store : SqliteStore) (c : Call) (t : Time) : Bool :=
  !decide (c.now - store.lastSweep < sweepInterval) && c.sweeps && decide (t < c.now - maxAge)

/-- What a check leaves of a key before it adds the call. -/
def sqliteThin (limits : Limits) (store : SqliteStore) (c : Call) (key : String) : List Time :=
  (timesIn store.rows key).filter fun t =>
    !(key == c.key && decide (t < c.now - limits.window c.key)) && !sweptAway store c t

theorem sweepIfDue_rows (store : SqliteStore) (c : Call) :
    (sweepIfDue store c).rows = store.rows.filter fun r => !sweptAway store c r.2 := by
  unfold sweepIfDue sweptAway
  by_cases hdue : c.now - store.lastSweep < sweepInterval
  · simp [hdue]
  · cases c.sweeps <;> simp [hdue]

/-- **What a check in SQLite answers, and what it leaves of each key.** -/
theorem sqliteCheck_spec (limits : Limits) (store : SqliteStore) (c : Call) :
    (sqliteCheck limits store c).1 =
      decide (limits.maxReq c.key ≤ (sqliteThin limits store c c.key).length) ∧
    ∀ key, timesIn (sqliteCheck limits store c).2.rows key =
      sqliteThin limits store c key ++ added c (sqliteCheck limits store c).1 key := by
  have hthin : ∀ key, timesIn ((sweepIfDue store c).rows.filter fun r =>
      !(r.1 == c.key && decide (r.2 < c.now - limits.window c.key))) key =
        sqliteThin limits store c key := by
    intro key
    rw [timesIn_filter, sweepIfDue_rows, timesIn_filter, List.filter_filter]
    rfl
  unfold sqliteCheck
  simp only [countP_key, hthin]
  split
  · rename_i hlim
    refine ⟨(decide_eq_true hlim).symm, fun key => ?_⟩
    rw [hthin key]
    simp [added, allowed]
  · rename_i hlim
    refine ⟨(decide_eq_false hlim).symm, fun key => ?_⟩
    show timesIn (_ ++ [(c.key, c.now)]) key = _
    rw [← hthin key, timesIn, timesIn, List.filter_append, List.map_append]
    congr 1
    by_cases hk : c.key = key <;> simp [added, allowed, hk]

/-- **The store in SQLite against the log.** -/
structure SqliteAgrees (limits : Limits) (store : SqliteStore) (log : List (Call × Bool))
    (calls : List Call) : Prop where
  chronological : Chronological calls
  keeps : Keeps limits (timesIn store.rows) log calls

section Sqlite

variable {limits : Limits} {store : SqliteStore} {log : List (Call × Bool)} {c : Call}
  {calls : List Call}

/-- What a check drops no call from then on counts: its own key's rows are before its cutoff, and
    a sweep's are older than any window. -/
theorem sqliteThin_count (hwindow : ∀ key, limits.window key ≤ maxAge) {d : Call}
    (hd : c.now ≤ d.now) (key : String) :
    (sqliteThin limits store c key).countP (fun t => decide (d.now - limits.window key ≤ t)) =
      (timesIn store.rows key).countP (fun t => decide (d.now - limits.window key ≤ t)) := by
  refine countP_filter_of_imp fun t ht => ?_
  have hcut : c.now - limits.window key ≤ t :=
    le_trans (Int.sub_le_sub_right hd _) (of_decide_eq_true ht)
  have hage : c.now - maxAge ≤ t := le_trans (Int.sub_le_sub_left (hwindow key) _) hcut
  by_cases hk : key = c.key
  · subst hk
    simp [sweptAway, not_lt.mpr hcut, not_lt.mpr hage]
  · simp [sweptAway, hk, not_lt.mpr hage]

/-- **One call in SQLite**: the answer of the window, and the store agrees with the log again. -/
theorem SqliteAgrees.step (hwindow : ∀ key, limits.window key ≤ maxAge)
    (h : SqliteAgrees limits store log (c :: calls)) :
    (sqliteCheck limits store c).1 = limited limits log c ∧
      SqliteAgrees limits (sqliteCheck limits store c).2 ((c, limited limits log c) :: log)
        calls := by
  obtain ⟨hanswer, htimes⟩ := sqliteCheck_spec limits store c
  obtain ⟨hlater, hchron⟩ := List.pairwise_cons.mp h.chronological
  have hleft : ∀ t ∈ sqliteThin limits store c c.key, c.now - limits.window c.key ≤ t := by
    intro t ht
    have hp := (List.mem_filter.mp ht).2
    simp only [beq_self_eq_true, Bool.true_and, Bool.and_eq_true, Bool.not_eq_true',
      decide_eq_false_iff_not, not_lt] at hp
    exact hp.1
  have hlim : (sqliteCheck limits store c).1 = limited limits log c := by
    rw [hanswer]
    exact h.keeps.answer hleft (sqliteThin_count hwindow (le_refl _) c.key)
  rw [hlim] at htimes
  have hfun : timesIn (sqliteCheck limits store c).2.rows =
      fun key => sqliteThin limits store c key ++ added c (limited limits log c) key :=
    funext htimes
  refine ⟨hlim, hchron, ?_⟩
  rw [hfun]
  exact h.keeps.step _ fun d hd key => sqliteThin_count hwindow (hlater d hd) key

end Sqlite

/-- **The store in SQLite is the window**, sweeps or no sweeps, where no window is longer than
    `MAX_AGE`. -/
theorem sqlite_window (limits : Limits) (hwindow : ∀ key, limits.window key ≤ maxAge)
    {calls : List Call} (h : Chronological calls) :
    answers (sqliteCheck limits) SqliteStore.new calls =
      answers (byRule (limited limits)) [] calls :=
  answers_eq_of_sim (SqliteAgrees limits) (fun _ _ _ _ hs => hs.step hwindow)
    ⟨h, fun _ _ _ => rfl⟩

/-! ## 8. Both stores -/

/-- **The stores implement the sliding window**: on calls in order of time both answer as the
    window does, so that no closed window holds more than `max_req` allowed calls for a key. -/
theorem stores_slide (limits : Limits) (hwindow : ∀ key, limits.window key ≤ maxAge)
    (calls : List Call) (h : Chronological calls) :
    answers (memoryCheck limits) Dict.empty calls = answers (byRule (limited limits)) [] calls ∧
    answers (sqliteCheck limits) SqliteStore.new calls =
      answers (byRule (limited limits)) [] calls ∧
    ∀ key a, allowedWithin key a (a + limits.window key)
      (record calls (answers (memoryCheck limits) Dict.empty calls)) ≤ limits.maxReq key := by
  have hmem := memory_window limits h
  have hbound : ∀ key a, allowedWithin key a (a + limits.window key)
      (record calls (answers (byRule (limited limits)) [] calls) ++ []) ≤ limits.maxReq key :=
    record_invariant (I := fun log => ∀ key a,
        allowedWithin key a (a + limits.window key) log ≤ limits.maxReq key)
      (fun _ _ hlog => window_bound limits hlog) fun _ _ => Nat.zero_le _
  rw [List.append_nil, ← hmem] at hbound
  exact ⟨hmem, sqlite_window limits hwindow h, hbound⟩

/-- One request a minute for each key. -/
def oneAMinute : Limits := ⟨fun _ => 1, fun _ => seconds 60⟩

/-- Two keys; the second call for `a` is at the very end of the window of the first. -/
def callsAtTheEdge : List Call :=
  [⟨"a", seconds 1000, true⟩, ⟨"b", seconds 1030, true⟩, ⟨"a", seconds 1060, true⟩,
    ⟨"a", seconds 1060 + 1, true⟩]

theorem stores_slide_small :
    answers (memoryCheck oneAMinute) Dict.empty callsAtTheEdge = [false, false, true, false] ∧
    answers (sqliteCheck oneAMinute) SqliteStore.new callsAtTheEdge =
      [false, false, true, false] := by
  have hwindow : answers (byRule (limited oneAMinute)) [] callsAtTheEdge =
      [false, false, true, false] := by decide
  have hage : seconds 60 ≤ maxAge := by decide
  obtain ⟨hmem, hsql, -⟩ := stores_slide oneAMinute (fun _ => hage) callsAtTheEdge
    (by unfold Chronological; decide)
  exact ⟨hmem.trans hwindow, hsql.trans hwindow⟩

end RetroBridge.Security
