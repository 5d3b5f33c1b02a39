/-
  File:      RetroBridge/Auth/Throttle.lean
  Subject:   THE BRUTE-FORCE BOUND (retrobridge/auth/routes.py: `login`): how many wrong passwords
             are checked against one username.

  * `BruteForceBound` -- no window without a right password holds more than `MAX_FAILED_ATTEMPTS`
    wrong ones;
  * `inBudget` -- the steps that let a request past the throttle only while the recorded failures
    and the requests on their way to a record leave room for it, and that clear the failures of an
    address only where it has sent no wrong password since the right one;
  * `Tallied` -- the invariant: every wrong check is recorded or owed, and the checks of the window
    with the waiting requests stay within the limit;
  * `logins_run` -- **in a run of such steps the bound holds at all times**;
  * `six_wrong_passwords` -- six requests are counted before the first of them is recorded;
    `cleared_late` -- the failures of five go with those that a login clears.
-/
import RetroBridge.Auth.Login

namespace RetroBridge.Auth

open Ordered Transition Windowed

/-! ## 1. The property -/

/-- **The bound**: a window of `THROTTLE_WINDOW_MINUTES` in which no right password was checked for
    a username holds at most `MAX_FAILED_ATTEMPTS` wrong ones for it. -/
def BruteForceBound (s : Logins) : Prop :=
  ∀ u a, (∀ c ∈ s.checks, c.rightFor u = true → ¬(a ≤ c.time ∧ c.time ≤ a + throttleWindow)) →
    s.wrongChecks u a (a + throttleWindow) ≤ maxFailedAttempts

/-- No wrong password for a username has been checked from an address after its last right one. -/
def Logins.quiet (s : Logins) (ip username : String) : Bool :=
  (s.checks.takeWhile fun c => !c.rightFor username).all fun c =>
    !(c.ipAddress == ip && c.wrongFor username)

/-- A request passes the throttle only where the failures since its cutoff, the wrong passwords not
    yet recorded and the requests that wait for their check leave room for one more; the failures
    of an address are cleared only where it sent no wrong password after the right one. -/
def inBudget (s : Logins) : Time × LoginAct → Bool
  | (_, .go r) =>
    match s.requests.get? r with
    | some (.paired _ u _ cutoff) =>
      decide (maxFailedAttempts ≤ s.usernameCount u cutoff) ||
        decide (s.usernameCount u cutoff + s.owed anywhere u + s.waiting u < maxFailedAttempts)
    | some (.right ip u) => s.quiet ip u
    | _ => true
  | _ => true

/-! ## 2. The invariant -/

/-- **The tally**: the checks are in order and not in the future; no request's cutoff is later than
    the present one; every wrong check since the last right one is recorded or owed, for any set of
    addresses; those of the present window leave room for the requests that wait. -/
structure Tallied (s : Logins) : Prop where
  past : ∀ c ∈ s.checks, c.time ≤ s.clock
  ordered : NewestFirst Check.time s.checks
  cutoffs : ∀ r ph, s.requests.get? r = some ph → ph.notAfter s.cutoff
  recorded : ∀ origin u a, s.recent origin u a ≤ s.failures origin u a + s.owed origin u
  budget : ∀ u, s.recent anywhere u s.cutoff + s.waiting u ≤ maxFailedAttempts

section Steps

variable {checkPasswordHash : String → String → Bool} {s s' : Logins} {r : Nat}
  {ip u password : String} {a now : Time} {ph : LoginPhase} {o : Option LoginPhase}

theorem tallied_start (clock : Time) (hashes : Dict String String) (attempts : List LoginAttempt) :
    Tallied (Logins.start clock hashes attempts) where
  past := fun _ hc => absurd hc List.not_mem_nil
  ordered := List.Pairwise.nil
  cutoffs := by
    intro r ph hr
    cases hr
  recorded := fun _ _ _ => Nat.zero_le _
  budget := fun _ => Nat.zero_le _

/-- **The window of the present** holds no more wrong checks than the limit. -/
theorem Tallied.window (h : Tallied s) (hb : s.clock ≤ a + throttleWindow)
    (hright : ∀ c ∈ s.checks, c.rightFor u = true →
      ¬(a ≤ c.time ∧ c.time ≤ a + throttleWindow)) :
    s.wrongChecks u a (a + throttleWindow) ≤ maxFailedAttempts := by
  have hend : ∀ c ∈ s.checks, c.time ≤ a + throttleWindow :=
    fun c hc => le_trans (h.past c hc) hb
  have hreset : ∀ c ∈ s.checks, c.rightFor u = true → c.time < a := fun c hc hr =>
    not_le.mp fun hle => hright c hc hr ⟨hle, hend c hc⟩
  have hcut : s.cutoff ≤ a := Int.sub_right_le_of_le_add hb
  have hbudget := h.budget u
  calc s.wrongChecks u a (a + throttleWindow)
      ≤ s.recent anywhere u a := within_le_streak h.ordered hend hreset
    _ ≤ s.recent anywhere u s.cutoff := streak_anti hcut
    _ ≤ maxFailedAttempts := by omega

/-- Time passes. -/
theorem Tallied.tick (h : Tallied s) (hnow : s.clock ≤ now) : Tallied { s with clock := now } := by
  have hcut : s.cutoff ≤ ({ s with clock := now } : Logins).cutoff := Int.sub_le_sub_right hnow _
  refine ⟨fun c hc => le_trans (h.past c hc) hnow, h.ordered, fun r ph hr => ?_, h.recorded,
    fun u => ?_⟩
  · exact LoginPhase.notAfter_mono (h.cutoffs r ph hr) hcut
  · have hle : ({ s with clock := now } : Logins).recent anywhere u
        ({ s with clock := now } : Logins).cutoff ≤ s.recent anywhere u s.cutoff := streak_anti hcut
    exact le_trans (Nat.add_le_add_right hle _) (h.budget u)

/-- **A request takes a phase**, where the counts allow for what the phase owes and waits for. -/
theorem tallied_put (hpast : ∀ c ∈ s.checks, c.time ≤ s.clock)
    (hordered : NewestFirst Check.time s.checks)
    (hcutoffs : ∀ r ph, s.requests.get? r = some ph → ph.notAfter s.cutoff)
    (ho : s.requests.get? r = o) (hcut : ph.notAfter s.cutoff)
    (hrecorded : ∀ origin u a, s.recent origin u a + (o.any (LoginPhase.owes origin u)).toNat ≤
      s.failures origin u a + s.owed origin u + (ph.owes origin u).toNat)
    (hbudget : ∀ u, s.recent anywhere u s.cutoff + s.waiting u + (ph.waits u).toNat ≤
      maxFailedAttempts + (o.any (LoginPhase.waits u)).toNat) : Tallied (s.put r ph) where
  past := hpast
  ordered := hordered
  cutoffs := by
    intro r' ph' hr
    rw [Logins.put, Dict.get?_set] at hr
    split at hr
    · cases hr
      exact hcut
    · exact hcutoffs r' ph' hr
  recorded := by
    intro origin u a
    have hle := hrecorded origin u a
    have howed := Logins.owed_put ph ho origin u
    show s.recent origin u a ≤ s.failures origin u a + (s.put r ph).owed origin u
    omega
  budget := by
    intro u
    have hle := hbudget u
    have hwaiting := Logins.waiting_put ph ho u
    show s.recent anywhere u s.cutoff + (s.put r ph).waiting u ≤ maxFailedAttempts
    omega

/-- A phase that neither waits nor owes, after one that owes nothing. -/
theorem Tallied.put_idle (h : Tallied s) (ho : s.requests.get? r = o)
    (hcut : ph.notAfter s.cutoff) (howes : ∀ origin u, o.any (LoginPhase.owes origin u) = false)
    (hwaits : ∀ u, ph.waits u = false) : Tallied (s.put r ph) := by
  refine tallied_put h.past h.ordered h.cutoffs ho hcut (fun origin u a => ?_) (fun u => ?_)
  · rw [howes origin u]
    exact le_trans (h.recorded origin u a) (Nat.le_add_right _ _)
  · rw [hwaits u]
    exact le_trans (h.budget u) (Nat.le_add_right _ _)

/-- **A request passes the throttle** where there is room for it. -/
theorem Tallied.admit {cutoff : Time} (h : Tallied s)
    (ho : s.requests.get? r = some (.paired ip u password cutoff))
    (hroom : s.usernameCount u cutoff + s.owed anywhere u + s.waiting u < maxFailedAttempts) :
    Tallied (s.put r (.admitted ip u password)) := by
  refine tallied_put h.past h.ordered h.cutoffs ho trivial h.recorded (fun v => ?_)
  show s.recent anywhere v s.cutoff + s.waiting v + (u == v).toNat ≤ maxFailedAttempts
  by_cases hv : u = v
  · subst hv
    have hanti : s.recent anywhere u s.cutoff ≤ s.recent anywhere u cutoff :=
      streak_anti (h.cutoffs r _ ho)
    have hrec := h.recorded anywhere u cutoff
    rw [Logins.failures_anywhere] at hrec
    rw [beq_self_eq_true, Bool.toNat_true]
    omega
  · rw [beq_false_of_ne hv]
    exact h.budget v

/-- The user is looked up: the request goes on waiting. -/
theorem Tallied.lookUp {hash : Option String} (h : Tallied s)
    (ho : s.requests.get? r = some (.admitted ip u password)) :
    Tallied (s.put r (.hashing ip u password hash)) :=
  tallied_put h.past h.ordered h.cutoffs ho trivial h.recorded fun v =>
    Nat.add_le_add_right (h.budget v) (u == v).toNat

/-- **A password check answers.** -/
theorem Tallied.check {hash : Option String} {right : Bool} (h : Tallied s)
    (ho : s.requests.get? r = some (.hashing ip u password hash)) :
    Tallied ((s.checked ip u right).put r (if right then .right ip u else .wrong ip u)) := by
  have howes : ∀ origin v, (if right then LoginPhase.right ip u else .wrong ip u).owes origin v =
      (origin ip && (u == v && !right)) := by
    intro origin v
    cases right
    · rw [Bool.not_false, Bool.and_true]
      rfl
    · rw [Bool.not_true, Bool.and_false, Bool.and_false]
      rfl
  have hwaits : ∀ v, (if right then LoginPhase.right ip u else .wrong ip u).waits v = false := by
    intro v
    cases right <;> rfl
  have hcut : (if right then LoginPhase.right ip u else .wrong ip u).notAfter s.cutoff := by
    cases right <;> trivial
  have hpast : ∀ c ∈ (s.checked ip u right).checks, c.time ≤ s.clock := by
    intro c hc
    rcases List.mem_cons.mp hc with rfl | hc
    · exact le_refl s.clock
    · exact h.past c hc
  have hordered : NewestFirst Check.time (s.checked ip u right).checks :=
    List.pairwise_cons.mpr ⟨h.past, h.ordered⟩
  have ho' : (s.checked ip u right).requests.get? r = some (.hashing ip u password hash) := ho
  refine tallied_put hpast hordered h.cutoffs ho' hcut (fun origin v a => ?_) (fun v => ?_)
  · -- a wrong check is owed from now on
    have hrecent := Logins.recent_checked (s := s) origin ip u v right a
    have hle := h.recorded origin v a
    rw [howes origin v]
    show (s.checked ip u right).recent origin v a + 0 ≤ s.failures origin v a + s.owed origin v + _
    omega
  · -- the request waited, and its check takes its place
    have hrecent := Logins.recent_checked (s := s) anywhere ip u v right s.cutoff
    have hle := h.budget v
    have hplace : (anywhere ip && (u == v && !right)).toNat ≤ (u == v).toNat := by
      rw [anywhere, Bool.true_and]
      cases u == v <;> cases right <;> decide
    rw [hwaits v]
    show (s.checked ip u right).recent anywhere v s.cutoff + s.waiting v + 0 ≤
      maxFailedAttempts + (u == v).toNat
    omega

/-- **A wrong password is recorded.** -/
theorem Tallied.record (h : Tallied s) (ho : s.requests.get? r = some (.wrong ip u)) :
    Tallied ((s.recordAttempt ip u false).put r .invalid) := by
  have ho' : (s.recordAttempt ip u false).requests.get? r = some (.wrong ip u) := ho
  refine tallied_put h.past h.ordered h.cutoffs ho' trivial (fun origin v a => ?_) fun v =>
    le_trans (h.budget v) (Nat.le_add_right _ _)
  have hcount := Logins.failures_record (s := s) origin ip u v false a
  have hle := h.recorded origin v a
  show s.recent origin v a + (origin ip && u == v).toNat ≤
    (s.recordAttempt ip u false).failures origin v a + s.owed origin v + 0
  by_cases ha : a ≤ s.clock
  · rw [decide_eq_true ha, Bool.and_true, Bool.not_false, Bool.and_true] at hcount
    omega
  · -- nothing has been checked since a time in the future
    have hnone : s.recent origin v a = 0 :=
      streak_late fun c hc => lt_of_le_of_lt (h.past c hc) (not_le.mp ha)
    have howed : (s.put r .invalid).owed origin v + (origin ip && u == v).toNat =
        s.owed origin v + 0 := Logins.owed_put .invalid ho origin v
    omega

/-- An address that is quiet adds nothing to what is recent. -/
theorem recent_quiet (hquiet : s.quiet ip u = true) (origin : String → Bool) (a : Time) :
    s.recent origin u a = s.recent (except origin ip) u a := by
  refine streak_congr fun c hc => ?_
  have hc' := List.all_eq_true.mp hquiet c hc
  unfold Check.wrongFrom except
  cases hw : c.wrongFor u with
  | false => rw [Bool.and_false, Bool.and_false]
  | true =>
      rw [hw, Bool.and_true, Bool.not_eq_true', beq_eq_false_iff_ne] at hc'
      rw [bne_iff_ne.mpr hc', Bool.and_true, Bool.and_true]

/-- **Failures are cleared** where the address is quiet. -/
theorem Tallied.clear (h : Tallied s) (hquiet : s.quiet ip u = true) :
    Tallied (s.clearFailedAttempts u ip) where
  past := h.past
  ordered := h.ordered
  cutoffs := h.cutoffs
  recorded := by
    intro origin v a
    show s.recent origin v a ≤ _ + s.owed origin v
    by_cases hv : u = v
    · subst hv
      have hkept := Logins.failures_clear (s := s) origin u ip a
      have howed := Logins.owed_except (s := s) origin ip u
      calc s.recent origin u a
          = s.recent (except origin ip) u a := recent_quiet hquiet origin a
        _ ≤ s.failures (except origin ip) u a + s.owed (except origin ip) u :=
            h.recorded (except origin ip) u a
        _ ≤ (s.clearFailedAttempts u ip).failures origin u a + s.owed origin u :=
            Nat.add_le_add hkept howed
    · exact le_trans (h.recorded origin v a)
        (Nat.add_le_add_right (Logins.failures_clear_other origin ip hv a) _)
  budget := h.budget

/-- A success counts for nothing. -/
theorem Tallied.succeed (h : Tallied s) : Tallied (s.recordAttempt ip u true) where
  past := h.past
  ordered := h.ordered
  cutoffs := h.cutoffs
  recorded := by
    intro origin v a
    have hcount := Logins.failures_record (s := s) origin ip u v true a
    have hrecorded := h.recorded origin v a
    show s.recent origin v a ≤ (s.recordAttempt ip u true).failures origin v a + s.owed origin v
    omega
  budget := h.budget

/-! ## 3. Runs -/

/-- **One statement of a request.** -/
theorem Tallied.advance (now : Time) (h : Tallied s) (ho : s.requests.get? r = some ph)
    (hok : inBudget s (now, .go r) = true) (hs : s.advance checkPasswordHash r ph = some s') :
    Tallied s' := by
  simp only [inBudget] at hok
  rw [ho] at hok
  cases ph with
  | paired ip u password cutoff =>
      cases hs
      split
      · exact h.put_idle ho trivial (fun _ _ => rfl) fun _ => rfl
      · rename_i hfull
        simp only [hfull, decide_false, Bool.false_or, decide_eq_true_eq] at hok
        exact h.admit ho hok
  | admitted ip u password =>
      cases hs
      exact h.lookUp ho
  | hashing ip u password hash =>
      cases hs
      exact h.check ho
  | wrong ip u =>
      cases hs
      exact h.record ho
  | right ip u =>
      cases hs
      exact (h.clear hok).put_idle (o := some (.right ip u)) ho trivial (fun _ _ => rfl)
        fun _ => rfl
  | cleared ip u =>
      cases hs
      exact h.succeed.put_idle (o := some (.cleared ip u)) ho trivial (fun _ _ => rfl) fun _ => rfl
  | answered => cases hs

/-- **One step** within the budget. -/
theorem tallied_step {l : Time × LoginAct} (h : Tallied s) (hok : inBudget s l = true)
    (hs : LoginStep checkPasswordHash s l s') : Tallied s' := by
  obtain ⟨now, act⟩ := l
  unfold LoginStep Logins.exec at hs
  split at hs
  · rename_i hnow
    have ht := h.tick hnow
    cases act with
    | post r ip u password =>
        simp only [Logins.act] at hs
        split at hs
        · cases hs
        · rename_i hfree
          cases hs
          have hnone : s.requests.get? r = none := by simpa using hfree
          refine ht.put_idle (o := none) hnone ?_ (fun _ _ => rfl) ?_
          · split
            · trivial
            · exact le_refl _
          · intro v
            split <;> rfl
    | go r =>
        obtain ⟨ph, hph, hadv⟩ := Option.bind_eq_some_iff.mp hs
        exact ht.advance now hph hok hadv
    | account u hash =>
        cases hash <;>
          · cases hs
            exact ⟨ht.past, ht.ordered, ht.cutoffs, ht.recorded, ht.budget⟩
  · cases hs

/-- What a step does to the log of checks. -/
theorem step_checks {l : Time × LoginAct} (hs : LoginStep checkPasswordHash s l s') :
    s'.checks = s.checks ∨ ∃ ip u right, s'.checks = ⟨ip, u, s'.clock, right⟩ :: s.checks := by
  obtain ⟨now, act⟩ := l
  unfold LoginStep Logins.exec at hs
  split at hs
  · cases act with
    | post r ip u password =>
        simp only [Logins.act] at hs
        split at hs
        · cases hs
        · cases hs
          exact .inl rfl
    | go r =>
        obtain ⟨ph, -, hadv⟩ := Option.bind_eq_some_iff.mp hs
        cases ph with
        | hashing ip u password hash =>
            cases hadv
            exact .inr ⟨ip, u, _, rfl⟩
        | answered => cases hadv
        | _ =>
            cases hadv
            exact .inl rfl
    | account u hash =>
        cases hash <;>
          · cases hs
            exact .inl rfl
  · cases hs

/-- **The bound over one step**: a window with a new check in it is one of the present. -/
theorem bound_step {l : Time × LoginAct} (h : BruteForceBound s) (ht : Tallied s')
    (hs : LoginStep checkPasswordHash s l s') : BruteForceBound s' := by
  intro u a hright
  rcases step_checks hs with hsame | ⟨ip, v, right, hnew⟩
  · unfold Logins.wrongChecks
    rw [hsame] at hright ⊢
    exact h u a hright
  · by_cases hpresent : a ≤ s'.clock ∧ s'.clock ≤ a + throttleWindow
    · exact ht.window hpresent.2 hright
    · have hout : (⟨ip, v, s'.clock, right⟩ : Check).time < a ∨
          a + throttleWindow < (⟨ip, v, s'.clock, right⟩ : Check).time := by
        by_cases ha : a ≤ s'.clock
        · exact .inr (not_le.mp fun hb => hpresent ⟨ha, hb⟩)
        · exact .inl (not_le.mp ha)
      unfold Logins.wrongChecks
      rw [hnew] at hright ⊢
      rw [within_cons_outside hout]
      exact h u a fun c hc => hright c (List.mem_cons_of_mem _ hc)

end Steps

/-! ## 4. The bound -/

section Runs

variable {checkPasswordHash : String → String → Bool} {clock : Time} {hashes : Dict String String}
  {attempts : List LoginAttempt}

/-- **THE BRUTE-FORCE BOUND** in every run whose steps are within the budget, on any database and
    whatever the password check answers. -/
theorem logins_run {ls : List (Time × LoginAct)} {s : Logins}
    (h : Run (guarded (LoginStep checkPasswordHash) fun s l => inBudget s l = true)
      (Logins.start clock hashes attempts) ls s) : BruteForceBound s := by
  have hstart : BruteForceBound (Logins.start clock hashes attempts) := fun _ _ _ => Nat.zero_le _
  have hboth : Tallied s ∧ BruteForceBound s :=
    h.invariant (I := fun s => Tallied s ∧ BruteForceBound s)
      ⟨tallied_start clock hashes attempts, hstart⟩ fun _ _ _ hI hs =>
        have ht := tallied_step hI.1 hs.1 hs.2
        ⟨ht, bound_step hI.2 ht hs.2⟩
  exact hboth.2

end Runs

/-! ## 5. Runs on one account -/

/-- The account `ann` with the password `pw`, under a check that compares. -/
def annOnly : Logins := Logins.start 0 (Dict.empty.set "ann" "pw") []

def compares (hash password : String) : Bool := hash == password

/-- A request for `ann` up to its password check. -/
def asks (now : Time) (r : Nat) (password : String) : List (Time × LoginAct) :=
  [(now, .post r "127.0.0.1" "ann" password), (now, .go r), (now, .go r)]

/-- Each of these requests takes its next statement. -/
def goes (now : Time) (rs : List Nat) : List (Time × LoginAct) := rs.map fun r => (now, .go r)

/-- Two requests with wrong passwords overlap; a third logs in. -/
theorem logins_run_small : ∃ ls s,
    Run (guarded (LoginStep compares) fun s l => inBudget s l = true) annOnly ls s ∧
      s.wrongChecks "ann" 0 throttleWindow = 2 ∧ BruteForceBound s := by
  have h : (execAll (execWhen inBudget (Logins.exec compares)) annOnly
      (asks 0 1 "no" ++ asks 0 2 "no" ++ goes 1 [1, 2, 1, 2] ++ asks 1 3 "pw" ++
        goes 2 [3, 3, 3])).any
      (fun s => s.wrongChecks "ann" 0 throttleWindow == 2) = true := by decide
  obtain ⟨s, hr, hp⟩ := exists_guarded_run (fun s l (hok : inBudget s l = true) => hok) h
  exact ⟨_, s, hr, by simpa using hp, logins_run hr⟩

/-- Six wrong passwords for `ann` since a time, and no right one since then. -/
def sixWrong (a : Time) (s : Logins) : Bool :=
  s.wrongChecks "ann" a (a + throttleWindow) == 6 &&
    s.checks.all fun c => !(c.rightFor "ann" && decide (a ≤ c.time))

theorem not_bound_of {a : Time} {s : Logins} (h : sixWrong a s = true) : ¬BruteForceBound s := by
  intro hbound
  simp only [sixWrong, Bool.and_eq_true, beq_iff_eq, List.all_eq_true, Bool.not_eq_true'] at h
  have hle := hbound "ann" a fun c hc hright hin => by
    have hno := h.2 c hc
    rw [hright, decide_eq_true hin.1] at hno
    cases hno
  rw [h.1] at hle
  exact absurd hle (by decide)

/-- **Six wrong passwords in one window**: each request is counted while the others' failures are
    not yet recorded. -/
theorem six_wrong_passwords : ∃ ls s, Run (LoginStep compares) annOnly ls s ∧
    ¬BruteForceBound s := by
  have h : (execAll (Logins.exec compares) annOnly
      ([1, 2, 3, 4, 5, 6].flatMap (fun r => asks 0 r "no") ++ goes 1 [1, 2, 3, 4, 5, 6])).any
      (sixWrong 0) = true := by decide
  obtain ⟨s, hr, hp⟩ := exists_run_of_execAll h
  exact ⟨_, s, hr, not_bound_of hp⟩

/-- **A login that clears late**: the failures that came after its right password go with those
    before it, although each request passed the throttle with room for it. -/
theorem cleared_late : ∃ ls s, Run (LoginStep compares) annOnly ls s ∧ ¬BruteForceBound s := by
  have h : (execAll (Logins.exec compares) annOnly
      (asks 0 1 "pw" ++ goes 0 [1] ++
        [2, 3, 4, 5, 6].flatMap (fun r => asks 1 r "no" ++ goes 1 [r, r]) ++
        goes 1 [1] ++ asks 1 7 "no" ++ goes 1 [7])).any (sixWrong 1) = true := by decide
  obtain ⟨s, hr, hp⟩ := exists_run_of_execAll h
  exact ⟨_, s, hr, not_bound_of hp⟩

end RetroBridge.Auth
