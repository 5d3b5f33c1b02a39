/-
  File:      RetroBridge/Auth/Login.lean
  Subject:   LOGIN (retrobridge/auth/routes.py: `login`, `_is_throttled`, `_record_attempt`,
             `_clear_failed_attempts`), any number of requests at once.

  * `LoginAttempt`, `ipPairCount`, `usernameCount` -- the rows the throttle counts;
  * `LoginPhase` -- a request between two of its statements on the database, or between one and
    the password check;
  * `Logins` -- the rows, the requests, and the log of password checks with their answers;
  * `advance`, `exec`, `LoginStep` -- one statement of a request, one step of the system;
  * `throttle_uninterrupted` -- the throttle's two counts, with nothing between them, are
    `_is_throttled`.

  `checkPasswordHash` is werkzeug's, and may be any function. A username that no user has fails the
  check as a wrong password does.
-/
import RetroBridge.Models
import RetroBridge.Library.Dict
import RetroBridge.Library.Run
import RetroBridge.Library.Window

namespace RetroBridge.Auth

open Ordered Transition Windowed

/-! ## 1. Attempts -/

/-- `MAX_FAILED_ATTEMPTS`. -/
def maxFailedAttempts : Nat := 5

/-- `THROTTLE_WINDOW_MINUTES`. -/
def throttleWindowMinutes : Nat := 15

/-- `timedelta(minutes=THROTTLE_WINDOW_MINUTES)`. -/
def throttleWindow : Time := seconds (60 * throttleWindowMinutes)

/-- A row of `login_attempts`. -/
structure LoginAttempt where
  ipAddress : String
  username : String
  success : Bool
  attemptedAt : Time

/-- A failure on a username since a time, from anywhere. -/
def LoginAttempt.isFailure (username : String) (cutoff : Time) (a : LoginAttempt) : Bool :=
  a.username == username && !a.success && decide (cutoff ≤ a.attemptedAt)

/-- The same from one address. -/
def LoginAttempt.isFailureFrom (ip username : String) (cutoff : Time) (a : LoginAttempt) : Bool :=
  a.ipAddress == ip && a.isFailure username cutoff

/-- A password check: where it is from, the username it is for, when it answered, and what. -/
structure Check where
  ipAddress : String
  username : String
  time : Time
  right : Bool

def Check.rightFor (username : String) (c : Check) : Bool := c.username == username && c.right

def Check.wrongFor (username : String) (c : Check) : Bool := c.username == username && !c.right

/-! ## 2. Requests -/

/-- A login request past its form, by the statement it takes next. -/
inductive LoginPhase where
  /-- The pair is below the limit; the username is counted next, from the same cutoff. -/
  | paired (ip username password : String) (cutoff : Time)
  /-- Not throttled; the user is looked up next. -/
  | admitted (ip username password : String)
  /-- The password is checked next against the hash that was found. -/
  | hashing (ip username password : String) (hash : Option String)
  /-- The failure is recorded next. -/
  | wrong (ip username : String)
  /-- The failures are cleared next. -/
  | right (ip username : String)
  /-- The success is recorded next. -/
  | cleared (ip username : String)
  /-- Done, with the text and the category that were flashed. -/
  | answered (message category : String)

namespace LoginPhase

def tooMany : LoginPhase :=
  .answered ("Too many failed login attempts. Please try again in " ++
    toString throttleWindowMinutes ++ " minutes.") "danger"

def invalid : LoginPhase := .answered "Invalid username or password." "danger"

def loggedIn : LoginPhase := .answered "Logged in successfully." "success"

/-- Past the throttle for `username`, its password not yet checked. -/
def waits (username : String) : LoginPhase → Bool
  | .admitted _ u _ | .hashing _ u _ _ => u == username
  | _ => false

/-- A wrong password for `username` has been checked, from one of the addresses `origin`, and not
    been recorded. -/
def owes (origin : String → Bool) (username : String) : LoginPhase → Bool
  | .wrong ip u => origin ip && u == username
  | _ => false

/-- The cutoff a request has kept, if it has one, is not later than this. -/
def notAfter (t : Time) : LoginPhase → Prop
  | .paired _ _ _ cutoff => cutoff ≤ t
  | _ => True

theorem notAfter_mono {ph : LoginPhase} {t t' : Time} (h : ph.notAfter t) (ht : t ≤ t') :
    ph.notAfter t' := by
  cases ph with
  | paired ip username password cutoff => exact le_trans h ht
  | _ => trivial

end LoginPhase

/-- The rows, the requests by number, and the password checks, the newest first. -/
structure Logins where
  clock : Time
  hashes : Dict String String
  attempts : List LoginAttempt
  requests : Dict Nat LoginPhase
  checks : List Check

/-- An application on a database, before its first request. -/
def Logins.start (clock : Time) (hashes : Dict String String) (attempts : List LoginAttempt) :
    Logins := ⟨clock, hashes, attempts, Dict.empty, []⟩

inductive LoginAct where
  /-- A request passes its form, and its pair of address and username is counted. -/
  | post (r : Nat) (ip username password : String)
  /-- A request takes its next statement. -/
  | go (r : Nat)
  /-- Another route registers a user, changes a password, or deletes the account. -/
  | account (username : String) (hash : Option String)

namespace Logins

variable (checkPasswordHash : String → String → Bool) (s : Logins)

/-- `datetime.now(UTC) - timedelta(minutes=THROTTLE_WINDOW_MINUTES)`. -/
def cutoff : Time := s.clock - throttleWindow

def ipPairCount (ip username : String) (cutoff : Time) : Nat :=
  s.attempts.countP (LoginAttempt.isFailureFrom ip username cutoff)

def usernameCount (username : String) (cutoff : Time) : Nat :=
  s.attempts.countP (LoginAttempt.isFailure username cutoff)

def put (r : Nat) (ph : LoginPhase) : Logins := { s with requests := s.requests.set r ph }

/-- `_record_attempt`. -/
def recordAttempt (ip username : String) (success : Bool) : Logins :=
  { s with attempts := s.attempts ++ [⟨ip, username, success, s.clock⟩] }

/-- `_clear_failed_attempts`. -/
def clearFailedAttempts (username ip : String) : Logins :=
  { s with attempts := s.attempts.filter fun a => !a.isFailureFrom ip username s.cutoff }

/-- A password check that has answered. -/
def checked (ip username : String) (right : Bool) : Logins :=
  { s with checks := ⟨ip, username, s.clock, right⟩ :: s.checks }

/-- **The next statement of a request**: the second half of `_is_throttled`, the user's row, the
    password check, then the failure, or the clearing and the success. -/
def advance (r : Nat) : LoginPhase → Option Logins
  | .paired ip username password cutoff =>
    some (s.put r (if maxFailedAttempts ≤ s.usernameCount username cutoff then .tooMany
      else .admitted ip username password))
  | .admitted ip username password =>
    some (s.put r (.hashing ip username password (s.hashes.get? username)))
  | .hashing ip username password hash =>
    let right := hash.any fun h => checkPasswordHash h password
    some ((s.checked ip username right).put r (if right then .right ip username
      else .wrong ip username))
  | .wrong ip username => some ((s.recordAttempt ip username false).put r .invalid)
  | .right ip username => some ((s.clearFailedAttempts username ip).put r (.cleared ip username))
  | .cleared ip username => some ((s.recordAttempt ip username true).put r .loggedIn)
  | .answered _ _ => none

def act : LoginAct → Option Logins
  | .post r ip username password =>
    if (s.requests.get? r).isSome then none
    else some (s.put r (if maxFailedAttempts ≤ s.ipPairCount ip username s.cutoff then .tooMany
      else .paired ip username password s.cutoff))
  | .go r => (s.requests.get? r).bind (s.advance checkPasswordHash r)
  | .account username (some hash) => some { s with hashes := s.hashes.set username hash }
  | .account username none => some { s with hashes := s.hashes.erase username }

/-- An act at a time. -/
def exec (l : Time × LoginAct) : Option Logins :=
  if s.clock ≤ l.1 then { s with clock := l.1 }.act checkPasswordHash l.2 else none

/-- `_is_throttled`, without a step of another request in between. -/
def isThrottled (ip username : String) : Bool :=
  if maxFailedAttempts ≤ s.ipPairCount ip username s.cutoff then true
  else decide (maxFailedAttempts ≤ s.usernameCount username s.cutoff)

end Logins

/-- **A step**: an act of a request, or of another route, no earlier than the one before it. -/
def LoginStep (checkPasswordHash : String → String → Bool) (s : Logins) (l : Time × LoginAct)
    (s' : Logins) : Prop := s.exec checkPasswordHash l = some s'

/-! ## 3. Counts -/

/-- Every address. -/
def anywhere (_ip : String) : Bool := true

/-- These addresses without one. -/
def except (origin : String → Bool) (ip : String) (ip' : String) : Bool := origin ip' && ip' != ip

/-- A wrong password for `username`, from one of the addresses `origin`. -/
def Check.wrongFrom (origin : String → Bool) (username : String) (c : Check) : Bool :=
  origin c.ipAddress && c.wrongFor username

namespace Logins

variable (s : Logins) {r : Nat} {o : Option LoginPhase}

/-- The requests past the throttle for a username, its password not yet checked. -/
def waiting (username : String) : Nat := s.requests.count (LoginPhase.waits username)

/-- The wrong passwords for a username that have been checked and not been recorded. -/
def owed (origin : String → Bool) (username : String) : Nat :=
  s.requests.count (LoginPhase.owes origin username)

/-- The wrong passwords checked for a username since a time, after its last right one. -/
def recent (origin : String → Bool) (username : String) (since : Time) : Nat :=
  streak Check.time (Check.wrongFrom origin username) (Check.rightFor username) since s.checks

/-- The failures on a username since a time. -/
def failures (origin : String → Bool) (username : String) (since : Time) : Nat :=
  s.attempts.countP fun a => origin a.ipAddress && a.isFailure username since

/-- The wrong passwords checked for a username in a window. -/
def wrongChecks (username : String) (a b : Time) : Nat :=
  within Check.time (Check.wrongFor username) a b s.checks

variable {s}

theorem failures_anywhere (u : String) (a : Time) : s.failures anywhere u a = s.usernameCount u a :=
  rfl

theorem waiting_put (ph : LoginPhase) (h : s.requests.get? r = o) (u : String) :
    (s.put r ph).waiting u + (o.any (LoginPhase.waits u)).toNat =
      s.waiting u + (ph.waits u).toNat := by
  subst h
  exact Dict.count_set s.requests r ph (LoginPhase.waits u)

theorem owed_put (ph : LoginPhase) (h : s.requests.get? r = o) (origin : String → Bool)
    (u : String) : (s.put r ph).owed origin u + (o.any (LoginPhase.owes origin u)).toNat =
      s.owed origin u + (ph.owes origin u).toNat := by
  subst h
  exact Dict.count_set s.requests r ph (LoginPhase.owes origin u)

/-- A check adds at most itself to what is recent. -/
theorem recent_checked (origin : String → Bool) (ip u v : String) (right : Bool) (a : Time) :
    (s.checked ip u right).recent origin v a ≤
      s.recent origin v a + (origin ip && (u == v && !right)).toNat := streak_cons_le

/-- A recorded failure counts from any cutoff that is not in the future. -/
theorem failures_record (origin : String → Bool) (ip u v : String) (success : Bool) (a : Time) :
    (s.recordAttempt ip u success).failures origin v a = s.failures origin v a +
      (origin ip && (u == v && !success && decide (a ≤ s.clock))).toNat := by
  unfold failures recordAttempt
  rw [List.countP_append, List.countP_singleton]
  unfold LoginAttempt.isFailure
  cases origin ip && (u == v && !success && decide (a ≤ s.clock)) <;> rfl

/-- Clearing the failures of a pair leaves those of the other usernames. -/
theorem failures_clear_other {u v : String} (origin : String → Bool) (ip : String) (h : u ≠ v)
    (a : Time) :
    s.failures origin v a ≤ (s.clearFailedAttempts u ip).failures origin v a := by
  unfold failures clearFailedAttempts
  rw [List.countP_filter]
  refine List.countP_mono_left fun x _ hx => ?_
  obtain ⟨-, hfailure⟩ := Bool.and_eq_true_iff.mp hx
  have hname : x.username = v := by
    simp only [LoginAttempt.isFailure, Bool.and_eq_true, beq_iff_eq] at hfailure
    exact hfailure.1.1
  have hspared : x.isFailureFrom ip u s.cutoff = false := by
    simp [LoginAttempt.isFailureFrom, LoginAttempt.isFailure, hname, Ne.symm h]
  exact Bool.and_eq_true_iff.mpr ⟨hx, by rw [hspared]; rfl⟩

/-- It leaves those of the username from the other addresses. -/
theorem failures_clear (origin : String → Bool) (u ip : String) (a : Time) :
    s.failures (except origin ip) u a ≤ (s.clearFailedAttempts u ip).failures origin u a := by
  unfold failures clearFailedAttempts
  rw [List.countP_filter]
  refine List.countP_mono_left fun x _ hx => ?_
  obtain ⟨hfrom, hfailure⟩ := Bool.and_eq_true_iff.mp hx
  obtain ⟨horigin, hne⟩ := Bool.and_eq_true_iff.mp hfrom
  simp [horigin, hfailure, LoginAttempt.isFailureFrom, bne_iff_ne.mp hne]

theorem owed_except (origin : String → Bool) (ip u : String) :
    s.owed (except origin ip) u ≤ s.owed origin u := by
  refine List.countP_mono_left fun e _ he => ?_
  obtain ⟨r, ph⟩ := e
  cases ph with
  | wrong ip' v =>
      obtain ⟨hfrom, hname⟩ := Bool.and_eq_true_iff.mp he
      obtain ⟨horigin, -⟩ := Bool.and_eq_true_iff.mp hfrom
      exact Bool.and_eq_true_iff.mpr ⟨horigin, hname⟩
  | _ => cases he

/-! ## 4. A request that nothing interrupts -/

theorem ipPairCount_le (ip u : String) (a : Time) : s.ipPairCount ip u a ≤ s.usernameCount u a :=
  List.countP_mono_left fun _ _ hx => (Bool.and_eq_true_iff.mp hx).2

/-- The count by pair decides nothing that the count by username does not. -/
theorem isThrottled_iff (ip u : String) :
    s.isThrottled ip u = true ↔ maxFailedAttempts ≤ s.usernameCount u s.cutoff := by
  unfold isThrottled
  split
  · rename_i hpair
    exact ⟨fun _ => le_trans hpair (ipPairCount_le ip u _), fun _ => rfl⟩
  · exact decide_eq_true_iff

/-- **The two statements of the throttle are `_is_throttled`**, where no other comes between. -/
theorem throttle_uninterrupted {checkPasswordHash : String → String → Bool} {s₁ : Logins}
    {ip u password : String} (h : s.act checkPasswordHash (.post r ip u password) = some s₁) :
    ∃ s₂, (s₂ = s₁ ∨ s₁.act checkPasswordHash (.go r) = some s₂) ∧ s₂.requests.get? r =
      some (if s.isThrottled ip u then .tooMany else .admitted ip u password) := by
  have hself : ∀ (t : Logins) ph, (t.put r ph).requests.get? r = some ph := fun t ph => by
    rw [put, Dict.get?_set, if_pos rfl]
  simp only [act] at h
  split at h
  · cases h
  · cases h
    unfold isThrottled
    by_cases hpair : maxFailedAttempts ≤ s.ipPairCount ip u s.cutoff
    · rw [if_pos hpair, if_pos hpair]
      exact ⟨_, .inl rfl, hself s _⟩
    · rw [if_neg hpair, if_neg hpair]
      refine ⟨(s.put r (.paired ip u password s.cutoff)).put r
        (if maxFailedAttempts ≤ s.usernameCount u s.cutoff then .tooMany
          else .admitted ip u password), .inr ?_, ?_⟩
      · rw [act, hself]
        rfl
      · rw [hself]
        simp only [decide_eq_true_eq]

end Logins

end RetroBridge.Auth
