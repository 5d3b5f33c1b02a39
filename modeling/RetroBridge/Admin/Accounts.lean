/-
  File:      RetroBridge/Admin/Accounts.lean
  Subject:   ACCOUNTS (retrobridge/models.py: `User` and what depends on it;
             retrobridge/auth/routes.py: `register`, `delete_account`; retrobridge/admin/routes.py:
             `create_user`, `edit_user`, `delete_user`; retrobridge/api/routes.py: `delete_user`;
             retrobridge/integrations/email.py: `notify_account_deleted`).

  * `Account`, `Db` -- the row of `users` with its columns, and the tables a deletion walks or
    reads;
  * `flushDelete` -- the flush of `session.delete(user)`: jobs and terminal sessions go with the
    user, a lease of such a session would get the session NULL, which its column refuses;
  * `notices` -- the e-mail before the deletion of one's own account, which may raise;
  * `Request`, `exec` -- the requests and what each answers and commits;
  * `Change`, `exec_change` -- **what a request can do**: nothing, add an account, rewrite one, or
    delete one;
  * `flushDelete_server` -- the terminal server's `deleteUser` is this deletion on its two tables.
-/
import RetroBridge.Admin.Settings
import RetroBridge.Jobs.Model
import RetroBridge.Terminal.Server

namespace RetroBridge.Admin

open Relational

/-! ## 1. Rows -/

/-- A row of `users`, with the columns that the account pages write or a deletion reads. -/
structure Account extends User where
  username : String
  email : String
  fullName : Option String
  passwordHash : String
  emailNotifySecurity : Bool

instance : Keyed Account := ⟨fun v => v.id⟩

@[simp] theorem key_account (v : Account) : key v = v.id := rfl

/-- The tables that the deletion of a user walks, and the settings that its notice reads. -/
structure Db where
  users : Table Account
  jobs : Table Jobs.Job
  sessions : Table Terminal.TerminalSession
  leases : Table Terminal.PortLease
  settings : AdminSettings

/-- `UserEditForm` and `UserCreateForm` after validation; the password as `generate_password_hash`
    makes it, none where it is blank. `RegistrationForm` has the first four. -/
structure UserForm where
  username : String
  email : String
  fullName : Option String
  passwordHash : Option String
  isAdmin : Bool
  maxQueuedJobs : Int
  maxTerminalSessions : Int

/-! ## 2. The deletion of a user -/

namespace Db

variable (db : Db)

/-- A session of the user has a lease. -/
def leased (u : Nat) : Bool :=
  db.leases.rows.any fun l => (db.sessions.get? l.sessionId).any fun r => r.userId == u

/-- **The flush of `session.delete(user)`**, none where it raises `IntegrityError`. `User.jobs` and
    `User.terminal_sessions` cascade; `TerminalSession.port_leases` does not, so that the flush sets
    `session_id` to NULL in the leases of the sessions that go, and the column is NOT NULL. -/
def flushDelete (u : Nat) : Option Db :=
  if db.leased u then none
  else
    some
      { db with
        users := db.users.filterRows fun v => v.id != u
        jobs := db.jobs.filterRows fun j => j.userId != u
        sessions := db.sessions.filterRows fun r => r.userId != u }

/-- The two queries before an account is written: the text where another account has the username,
    or the e-mail. -/
def refusal (others : Account → Bool) (form : UserForm) (usernameText emailText : String) :
    Option String :=
  if db.users.rows.any fun v => others v && v.username == form.username then some usernameText
  else if db.users.rows.any fun v => others v && v.email == form.email then some emailText
  else none

/-- `add(User(…))` and the commit. -/
def addAccount (form : UserForm) (isAdmin : Bool) (maxQueuedJobs maxTerminalSessions : Int) : Db :=
  { db with
    users := db.users.insert
      { id := db.users.nextKey
        isAdmin := isAdmin
        maxQueuedJobs := maxQueuedJobs
        maxTerminalSessions := maxTerminalSessions
        patreonTier := none
        username := form.username
        email := form.email
        fullName := form.fullName
        passwordHash := form.passwordHash.getD ""
        emailNotifySecurity := true } }

end Db

/-- What `edit_user` assigns. -/
def edited (form : UserForm) (v : Account) : Account :=
  { v with
    username := form.username
    email := form.email
    fullName := form.fullName
    isAdmin := form.isAdmin
    maxQueuedJobs := form.maxQueuedJobs
    maxTerminalSessions := form.maxTerminalSessions
    passwordHash := form.passwordHash.getD v.passwordHash }

theorem edited_id (form : UserForm) (v : Account) : key (edited form v) = key v := rfl

/-- The assignments of `edit_user` and the commit. -/
def Db.writeAccount (db : Db) (u : Nat) (form : UserForm) : Db :=
  { db with
    users := db.users.mapRows (Table.atKey u (edited form))
      (Table.atKey_key (edited form) (edited_id form)) }

/-! ## 3. Requests -/

/-- A request, with the id its login session carries. A form is none where it does not validate. -/
inductive Request where
  | register (actor : Option Nat) (registrationOpen : Bool) (form : Option UserForm)
  | createUser (actor : Option Nat) (form : Option UserForm)
  | editUser (actor : Option Nat) (userId : Nat) (form : Option UserForm)
  | deleteUser (actor : Option Nat) (userId : Nat)
  | apiDeleteUser (actor : Option Nat) (userId : Nat)
  | deleteAccount (actor : Option Nat)

/-- What the client gets: a page or a redirect with the texts flashed or put on the form, a JSON
    answer, an error, or the page of an exception. -/
inductive Answer where
  | loginRequired
  | forbidden
  | page (texts : List String)
  | json (code : Nat) (message : String)
  | raised
  deriving DecidableEq

namespace Db

variable (db : Db)

/-- `current_user`. -/
def currentUser (actor : Option Nat) : Option Account := actor.bind db.users.get?

/-- `session.delete(user); session.commit()`, then the answer; an exception leaves the rows. -/
def commitDelete (u : Nat) (answer : Answer) : Db × Answer :=
  match db.flushDelete u with
  | some db' => (db', answer)
  | none => (db, .raised)

/-- `@login_required`, `@admin_required` and the view behind them. -/
def asAdmin (actor : Option Nat) (view : Account → Db × Answer) : Db × Answer :=
  match db.currentUser actor with
  | none => (db, .loginRequired)
  | some admin => if admin.isAdmin then view admin else (db, .forbidden)

/-- `register`. -/
def register (actor : Option Nat) (registrationOpen : Bool) (form : Option UserForm) :
    Db × Answer :=
  match db.currentUser actor with
  | some _ => (db, .page [])
  | none =>
    if !registrationOpen then (db, .page ["Registration is currently closed."])
    else
      match form with
      | none => (db, .page [])
      | some form =>
        match db.refusal (fun _ => true) form "This username is already taken."
            "This email is already registered." with
        | some text => (db, .page [text])
        | none =>
          (db.addAccount form false 3 1, .page ["Account created successfully. Welcome!"])

/-- `create_user`. -/
def createUser (actor : Option Nat) (form : Option UserForm) : Db × Answer :=
  db.asAdmin actor fun _ =>
    match form with
    | none => (db, .page [])
    | some form =>
      match db.refusal (fun _ => true) form "Username already taken." "Email already in use." with
      | some text => (db, .page [text])
      | none =>
        (db.addAccount form form.isAdmin form.maxQueuedJobs form.maxTerminalSessions,
          .page ["User created."])

/-- `edit_user`: nothing compares the user with the one who edits. -/
def editUser (actor : Option Nat) (u : Nat) (form : Option UserForm) : Db × Answer :=
  db.asAdmin actor fun _ =>
    match db.users.get? u with
    | none => (db, .page ["User not found."])
    | some _ =>
      match form with
      | none => (db, .page [])
      | some form =>
        match db.refusal (fun v => v.id != u) form "Username already taken."
            "Email already in use." with
        | some text => (db, .page [text])
        | none => (db.writeAccount u form, .page ["User updated."])

/-- `delete_user` of the admin pages. -/
def deleteUser (actor : Option Nat) (u : Nat) : Db × Answer :=
  db.asAdmin actor fun admin =>
    if u = admin.id then (db, .page ["Cannot delete your own account."])
    else
      match db.users.get? u with
      | none => (db, .page [])
      | some _ => db.commitDelete u (.page ["User deleted."])

/-- `delete_user` of the API. -/
def apiDeleteUser (actor : Option Nat) (u : Nat) : Db × Answer :=
  db.asAdmin actor fun admin =>
    if u = admin.id then (db, .json 400 "Cannot delete self")
    else
      match db.users.get? u with
      | none => (db, .json 404 "User not found")
      | some _ => db.commitDelete u (.json 200 "")

/-- `if user.email_notify_security: notify_account_deleted(user)` returns. `send_email` reads the
    settings before it looks whether a host is set; a port that is no integer raises there. -/
def notices (user : Account) : Bool :=
  !user.emailNotifySecurity || (loadSettings db.settings).isSome

/-- `delete_account`: the notice comes first, and outside any `try`. -/
def deleteAccount (actor : Option Nat) : Db × Answer :=
  match db.currentUser actor with
  | none => (db, .loginRequired)
  | some user =>
    if db.notices user then db.commitDelete user.id (.page ["Your account has been deleted."])
    else (db, .raised)

end Db

/-- **One request.** -/
def exec (db : Db) : Request → Db × Answer
  | .register actor registrationOpen form => db.register actor registrationOpen form
  | .createUser actor form => db.createUser actor form
  | .editUser actor u form => db.editUser actor u form
  | .deleteUser actor u => db.deleteUser actor u
  | .apiDeleteUser actor u => db.apiDeleteUser actor u
  | .deleteAccount actor => db.deleteAccount actor

/-! ## 4. What a request can do -/

/-- An administrator may delete anyone else. -/
def Db.adminDeletes (db : Db) (actor : Option Nat) (u : Nat) : Option Nat :=
  if (db.currentUser actor).any (fun admin => admin.isAdmin && admin.id != u) &&
    (db.users.get? u).isSome then some u else none

/-- The account whose deletion the routes permit: everyone may delete their own. -/
def Db.deletes (db : Db) : Request → Option Nat
  | .deleteUser actor u | .apiDeleteUser actor u => db.adminDeletes actor u
  | .deleteAccount actor => (db.currentUser actor).map fun user => user.id
  | _ => none

/-- No notice of the request raises: an administrator's deletions send none. -/
def Db.noticed (db : Db) : Request → Bool
  | .deleteAccount actor => (db.currentUser actor).all db.notices
  | _ => true

theorem Db.asAdmin_eq {db : Db} {actor : Option Nat} {admin : Account}
    (hcur : db.currentUser actor = some admin) (hadmin : admin.isAdmin = true)
    (view : Account → Db × Answer) : db.asAdmin actor view = view admin := by
  unfold Db.asAdmin
  simp only [hcur, hadmin, if_true]

theorem Db.adminDeletes_iff {db : Db} {actor : Option Nat} {u w : Nat} :
    db.adminDeletes actor w = some u ↔ w = u ∧ ∃ admin v, db.currentUser actor = some admin ∧
      admin.isAdmin = true ∧ u ≠ admin.id ∧ db.users.get? u = some v := by
  unfold Db.adminDeletes
  constructor
  · intro h
    split at h
    · rename_i hc
      obtain ⟨hany, hthere⟩ := Bool.and_eq_true_iff.mp hc
      obtain ⟨admin, hcur, hadmin⟩ := (Option.any_eq_true _ _).mp hany
      obtain ⟨v, hv⟩ := Option.isSome_iff_exists.mp hthere
      have hw : w = u := Option.some.inj h
      subst hw
      simp only [Bool.and_eq_true, bne_iff_ne] at hadmin
      exact ⟨rfl, admin, v, hcur, hadmin.1, Ne.symm hadmin.2, hv⟩
    · cases h
  · rintro ⟨rfl, admin, v, hcur, hadmin, hne, hv⟩
    rw [hcur, hv]
    simp [hadmin, Ne.symm hne]

/-- **A request that deletes** is the flush and its commit, with some answer, where its notice does
    not raise. -/
theorem exec_of_deletes {db : Db} {req : Request} {u : Nat} (h : db.deletes req = some u) :
    ∃ answer, answer ≠ Answer.raised ∧
      exec db req = if db.noticed req then db.commitDelete u answer else (db, .raised) := by
  cases req with
  | register actor registrationOpen form => cases h
  | createUser actor form => cases h
  | editUser actor w form => cases h
  | deleteUser actor w =>
      obtain ⟨rfl, admin, v, hcur, hadmin, hne, hv⟩ := Db.adminDeletes_iff.mp h
      refine ⟨.page ["User deleted."], Answer.noConfusion, ?_⟩
      show db.deleteUser actor w = _
      rw [Db.deleteUser, Db.asAdmin_eq hcur hadmin, if_neg hne, hv]
      rfl
  | apiDeleteUser actor w =>
      obtain ⟨rfl, admin, v, hcur, hadmin, hne, hv⟩ := Db.adminDeletes_iff.mp h
      refine ⟨.json 200 "", Answer.noConfusion, ?_⟩
      show db.apiDeleteUser actor w = _
      rw [Db.apiDeleteUser, Db.asAdmin_eq hcur hadmin, if_neg hne, hv]
      rfl
  | deleteAccount actor =>
      obtain ⟨user, hcur, rfl⟩ := Option.map_eq_some_iff.mp h
      refine ⟨.page ["Your account has been deleted."], Answer.noConfusion, ?_⟩
      show db.deleteAccount actor = _
      rw [Db.deleteAccount, Db.noticed, hcur]
      rfl

/-- An edit that goes through: an administrator, a user that is there, and no other account with
    the username or the e-mail. -/
def Db.edits (db : Db) (actor : Option Nat) (u : Nat) (form : UserForm) : Bool :=
  (db.currentUser actor).any (fun admin => admin.isAdmin) && (db.users.get? u).isSome &&
    (db.refusal (fun v => v.id != u) form "Username already taken." "Email already in use.").isNone

/-- **What a request can do.** -/
inductive Change (db : Db) (req : Request) : Db → Prop where
  | same : Change db req db
  | added (form : UserForm) (isAdmin : Bool) (maxQueuedJobs maxTerminalSessions : Int) :
      Change db req (db.addAccount form isAdmin maxQueuedJobs maxTerminalSessions)
  | written (actor : Option Nat) (u : Nat) (form : UserForm)
      (hreq : req = .editUser actor u (some form)) (hok : db.edits actor u form = true) :
      Change db req (db.writeAccount u form)
  | deleted (u : Nat) (db' : Db) (hreq : db.deletes req = some u)
      (hflush : db.flushDelete u = some db') : Change db req db'

/-- A view for administrators: what the view does for one, nothing for anyone else. -/
theorem Change.of_admin {db : Db} {req : Request} {actor : Option Nat}
    {view : Account → Db × Answer}
    (h : ∀ admin, db.currentUser actor = some admin → admin.isAdmin = true →
      Change db req (view admin).1) : Change db req (db.asAdmin actor view).1 := by
  cases hcur : db.currentUser actor with
  | none =>
      unfold Db.asAdmin
      simp only [hcur]
      exact .same
  | some admin =>
      cases hadmin : admin.isAdmin with
      | false =>
          unfold Db.asAdmin
          simp only [hcur, hadmin, Bool.false_eq_true, if_false]
          exact .same
      | true =>
          rw [Db.asAdmin_eq hcur hadmin]
          exact h admin hcur hadmin

theorem Change.of_commitDelete {db : Db} {req : Request} {u : Nat} (hreq : db.deletes req = some u)
    (answer : Answer) : Change db req (db.commitDelete u answer).1 := by
  unfold Db.commitDelete
  cases hflush : db.flushDelete u with
  | none => exact .same
  | some db' => exact .deleted u db' hreq hflush

theorem register_change (db : Db) (actor : Option Nat) (registrationOpen : Bool)
    (form : Option UserForm) : Change db (.register actor registrationOpen form)
      (db.register actor registrationOpen form).1 := by
  unfold Db.register
  split
  · exact .same
  · split
    · exact .same
    · split
      · exact .same
      · split
        · exact .same
        · exact .added ..

theorem createUser_change (db : Db) (actor : Option Nat) (form : Option UserForm) :
    Change db (.createUser actor form) (db.createUser actor form).1 := by
  refine .of_admin fun admin _ _ => ?_
  cases form with
  | none => exact .same
  | some form =>
      dsimp only
      split
      · exact .same
      · exact .added ..

theorem editUser_change (db : Db) (actor : Option Nat) (u : Nat) (form : Option UserForm) :
    Change db (.editUser actor u form) (db.editUser actor u form).1 := by
  refine .of_admin fun admin hcur hadmin => ?_
  split
  · exact .same
  · rename_i v hv
    cases form with
    | none => exact .same
    | some form =>
        dsimp only
        split
        · exact .same
        · rename_i hfree
          refine .written actor u form rfl ?_
          simp [Db.edits, hcur, hadmin, hv, hfree]

/-- The two routes by which an administrator deletes an account differ in their answers alone. -/
theorem adminDelete_change {db : Db} {req : Request} {actor : Option Nat} {u : Nat}
    (hreq : db.deletes req = db.adminDeletes actor u) (refused missing done : Answer) :
    Change db req (db.asAdmin actor fun admin =>
      if u = admin.id then (db, refused)
      else
        match db.users.get? u with
        | none => (db, missing)
        | some _ => db.commitDelete u done).1 := by
  refine .of_admin fun admin hcur hadmin => ?_
  split
  · exact .same
  · rename_i hne
    split
    · exact .same
    · rename_i v hv
      refine .of_commitDelete (hreq.trans ?_) done
      exact Db.adminDeletes_iff.mpr ⟨rfl, admin, v, hcur, hadmin, hne, hv⟩

theorem deleteUser_change (db : Db) (actor : Option Nat) (u : Nat) :
    Change db (.deleteUser actor u) (db.deleteUser actor u).1 := adminDelete_change rfl _ _ _

theorem apiDeleteUser_change (db : Db) (actor : Option Nat) (u : Nat) :
    Change db (.apiDeleteUser actor u) (db.apiDeleteUser actor u).1 := adminDelete_change rfl _ _ _

theorem deleteAccount_change (db : Db) (actor : Option Nat) :
    Change db (.deleteAccount actor) (db.deleteAccount actor).1 := by
  unfold Db.deleteAccount
  split
  · exact .same
  · rename_i user hcur
    split
    · refine .of_commitDelete ?_ _
      show (db.currentUser actor).map _ = _
      rw [hcur]
      rfl
    · exact .same

/-- **One request, classified.** -/
theorem exec_change (db : Db) (req : Request) : Change db req (exec db req).1 := by
  cases req with
  | register actor registrationOpen form => exact register_change db actor registrationOpen form
  | createUser actor form => exact createUser_change db actor form
  | editUser actor u form => exact editUser_change db actor u form
  | deleteUser actor u => exact deleteUser_change db actor u
  | apiDeleteUser actor u => exact apiDeleteUser_change db actor u
  | deleteAccount actor => exact deleteAccount_change db actor

/-! ## 5. The terminal server's deletion -/

/-- **The terminal server's `deleteUser` is this deletion** on sessions and leases. -/
theorem flushDelete_server (db : Db) (s : Terminal.Server) (hsessions : s.sessions = db.sessions)
    (hleases : s.leases = db.leases) (u : Nat) :
    (s.deleteUser u).sessions = ((db.flushDelete u).getD db).sessions ∧
      (s.deleteUser u).leases = ((db.flushDelete u).getD db).leases := by
  have hleased : (s.leases.rows.any fun l =>
      !false && (s.sessions.get? l.sessionId).any fun r => r.userId == u) = db.leased u := by
    rw [hsessions, hleases]
    rfl
  unfold Terminal.Server.deleteUser Terminal.Server.deleteCascade Db.flushDelete
  rw [hleased]
  cases db.leased u with
  | true => exact ⟨hsessions, hleases⟩
  | false =>
      refine ⟨?_, ?_⟩
      · show s.sessions.filterRows _ = db.sessions.filterRows _
        rw [hsessions]
        rfl
      · show s.leases.filterRows _ = db.leases
        rw [hleases]
        exact Table.ext_rows (List.filter_eq_self.mpr fun _ _ => rfl)

end RetroBridge.Admin
