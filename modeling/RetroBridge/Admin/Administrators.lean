/-
  File:      RetroBridge/Admin/Administrators.lean
  Subject:   THE SITE KEEPS AN ADMINISTRATOR, or not (retrobridge/admin/routes.py: `edit_user`;
             retrobridge/auth/routes.py: `delete_account`, with the requests of Accounts.lean).

  * `HasAdmin` -- some account has `is_admin`;
  * `sparesLast` -- the requests that do not take the box from the only administrator, nor delete
    that account for its owner;
  * `admins_run` -- **in a run of such requests the site keeps an administrator**; registration,
    creation and both `delete_user` never take the last one;
  * `last_admin_demoted`, `last_admin_deleted` -- the two ways to lose it.
-/
import RetroBridge.Admin.Deletion

namespace RetroBridge.Admin

open Relational Transition

/-! ## 1. The property -/

/-- The rows after a request. -/
def after (db : Db) (req : Request) : Option Db := some (exec db req).1

/-- One request as a step. -/
def AccountStep (db : Db) (req : Request) (db' : Db) : Prop := after db req = some db'

/-- **Some account is an administrator.** -/
def HasAdmin (db : Db) : Prop := ∃ v ∈ db.users, v.isAdmin = true

/-- Someone other than `u` is an administrator. -/
def Db.otherAdmin (db : Db) (u : Nat) : Bool := db.users.rows.any fun v => v.isAdmin && v.id != u

theorem otherAdmin_iff {db : Db} {u : Nat} :
    db.otherAdmin u = true ↔ ∃ v ∈ db.users, v.isAdmin = true ∧ v.id ≠ u := by
  unfold Db.otherAdmin
  rw [List.any_eq_true]
  simp only [Bool.and_eq_true, bne_iff_ne]
  rfl

/-- An edit that goes through and clears the box, and the deletion of the own account that goes
    through, leave another administrator. -/
def sparesLast (db : Db) : Request → Bool
  | .editUser actor u (some form) => form.isAdmin || !db.edits actor u form || db.otherAdmin u
  | .deleteAccount actor =>
    match db.currentUser actor with
    | some user => db.leased user.id || db.otherAdmin user.id
    | none => true
  | _ => true

/-! ## 2. One step -/

section Step

variable {db db' : Db}

theorem HasAdmin.of_otherAdmin {u : Nat} (h : db.otherAdmin u = true)
    (hkept : ∀ v ∈ db.users, v.id ≠ u → v ∈ db'.users) : HasAdmin db' := by
  obtain ⟨v, hv, hadmin, hne⟩ := otherAdmin_iff.mp h
  exact ⟨v, hkept v hv hne, hadmin⟩

theorem HasAdmin.addAccount (h : HasAdmin db) (form : UserForm) (isAdmin : Bool)
    (maxQueuedJobs maxTerminalSessions : Int) :
    HasAdmin (db.addAccount form isAdmin maxQueuedJobs maxTerminalSessions) := by
  obtain ⟨v, hv, hadmin⟩ := h
  exact ⟨v, Table.mem_insert_of_mem hv, hadmin⟩

/-- An edit leaves the others as they are. -/
theorem mem_writeAccount_other {u : Nat} {form : UserForm} {v : Account} (hv : v ∈ db.users)
    (hne : v.id ≠ u) : v ∈ (db.writeAccount u form).users := by
  have hmem : Table.atKey u (edited form) v ∈ (db.writeAccount u form).users :=
    List.mem_map_of_mem hv
  rw [Table.atKey_other hne] at hmem
  exact hmem

/-- An edit with the box ticked keeps every administrator one. -/
theorem HasAdmin.writeAccount (h : HasAdmin db) {u : Nat} {form : UserForm}
    (hbox : form.isAdmin = true) : HasAdmin (db.writeAccount u form) := by
  obtain ⟨v, hv, hadmin⟩ := h
  by_cases hu : v.id = u
  · refine ⟨edited form v, ?_, hbox⟩
    have hmem : Table.atKey u (edited form) v ∈ (db.writeAccount u form).users :=
      List.mem_map_of_mem hv
    rw [Table.atKey_self hu] at hmem
    exact hmem
  · exact ⟨v, mem_writeAccount_other hv hu, hadmin⟩

theorem mem_flushDelete_other {u : Nat} (hflush : db.flushDelete u = some db') :
    ∀ v ∈ db.users, v.id ≠ u → v ∈ db'.users := fun v hv hne =>
  ((flushDelete_some hflush).2.1 v).mpr ⟨hv, hne⟩

/-- **A deletion that the condition lets pass leaves an administrator**: the one who deletes someone
    else, or the one the condition asks for. -/
theorem otherAdmin_of_deletes {req : Request} {u : Nat} (hreq : db.deletes req = some u)
    (hflush : db.flushDelete u = some db') (hok : sparesLast db req = true) :
    db.otherAdmin u = true := by
  have hactor : ∀ actor w, db.adminDeletes actor w = some u → db.otherAdmin u = true := by
    intro actor w h
    obtain ⟨-, admin, -, hcur, hadmin, hne, -⟩ := Db.adminDeletes_iff.mp h
    obtain ⟨i, -, hget⟩ := Option.bind_eq_some_iff.mp hcur
    exact otherAdmin_iff.mpr ⟨admin, (Table.get?_eq_some.mp hget).1, hadmin, Ne.symm hne⟩
  cases req with
  | register actor registrationOpen form => cases hreq
  | createUser actor form => cases hreq
  | editUser actor w form => cases hreq
  | deleteUser actor w => exact hactor actor w hreq
  | apiDeleteUser actor w => exact hactor actor w hreq
  | deleteAccount actor =>
      obtain ⟨user, hcur, rfl⟩ := Option.map_eq_some_iff.mp hreq
      have hfree := (flushDelete_some hflush).1
      simpa [sparesLast, hcur, hfree] using hok

/-- **One request keeps an administrator** where the condition holds. -/
theorem HasAdmin.step {req : Request} (h : HasAdmin db) (hok : sparesLast db req = true) :
    HasAdmin (exec db req).1 := by
  have hchange := exec_change db req
  generalize (exec db req).1 = db' at hchange ⊢
  cases hchange with
  | same => exact h
  | added form isAdmin maxQueuedJobs maxTerminalSessions => exact h.addAccount ..
  | written actor u form hreq hedits =>
      subst hreq
      cases hbox : form.isAdmin with
      | true => exact h.writeAccount hbox
      | false =>
          have hother : db.otherAdmin u = true := by simpa [sparesLast, hbox, hedits] using hok
          exact .of_otherAdmin hother fun v hv hne => mem_writeAccount_other hv hne
  | deleted u _ hreq hflush =>
      exact .of_otherAdmin (otherAdmin_of_deletes hreq hflush hok) (mem_flushDelete_other hflush)

end Step

/-! ## 3. Every run -/

/-- **The site keeps an administrator** in every run of requests that spare the last one. -/
theorem admins_run {db₀ db : Db} {reqs : List Request} (h0 : HasAdmin db₀)
    (h : Run (guarded AccountStep fun db req => sparesLast db req = true) db₀ reqs db) :
    HasAdmin db := by
  refine h.invariant h0 fun db req db' hadmin hstep => ?_
  obtain ⟨hok, hs⟩ := hstep
  cases hs
  exact hadmin.step hok

/-! ## 4. A small site -/

/-- The administrator 1 and the user 2, without jobs and sessions. -/
def twoAccounts : Db where
  users := (Table.empty.insert (account 1 true "root")).insert (account 2 false "bob")
  jobs := Table.empty
  sessions := Table.empty
  leases := Table.empty
  settings := Ordered.Dict.empty

theorem twoAccounts_hasAdmin : HasAdmin twoAccounts := by
  have hroot : account 1 true "root" ∈ Table.empty.insert (account 1 true "root") :=
    Table.mem_insert_self fun _ hq => absurd hq List.not_mem_nil
  exact ⟨account 1 true "root", Table.mem_insert_of_mem hroot, rfl⟩

/-- A form for an account. -/
def formFor (name : String) (isAdmin : Bool) : UserForm where
  username := name
  email := name ++ "@example.com"
  fullName := none
  passwordHash := none
  isAdmin := isAdmin
  maxQueuedJobs := 2
  maxTerminalSessions := 2

/-- Bob becomes an administrator, demotes the first one and deletes that account. -/
theorem admins_run_small : ∃ db reqs,
    Run (guarded AccountStep fun db req => sparesLast db req = true) twoAccounts reqs db ∧
      db.otherAdmin 1 = true ∧ HasAdmin db := by
  have h : (execAll (execWhen sparesLast after) twoAccounts
      [.register none true (some (formFor "ann" true)),
        .editUser (some 1) 2 (some (formFor "bob" true)),
        .editUser (some 2) 1 (some (formFor "root" false)), .deleteUser (some 2) 1]).any
      (fun db => db.otherAdmin 1) = true := by decide
  obtain ⟨db, hr, hp⟩ := exists_guarded_run (fun s l (hok : sparesLast s l = true) => hok) h
  exact ⟨db, _, hr, hp, admins_run twoAccounts_hasAdmin hr⟩

/-- No account has the box. -/
def noAdmin (db : Db) : Bool := db.users.rows.all fun v => !v.isAdmin

theorem not_hasAdmin_of {db : Db} (h : noAdmin db = true) : ¬HasAdmin db := by
  rintro ⟨v, hv, hadmin⟩
  have hno := List.all_eq_true.mp h v hv
  rw [hadmin] at hno
  cases hno

/-- **The only administrator clears the own box.** -/
theorem last_admin_demoted : HasAdmin twoAccounts ∧
    ∃ reqs db, Run AccountStep twoAccounts reqs db ∧ ¬HasAdmin db := by
  have h : (execAll after twoAccounts
      [.editUser (some 1) 1 (some (formFor "root" false))]).any noAdmin = true := by decide
  obtain ⟨db, hr, hp⟩ := exists_run_of_execAll h
  exact ⟨twoAccounts_hasAdmin, _, db, hr, not_hasAdmin_of hp⟩

/-- **The only administrator deletes the own account.** -/
theorem last_admin_deleted : HasAdmin twoAccounts ∧
    ∃ reqs db, Run AccountStep twoAccounts reqs db ∧ ¬HasAdmin db := by
  have h : (execAll after twoAccounts [.deleteAccount (some 1)]).any noAdmin = true := by decide
  obtain ⟨db, hr, hp⟩ := exists_run_of_execAll h
  exact ⟨twoAccounts_hasAdmin, _, db, hr, not_hasAdmin_of hp⟩

end RetroBridge.Admin
