/-
  File:      RetroBridge/Admin/Deletion.lean
  Subject:   THE DELETION OF A USER (retrobridge/admin/routes.py and retrobridge/api/routes.py:
             `delete_user`; retrobridge/auth/routes.py: `delete_account`): whether it completes.

  * `Completes` -- the deletion commits, nothing refers to the user or to a session that went, and
    the rows of the others are as before;
  * `deletion_completes_iff` -- **it completes exactly where no lease is on a session of the user,
    and the notice to a user who deletes the own account does not raise**;
  * `deletion_refused` -- the user of a granted session cannot be deleted.
-/
import RetroBridge.Admin.Accounts

namespace RetroBridge.Admin

open Relational Transition

/-! ## 1. The property -/

/-- **A deletion that completes.** -/
structure Completes (db : Db) (req : Request) (u : Nat) : Prop where
  committed : (exec db req).2 ≠ .raised
  user : ∀ v ∈ (exec db req).1.users, v.id ≠ u
  jobs : ∀ j ∈ (exec db req).1.jobs, j.userId ≠ u
  sessions : ∀ r ∈ (exec db req).1.sessions, r.userId ≠ u
  leases : ∀ l ∈ (exec db req).1.leases, ∀ r ∈ db.sessions, r ∉ (exec db req).1.sessions →
    l.sessionId ≠ r.id
  otherUsers : ∀ v, v.id ≠ u → (v ∈ (exec db req).1.users ↔ v ∈ db.users)
  otherJobs : ∀ j, j.userId ≠ u → (j ∈ (exec db req).1.jobs ↔ j ∈ db.jobs)
  otherSessions : ∀ r, r.userId ≠ u → (r ∈ (exec db req).1.sessions ↔ r ∈ db.sessions)
  otherLeases : ∀ l, (∀ r ∈ db.sessions, r.userId = u → r.id ≠ l.sessionId) →
    (l ∈ (exec db req).1.leases ↔ l ∈ db.leases)

/-! ## 2. The flush -/

section Flush

variable {db db' : Db} {u : Nat}

/-- A session of the user has a lease. -/
theorem leased_iff : db.leased u = true ↔
    ∃ l ∈ db.leases, ∃ r ∈ db.sessions, r.userId = u ∧ r.id = l.sessionId := by
  unfold Db.leased
  rw [List.any_eq_true]
  constructor
  · rintro ⟨l, hl, hany⟩
    obtain ⟨r, hget, hu⟩ := (Option.any_eq_true _ _).mp hany
    obtain ⟨hr, hkey⟩ := Table.get?_eq_some.mp hget
    exact ⟨l, hl, r, hr, by simpa using hu, hkey⟩
  · rintro ⟨l, hl, r, hr, hu, hkey⟩
    refine ⟨l, hl, (Option.any_eq_true _ _).mpr ⟨r, ?_, by simpa using hu⟩⟩
    rw [← hkey]
    exact Table.get?_key hr

theorem flushDelete_none : db.flushDelete u = none ↔ db.leased u = true := by
  unfold Db.flushDelete
  split
  · rename_i h
    simp [h]
  · rename_i h
    simp [h]

/-- What a flush that goes through leaves. -/
theorem flushDelete_some (h : db.flushDelete u = some db') : db.leased u = false ∧
    (∀ v, v ∈ db'.users ↔ v ∈ db.users ∧ v.id ≠ u) ∧
    (∀ j, j ∈ db'.jobs ↔ j ∈ db.jobs ∧ j.userId ≠ u) ∧
    (∀ r, r ∈ db'.sessions ↔ r ∈ db.sessions ∧ r.userId ≠ u) ∧ db'.leases = db.leases := by
  unfold Db.flushDelete at h
  split at h
  · cases h
  · rename_i hfree
    cases h
    refine ⟨by simpa using hfree, fun v => ?_, fun j => ?_, fun r => ?_, rfl⟩
    · rw [Table.mem_filterRows, bne_iff_ne]
    · rw [Table.mem_filterRows, bne_iff_ne]
    · rw [Table.mem_filterRows, bne_iff_ne]

end Flush

/-! ## 3. The notice -/

/-- The settings of the e-mail load where the port is blank or an integer. -/
theorem loadSettings_isSome {db : AdminSettings} : (loadSettings db).isSome =
    (portOf (getSetting db "EMAIL_SMTP_PORT" "")).isSome := by
  unfold loadSettings
  exact Option.isSome_map

/-- **The notice does not raise**: a user who deletes the own account has the security e-mails off,
    or the port of the settings is blank or an integer. -/
theorem noticed_iff {db : Db} {req : Request} : db.noticed req = true ↔
    ∀ actor user, req = .deleteAccount actor → db.currentUser actor = some user →
      user.emailNotifySecurity = true →
      (portOf (getSetting db.settings "EMAIL_SMTP_PORT" "")).isSome := by
  have hnotices : ∀ user, db.notices user = true ↔ (user.emailNotifySecurity = true →
      (portOf (getSetting db.settings "EMAIL_SMTP_PORT" "")).isSome) := by
    intro user
    unfold Db.notices
    rw [loadSettings_isSome]
    cases user.emailNotifySecurity <;> simp
  cases req with
  | deleteAccount actor =>
      unfold Db.noticed
      rw [Option.all_eq_true]
      constructor
      · rintro h _ user ⟨rfl⟩ hcur
        exact (hnotices user).mp (h user hcur)
      · intro h user hcur
        exact (hnotices user).mpr (h actor user rfl hcur)
  | register _ _ _ => exact iff_of_true rfl fun _ _ he => by cases he
  | createUser _ _ => exact iff_of_true rfl fun _ _ he => by cases he
  | editUser _ _ _ => exact iff_of_true rfl fun _ _ he => by cases he
  | deleteUser _ _ => exact iff_of_true rfl fun _ _ he => by cases he
  | apiDeleteUser _ _ => exact iff_of_true rfl fun _ _ he => by cases he

/-! ## 4. Whether it completes -/

/-- A request that deletes, where no lease is on a session of the user and the notice returns. -/
theorem completes_of_unleased {db : Db} {req : Request} {u : Nat} (h : db.deletes req = some u)
    (hnoticed : db.noticed req = true) (hfree : db.leased u = false) : Completes db req u := by
  obtain ⟨answer, hanswer, e⟩ := exec_of_deletes h
  rw [hnoticed, if_pos rfl] at e
  cases hflush : db.flushDelete u with
  | none =>
      rw [flushDelete_none.mp hflush] at hfree
      cases hfree
  | some db' =>
      have e' : exec db req = (db', answer) := by
        rw [e]
        unfold Db.commitDelete
        rw [hflush]
      obtain ⟨-, husers, hjobs, hsessions, hleases⟩ := flushDelete_some hflush
      refine ⟨?_, ?_, ?_, ?_, ?_, ?_, ?_, ?_, ?_⟩
      all_goals rw [e']
      · exact hanswer
      · exact fun v hv => ((husers v).mp hv).2
      · exact fun j hj => ((hjobs j).mp hj).2
      · exact fun r hr => ((hsessions r).mp hr).2
      · intro l hl r hr hgone hkey
        have hu : r.userId = u := by
          by_contra hne
          exact hgone ((hsessions r).mpr ⟨hr, hne⟩)
        have hleased : db.leased u = true :=
          leased_iff.mpr ⟨l, hleases ▸ hl, r, hr, hu, hkey.symm⟩
        rw [hleased] at hfree
        cases hfree
      · intro v hv
        rw [husers v]
        exact and_iff_left hv
      · intro j hj
        rw [hjobs j]
        exact and_iff_left hj
      · intro r hr
        rw [hsessions r]
        exact and_iff_left hr
      · intro l _
        show l ∈ db'.leases ↔ _
        rw [hleases]

/-- A request that deletes, where one is: the flush raises, and every row stays. -/
theorem exec_of_leased {db : Db} {req : Request} {u : Nat} (h : db.deletes req = some u)
    (hleased : db.leased u = true) : exec db req = (db, .raised) := by
  obtain ⟨answer, -, e⟩ := exec_of_deletes h
  rw [e]
  unfold Db.commitDelete
  rw [flushDelete_none.mpr hleased]
  exact ite_self _

/-- A request that deletes, where the notice raises: nothing is deleted. -/
theorem exec_of_unnoticed {db : Db} {req : Request} {u : Nat} (h : db.deletes req = some u)
    (hnoticed : db.noticed req = false) : exec db req = (db, .raised) := by
  obtain ⟨answer, -, e⟩ := exec_of_deletes h
  rw [e, hnoticed]
  rfl

/-- **A deletion that the routes permit completes exactly where no lease, live or expired, is on a
    session of the user**, and, where users delete their own account and have the security e-mails
    on, the stored SMTP port is blank or an integer. -/
theorem deletion_completes_iff (db : Db) (req : Request) (u : Nat) (h : db.deletes req = some u) :
    Completes db req u ↔
      (∀ l ∈ db.leases, ∀ r ∈ db.sessions, r.userId = u → r.id ≠ l.sessionId) ∧
      (∀ actor user, req = .deleteAccount actor → db.currentUser actor = some user →
        user.emailNotifySecurity = true →
        (portOf (getSetting db.settings "EMAIL_SMTP_PORT" "")).isSome) := by
  rw [← noticed_iff]
  constructor
  · intro hc
    constructor
    · intro l hl r hr hu hkey
      refine hc.committed ?_
      rw [exec_of_leased h (leased_iff.mpr ⟨l, hl, r, hr, hu, hkey⟩)]
    · by_contra hnot
      refine hc.committed ?_
      rw [exec_of_unnoticed h (Bool.eq_false_iff.mpr hnot)]
  · rintro ⟨hnone, hnoticed⟩
    refine completes_of_unleased h hnoticed (Bool.eq_false_iff.mpr fun hleased => ?_)
    obtain ⟨l, hl, r, hr, hu, hkey⟩ := leased_iff.mp hleased
    exact hnone l hl r hr hu hkey

/-! ## 5. A small site -/

/-- An account without anything but its name. -/
def account (id : Nat) (isAdmin : Bool) (name : String) : Account where
  id := id
  isAdmin := isAdmin
  maxQueuedJobs := 2
  maxTerminalSessions := 2
  patreonTier := none
  username := name
  email := name ++ "@example.com"
  fullName := none
  passwordHash := "hash"
  emailNotifySecurity := true

/-- The accounts of `deskSite`, with the sessions and leases of a server and no stored settings. -/
def deskDb (s : Terminal.Server) : Db where
  users := (Table.empty.insert (account 1 false "alice")).insert (account 2 false "bob")
  jobs := Table.empty
  sessions := s.sessions
  leases := s.leases
  settings := Ordered.Dict.empty

/-- An account without sessions is deleted. -/
theorem deletion_completes_small :
    Completes (deskDb Terminal.deskStart) (.deleteAccount (some 1)) 1 := by
  refine (deletion_completes_iff _ _ 1 (by decide)).mpr ⟨fun l hl => ?_, fun _ _ _ _ _ => ?_⟩
  · exact absurd hl List.not_mem_nil
  · decide

/-- **A user with a granted session** cannot be deleted: the flush raises. -/
theorem deletion_refused : ∃ ls s, Run (Terminal.Step Terminal.desk) Terminal.deskStart ls s ∧
    (deskDb s).deletes (.deleteAccount (some 1)) = some 1 ∧
    (exec (deskDb s) (.deleteAccount (some 1))).2 = .raised ∧
    ¬Completes (deskDb s) (.deleteAccount (some 1)) 1 := by
  have h : (play (Terminal.fire Terminal.desk fun _ _ => true) Terminal.deskStart
      [(0, Terminal.requestOk "alice" 1)]).any (fun r => (deskDb r.2).leased 1) = true := by decide
  obtain ⟨ls, s, hr, hp⟩ :=
    exists_run_of_play (Terminal.guarded_of_fire fun _ _ (hok : true = true) => hok) h
  have hdeletes : (deskDb s).deletes (.deleteAccount (some 1)) = some 1 := rfl
  have hraised := exec_of_leased hdeletes hp
  refine ⟨ls, s, hr.of_guarded, hdeletes, by rw [hraised], fun hc => hc.committed ?_⟩
  rw [hraised]

end RetroBridge.Admin
