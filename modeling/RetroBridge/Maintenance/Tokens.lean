/-
  File:      RetroBridge/Maintenance/Tokens.lean
  Subject:   THE PATREON TOKENS UNDER `db migrate-tokens` (cli.py: `db_migrate_tokens`;
             retrobridge/integrations/patreon_crypto.py: `encrypt_token`, `decrypt_token`;
             retrobridge/models.py: the properties of `User`).

  The properties of `User` encrypt and decrypt once. The command encrypts whatever it finds in the
  raw columns, so a token of the setter, or one of an earlier run, gets a second layer.

  * `Fernet` -- the cipher under one key: what is assumed of it;
  * `encryptToken`, `decryptToken`, `dbMigrateTokens` -- the functions and the command;
  * `Stored`, `Account` -- what can stand in a column before the command runs;
  * `decryptToken_plain` -- without the command a plaintext token reads as none;
  * `layers_eq_self_iff` -- a text is none of its layers;
  * `truthy_runs`, `decryptToken_layers` -- each run adds a layer, the property takes one off;
  * `readable_iff` -- **the tokens stay readable exactly where there are none, or the command runs
    once and none is encrypted before**;
  * `second_layer` -- a token of the setter after one run.
-/
import Mathlib.Tactic.Common

namespace RetroBridge.Maintenance

/-! ## 1. The cipher and the command -/

/-- **Fernet under one key**: `encrypt` takes what a call draws (time and initialization vector)
    with the text. -/
structure Fernet where
  encrypt : Nat → String → String
  decrypt : String → Option String
  decrypt_encrypt : ∀ drawn text, decrypt (encrypt drawn text) = some text
  encrypt_of_decrypt : ∀ {token text}, decrypt token = some text →
    ∃ drawn, encrypt drawn text = token
  length_lt : ∀ drawn text, text.length < (encrypt drawn text).length

/-- Python's truth of a column: none and the empty text are false. -/
def truthy : Option String → Option String
  | some text => if text = "" then none else some text
  | none => none

/-- The raw columns of a user. -/
structure User where
  id : Nat
  accessColumn : Option String
  refreshColumn : Option String

section Fernet

variable (F : Fernet)

/-- **`encrypt_token`.** -/
def encryptToken (drawn : Nat) (value : Option String) : Option String :=
  match truthy value with
  | none => none
  | some text => some (F.encrypt drawn text)

/-- **`decrypt_token`.** -/
def decryptToken (value : Option String) : Option String :=
  match truthy value with
  | none => none
  | some text => F.decrypt text

/-- The property `patreon_access_token`. -/
def User.patreonAccessToken (user : User) : Option String := decryptToken F user.accessColumn

/-- The property `patreon_refresh_token`. -/
def User.patreonRefreshToken (user : User) : Option String := decryptToken F user.refreshColumn

/-- What a run of the command draws for the two columns of each user. -/
abbrev Draws := Nat → Nat × Nat

/-- `encrypt_token(value) if value else None`. -/
def migrateColumn (drawn : Nat) (value : Option String) : Option String :=
  if (truthy value).isSome then encryptToken F drawn value else none

/-- The body of the loop of `db_migrate_tokens`. -/
def migrateUser (draws : Draws) (user : User) : User :=
  if (truthy user.accessColumn).isSome ∨ (truthy user.refreshColumn).isSome then
    { user with
      accessColumn := migrateColumn F (draws user.id).1 user.accessColumn
      refreshColumn := migrateColumn F (draws user.id).2 user.refreshColumn }
  else user

/-- **`db migrate-tokens`.** -/
def dbMigrateTokens (draws : Draws) (users : List User) : List User :=
  users.map (migrateUser F draws)

/-- The command, once for each of the runs. -/
def migrateRuns (runs : List Draws) (users : List User) : List User :=
  runs.foldl (fun users draws => dbMigrateTokens F draws users) users

/-- The layers of a text. -/
def layers (drawn : List Nat) (text : String) : String :=
  drawn.foldl (fun token n => F.encrypt n token) text

/-! ## 2. Layers -/

/-- **Why there is a migration**: a plaintext token, no text of the cipher, reads as none. -/
theorem decryptToken_plain {token : String} (h : ∀ drawn text, F.encrypt drawn text ≠ token) :
    decryptToken F (some token) = none := by
  by_cases hempty : token = ""
  · subst hempty
    rfl
  · have htruthy : truthy (some token) = some token := if_neg hempty
    unfold decryptToken
    rw [htruthy]
    cases hdecrypt : F.decrypt token with
    | none => exact hdecrypt
    | some plain =>
        obtain ⟨drawn, heq⟩ := F.encrypt_of_decrypt hdecrypt
        exact absurd heq (h drawn plain)

theorem length_layers (drawn : List Nat) : ∀ text : String,
    text.length + drawn.length ≤ (layers F drawn text).length := by
  induction drawn with
  | nil => exact fun text => Nat.le_refl _
  | cons n drawn ih =>
      intro text
      have hone := F.length_lt n text
      have hrest := ih (F.encrypt n text)
      change text.length + (drawn.length + 1) ≤ (layers F drawn (F.encrypt n text)).length
      omega

/-- **A text is none of its layers.** -/
theorem layers_eq_self_iff (drawn : List Nat) (text : String) :
    layers F drawn text = text ↔ drawn = [] := by
  constructor
  · intro heq
    have hlength := length_layers F drawn text
    rw [heq] at hlength
    exact List.length_eq_zero_iff.mp (by omega)
  · rintro rfl
    rfl

theorem encrypt_ne_empty (drawn : Nat) (text : String) : F.encrypt drawn text ≠ "" := by
  intro heq
  have hlength := F.length_lt drawn text
  rw [heq] at hlength
  exact Nat.not_lt_zero _ hlength

theorem truthy_encryptToken (drawn : Nat) (value : Option String) :
    truthy (encryptToken F drawn value) = (truthy value).map (F.encrypt drawn) := by
  unfold encryptToken
  cases truthy value with
  | none => rfl
  | some text => exact if_neg (encrypt_ne_empty F drawn text)

theorem truthy_migrateColumn (drawn : Nat) (value : Option String) :
    truthy (migrateColumn F drawn value) = (truthy value).map (F.encrypt drawn) := by
  unfold migrateColumn
  cases h : truthy value with
  | none => rfl
  | some text =>
      rw [Option.isSome_some, if_pos rfl, truthy_encryptToken, h]

/-- **One run adds a layer to what a column holds.** -/
theorem truthy_migrateUser (draws : Draws) (user : User) :
    truthy (migrateUser F draws user).accessColumn =
        (truthy user.accessColumn).map (F.encrypt (draws user.id).1) ∧
      truthy (migrateUser F draws user).refreshColumn =
        (truthy user.refreshColumn).map (F.encrypt (draws user.id).2) := by
  unfold migrateUser
  split
  · exact ⟨truthy_migrateColumn F _ _, truthy_migrateColumn F _ _⟩
  · rename_i hnone
    obtain ⟨haccess, hrefresh⟩ := not_or.mp hnone
    rw [Option.not_isSome_iff_eq_none] at haccess hrefresh
    rw [haccess, hrefresh]
    exact ⟨rfl, rfl⟩

theorem migrateUser_id (draws : Draws) (user : User) : (migrateUser F draws user).id = user.id := by
  unfold migrateUser
  split <;> rfl

/-- The runs, user by user. -/
theorem migrateRuns_eq_map (runs : List Draws) : ∀ users : List User,
    migrateRuns F runs users =
      users.map fun user => runs.foldl (fun user draws => migrateUser F draws user) user := by
  induction runs with
  | nil => exact fun users => (List.map_id' users).symm
  | cons draws runs ih =>
      intro users
      change migrateRuns F runs (users.map (migrateUser F draws)) = _
      rw [ih, List.map_map]
      rfl

/-- **The runs add their layers to what the columns hold.** -/
theorem truthy_runs (runs : List Draws) : ∀ user : User,
    let after := runs.foldl (fun user draws => migrateUser F draws user) user
    truthy after.accessColumn =
        (truthy user.accessColumn).map (layers F (runs.map fun draws => (draws user.id).1)) ∧
      truthy after.refreshColumn =
        (truthy user.refreshColumn).map (layers F (runs.map fun draws => (draws user.id).2)) := by
  induction runs with
  | nil => exact fun user => ⟨Option.map_id'.symm, Option.map_id'.symm⟩
  | cons draws runs ih =>
      intro user
      obtain ⟨haccess, hrefresh⟩ := ih (migrateUser F draws user)
      obtain ⟨haccess', hrefresh'⟩ := truthy_migrateUser F draws user
      rw [migrateUser_id] at haccess hrefresh
      rw [haccess', Option.map_map] at haccess
      rw [hrefresh', Option.map_map] at hrefresh
      exact ⟨haccess, hrefresh⟩

/-- **Decryption takes the last layer off.** -/
theorem decryptToken_layers {column value : Option String} {drawn : List Nat} {last : Nat}
    (h : truthy column = (truthy value).map (layers F (drawn ++ [last]))) :
    decryptToken F column = (truthy value).map (layers F drawn) := by
  unfold decryptToken
  rw [h]
  cases truthy value with
  | none => rfl
  | some text =>
      change F.decrypt (layers F (drawn ++ [last]) text) = some (layers F drawn text)
      rw [layers, List.foldl_append]
      exact F.decrypt_encrypt _ _

/-! ## 3. The stored tokens -/

/-- **What stands in a column**: nothing, plaintext from before encryption, or what the setter has
    written. -/
inductive Stored where
  | absent
  | plain (token : String)
  | assigned (drawn : Nat) (value : Option String)

/-- The raw column. -/
def Stored.column : Stored → Option String
  | .absent => none
  | .plain token => some token
  | .assigned drawn value => encryptToken F drawn value

/-- The token that was stored. -/
def Stored.original : Stored → Option String
  | .absent => none
  | .plain token => truthy (some token)
  | .assigned _ value => truthy value

def Stored.isPlain : Stored → Bool
  | .plain _ => true
  | _ => false

/-- A user of the table before the first run. -/
structure Account where
  id : Nat
  access : Stored
  refresh : Stored

/-- The row of the user. -/
def Account.user (account : Account) : User :=
  ⟨account.id, account.access.column F, account.refresh.column F⟩

/-- **The properties answer the original tokens after the runs.** -/
def Readable (runs : List Draws) (accounts : List Account) : Prop :=
  (migrateRuns F runs (accounts.map (Account.user F))).map
      (fun user => (user.patreonAccessToken F, user.patreonRefreshToken F)) =
    accounts.map fun account => (account.access.original, account.refresh.original)

/-- The last run adds the only layer. -/
def Stored.OneLayer (earlier : List Draws) (stored : Stored) : Prop :=
  stored.original = none ∨ earlier = [] ∧ stored.isPlain = true

/-- **One column**: the property answers the original exactly if the last run adds the only
    layer. -/
theorem Stored.original_iff (stored : Stored) {earlier : List Draws} {column : Option String}
    {draw : Draws → Nat} {last : Nat}
    (h : truthy column = (truthy (stored.column F)).map (layers F (earlier.map draw ++ [last]))) :
    decryptToken F column = stored.original ↔ stored.OneLayer earlier := by
  have hdecrypt := decryptToken_layers F h
  unfold OneLayer
  rw [hdecrypt]
  cases stored with
  | absent => exact iff_of_true rfl (.inl rfl)
  | plain token =>
      change (truthy (some token)).map _ = truthy (some token) ↔ truthy (some token) = none ∨ _
      cases truthy (some token) with
      | none => exact iff_of_true rfl (.inl rfl)
      | some text =>
          rw [Option.map_some, Option.some_inj, layers_eq_self_iff, List.map_eq_nil_iff]
          simp [isPlain]
  | assigned drawn value =>
      change (truthy (encryptToken F drawn value)).map _ = truthy value ↔ truthy value = none ∨ _
      rw [truthy_encryptToken]
      cases truthy value with
      | none => exact iff_of_true rfl (.inl rfl)
      | some text =>
          have hlayers := layers_eq_self_iff F (drawn :: earlier.map draw) text
          change some (layers F (drawn :: earlier.map draw) text) = some text ↔ _
          rw [Option.some_inj, hlayers]
          simp [isPlain]

/-- **The tokens stay readable exactly where none is stored, or the command runs once over
    plaintext.** -/
theorem readable_iff (earlier : List Draws) (last : Draws) (accounts : List Account) :
    Readable F (earlier ++ [last]) accounts ↔
      ∀ account ∈ accounts, account.access.OneLayer earlier ∧ account.refresh.OneLayer earlier := by
  unfold Readable
  rw [migrateRuns_eq_map, List.map_map, List.map_map, List.map_inj_left]
  refine forall_congr' fun account => forall_congr' fun _ => ?_
  obtain ⟨haccess, hrefresh⟩ := truthy_runs F (earlier ++ [last]) (account.user F)
  rw [List.map_append] at haccess hrefresh
  rw [← account.access.original_iff F haccess, ← account.refresh.original_iff F hrefresh]
  exact Prod.ext_iff

end Fernet

/-! ## 4. A second layer -/

/-- A cipher that only marks the text. -/
def marking : Fernet where
  encrypt _ text := "g" ++ text
  decrypt token :=
    match token.toList with
    | 'g' :: text => some (String.ofList text)
    | _ => none
  decrypt_encrypt := by
    intro _ text
    rw [String.toList_append]
    exact congrArg some String.ofList_toList
  encrypt_of_decrypt := by
    intro token text h
    split at h
    · rename_i rest hrest
      refine ⟨0, ?_⟩
      have hchars : ("g" ++ String.ofList rest).toList = token.toList := by
        rw [String.toList_append, String.toList_ofList, String.toList_ofList, hrest]
        rfl
      rw [← Option.some.inj h]
      exact String.toList_inj.mp hchars
    · cases h
  length_lt := by
    intro _ text
    rw [String.length_append]
    exact Nat.lt_add_of_pos_left Nat.zero_lt_one

/-- **A token of the setter, after one run**: the property answers the setter's ciphertext. -/
theorem second_layer : ¬∀ (F : Fernet) (earlier : List Draws) (last : Draws)
    (accounts : List Account), Readable F (earlier ++ [last]) accounts := by
  intro h
  have heq := h marking [] (fun _ => (0, 0)) [⟨1, .assigned 0 (some "token"), .absent⟩]
  unfold Readable at heq
  exact absurd heq (by decide)

end RetroBridge.Maintenance
