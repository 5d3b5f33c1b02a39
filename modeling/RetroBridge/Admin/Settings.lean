/-
  File:      RetroBridge/Admin/Settings.lean
  Subject:   ADMIN SETTINGS (retrobridge/admin/routes.py: `SETTING_MAP`, `SETTING_REVERSE`,
             `settings`; retrobridge/admin/forms.py: `SettingsForm`; the readers of
             retrobridge/admin/settings_utils.py and retrobridge/integrations/email.py).

  * `SettingsData`, `SettingsForm` -- the data of the form's fields, and data that it accepts;
  * `settingMap`, `post` -- the texts that a POST stores; `shown` -- what a GET puts into the
    fields;
  * `getRaw`, `getInt`, `getBool`, `loadSettings`, `loadSettingsFromDb` -- the readers;
  * `Survives` -- the round trip: the fields show what was saved, and every reader yields it;
  * `post_survives_iff` -- **it holds exactly where no optional field is without data**: `str(None)`
    is stored as a text like any other.
-/
import RetroBridge.Models
import RetroBridge.Library.Dict
import RetroBridge.Library.Numeral

namespace RetroBridge.Admin

open Ordered Numerals

/-! ## 1. The form -/

/-- The `data` of the fields. A text field that the request does not have, and an optional integer
    that is blank, have the data `None`. -/
structure SettingsData where
  maxUploadSizeMb : Int
  defaultMaxQueuedJobs : Int
  defaultMaxTerminalSessions : Int
  maxJobsPerHour : Int
  maxTerminalSessionMinutes : Int
  terminalIdleTimeoutMinutes : Int
  workerPollSeconds : Int
  registrationOpen : Bool
  maintenanceMode : Bool
  terminalSessionLogEnabled : Bool
  emailSmtpHost : Option String
  emailSmtpPort : Option Int
  emailSmtpUser : Option String
  emailSmtpPassword : Option String
  emailUseTls : Bool
  emailFromAddress : Option String
  emailFromName : Option String

/-- `NumberRange(min=lo, max=hi)`. -/
def numberRange (lo hi n : Int) : Bool := decide (lo ≤ n) && decide (n ≤ hi)

/-- `[DataRequired(), NumberRange(…)]`. -/
def requiredInt (lo hi n : Int) : Bool := n != 0 && numberRange lo hi n

/-- `[Optional(), NumberRange(…)]`. -/
def optionalInt (lo hi : Int) (data : Option Int) : Bool := data.all (numberRange lo hi)

/-- `[Optional(), Length(max=…)]`: a text of white space only is not measured. -/
def optionalText (max : Nat) (data : Option String) : Bool :=
  data.all fun s => (strip s.toList).isEmpty || decide (s.length ≤ max)

/-- The validators. -/
def SettingsData.validate (d : SettingsData) : Bool :=
  requiredInt 1 1024 d.maxUploadSizeMb && requiredInt 1 100 d.defaultMaxQueuedJobs &&
    requiredInt 1 10 d.defaultMaxTerminalSessions && requiredInt 1 1000 d.maxJobsPerHour &&
    requiredInt 1 1440 d.maxTerminalSessionMinutes &&
    requiredInt 1 60 d.terminalIdleTimeoutMinutes && requiredInt 1 300 d.workerPollSeconds &&
    optionalText 128 d.emailSmtpHost && optionalInt 1 65535 d.emailSmtpPort &&
    optionalText 128 d.emailSmtpUser && optionalText 128 d.emailSmtpPassword &&
    optionalText 128 d.emailFromAddress && optionalText 64 d.emailFromName

/-- **Data that the form accepts.** -/
structure SettingsForm where
  data : SettingsData
  valid : data.validate = true

/-! ## 2. POST -/

/-- The rows of `admin_settings`: a text for each key. -/
abbrev AdminSettings := Dict String String

/-- `str(value)` of a text or None. -/
def strText (value : Option String) : String := value.getD "None"

/-- `str(value)` of an integer or None. -/
def strInt : Option Int → String
  | some n => toString n
  | none => "None"

/-- `"1" if v else "0"`. -/
def flagText (v : Bool) : String := if v then "1" else "0"

/-- What the POST stores of the SMTP password: nothing where it is blank. -/
def passwordText : Option String → List (String × String)
  | some password => if password = "" then [] else [("EMAIL_SMTP_PASSWORD", password)]
  | none => []

/-- **`SETTING_MAP`**, applied to the data: the key and the text of each field. -/
def settingMap (d : SettingsData) : List (String × String) :=
  [("MAX_UPLOAD_SIZE_BYTES", toString (d.maxUploadSizeMb * 1024 * 1024)),
    ("DEFAULT_MAX_QUEUED_JOBS", toString d.defaultMaxQueuedJobs),
    ("DEFAULT_MAX_TERMINAL_SESSIONS", toString d.defaultMaxTerminalSessions),
    ("MAX_JOBS_PER_HOUR", toString d.maxJobsPerHour),
    ("MAX_TERMINAL_SESSION_SECONDS", toString (d.maxTerminalSessionMinutes * 60)),
    ("TERMINAL_IDLE_TIMEOUT_SECONDS", toString (d.terminalIdleTimeoutMinutes * 60)),
    ("WORKER_POLL_SECONDS", toString d.workerPollSeconds),
    ("REGISTRATION_OPEN", flagText d.registrationOpen),
    ("MAINTENANCE_MODE", flagText d.maintenanceMode),
    ("TERMINAL_SESSION_LOG_ENABLED", flagText d.terminalSessionLogEnabled),
    ("EMAIL_SMTP_HOST", strText d.emailSmtpHost),
    ("EMAIL_SMTP_PORT", strInt d.emailSmtpPort),
    ("EMAIL_SMTP_USER", strText d.emailSmtpUser)] ++
  passwordText d.emailSmtpPassword ++
  [("EMAIL_USE_TLS", flagText d.emailUseTls),
    ("EMAIL_FROM_ADDRESS", strText d.emailFromAddress),
    ("EMAIL_FROM_NAME", strText d.emailFromName)]

/-- **The POST of `settings`**, past the form. -/
def post (form : SettingsForm) (db : AdminSettings) : AdminSettings :=
  db.setAll (settingMap form.data)

/-! ## 3. GET -/

/-- `_safe_int(value, default)` of a stored text. -/
def safeInt (value : String) (default : Option Int) : Option Int := (parseInt value).or default

/-- The texts that count as true. -/
def trueTexts : List String := ["1", "true", "yes", "on"]

/-- `value.lower()`; no letter outside ASCII becomes one of `trueTexts`. -/
def lower (value : String) : String := String.ofList (value.toList.map Char.toLower)

/-- `_safe_bool(value)`. -/
def safeBool (value : String) : Bool := trueTexts.contains (lower value)

/-- A required integer field: `_safe_int(v, 0) // unit`, or the field's default. -/
def shownInt (db : AdminSettings) (key : String) (unit default : Int) : Int :=
  ((db.get? key).map fun v => ((safeInt v (some 0)).getD 0) / unit).getD default

/-- A checkbox. -/
def shownBool (db : AdminSettings) (key : String) : Bool := ((db.get? key).map safeBool).getD false

/-- **The GET of `settings`**: `SETTING_REVERSE` of each stored text; a field without one keeps its
    default. The SMTP password stays out of the form. -/
def shown (db : AdminSettings) : SettingsData where
  maxUploadSizeMb := shownInt db "MAX_UPLOAD_SIZE_BYTES" (1024 * 1024) 16
  defaultMaxQueuedJobs := shownInt db "DEFAULT_MAX_QUEUED_JOBS" 1 3
  defaultMaxTerminalSessions := shownInt db "DEFAULT_MAX_TERMINAL_SESSIONS" 1 1
  maxJobsPerHour := shownInt db "MAX_JOBS_PER_HOUR" 1 10
  maxTerminalSessionMinutes := shownInt db "MAX_TERMINAL_SESSION_SECONDS" 60 60
  terminalIdleTimeoutMinutes := shownInt db "TERMINAL_IDLE_TIMEOUT_SECONDS" 60 5
  workerPollSeconds := shownInt db "WORKER_POLL_SECONDS" 1 5
  registrationOpen := shownBool db "REGISTRATION_OPEN"
  maintenanceMode := shownBool db "MAINTENANCE_MODE"
  terminalSessionLogEnabled := shownBool db "TERMINAL_SESSION_LOG_ENABLED"
  emailSmtpHost := db.get? "EMAIL_SMTP_HOST"
  emailSmtpPort := (db.get? "EMAIL_SMTP_PORT").bind fun v => safeInt v none
  emailSmtpUser := db.get? "EMAIL_SMTP_USER"
  emailSmtpPassword := none
  emailUseTls := shownBool db "EMAIL_USE_TLS"
  emailFromAddress := db.get? "EMAIL_FROM_ADDRESS"
  emailFromName := db.get? "EMAIL_FROM_NAME"

/-! ## 4. The readers -/

/-- The texts of `SETTING_DEFAULTS`. -/
def settingDefaults : List (String × String) :=
  [("MAX_UPLOAD_SIZE_BYTES", "16777216"), ("DEFAULT_MAX_QUEUED_JOBS", "3"),
    ("DEFAULT_MAX_TERMINAL_SESSIONS", "1"), ("MAX_JOBS_PER_HOUR", "10"),
    ("MAX_TERMINAL_SESSION_SECONDS", "3600"), ("TERMINAL_IDLE_TIMEOUT_SECONDS", "300"),
    ("WORKER_POLL_SECONDS", "5"), ("REGISTRATION_OPEN", "1"), ("MAINTENANCE_MODE", "0"),
    ("TERMINAL_SESSION_LOG_ENABLED", "0"), ("PATREON_CLIENT_ID", ""), ("PATREON_CLIENT_SECRET", ""),
    ("PATREON_CAMPAIGN_ID", ""), ("PATREON_TIER_BRONZE_JOBS", "10"),
    ("PATREON_TIER_BRONZE_SESSIONS", "3"), ("PATREON_TIER_SILVER_JOBS", "50"),
    ("PATREON_TIER_SILVER_SESSIONS", "10"), ("PATREON_TIER_GOLD_JOBS", "999"),
    ("PATREON_TIER_GOLD_SESSIONS", "20")]

/-- `_get_raw`. -/
def getRaw (db : AdminSettings) (key : String) : Option String :=
  (db.get? key).or (settingDefaults.lookup key)

/-- `int(_get_raw(key))`, none where it raises: what a site reads of its settings. -/
def intSetting (db : AdminSettings) (key : String) : Option Int := (getRaw db key).bind parseInt

/-- `get_int`. -/
def getInt (db : AdminSettings) (key : String) : Int := (intSetting db key).getD 0

/-- The site's `getInt` is this one, on a site that reads these rows. -/
theorem getInt_site (site : Site) (db : AdminSettings) (key : String) :
    RetroBridge.getInt { site with intSetting := intSetting db } key = getInt db key := rfl

/-- `get_bool`. -/
def getBool (db : AdminSettings) (key : String) : Bool := safeBool (strText (getRaw db key))

/-- `value or default` on texts. -/
def orText (value default : String) : String := if value = "" then default else value

/-- What the senders of e-mail read. -/
structure EmailSettings where
  smtpHost : String
  smtpPort : Int
  smtpUser : String
  smtpPassword : String
  useTls : Bool
  useSsl : Bool
  fromAddress : String
  fromName : String

/-- `int(text or 587)`, none where it raises. -/
def portOf (text : String) : Option Int := if text = "" then some 587 else parseInt text

/-- `_get_setting` of retrobridge/integrations/email.py. -/
def getSetting (db : AdminSettings) (key default : String) : String :=
  orText ((getRaw db key).getD "") default

/-- **`_load_settings`**, none where it raises. -/
def loadSettings (db : AdminSettings) : Option EmailSettings :=
  (portOf (getSetting db "EMAIL_SMTP_PORT" "")).map fun port =>
    { smtpHost := getSetting db "EMAIL_SMTP_HOST" ""
      smtpPort := port
      smtpUser := getSetting db "EMAIL_SMTP_USER" ""
      smtpPassword := getSetting db "EMAIL_SMTP_PASSWORD" ""
      useTls := trueTexts.contains (getSetting db "EMAIL_USE_TLS" "")
      useSsl := trueTexts.contains (getSetting db "EMAIL_USE_SSL" "")
      fromAddress := getSetting db "EMAIL_FROM_ADDRESS" "noreply@retrobridge.local"
      fromName := getSetting db "EMAIL_FROM_NAME" "RetroBridge" }

/-- **`_load_settings_from_db`**, none where it raises. -/
def loadSettingsFromDb (db : AdminSettings) : Option EmailSettings :=
  let settings (key : String) := (db.get? key).getD ""
  (portOf (settings "EMAIL_SMTP_PORT")).map fun port =>
    { smtpHost := settings "EMAIL_SMTP_HOST"
      smtpPort := port
      smtpUser := settings "EMAIL_SMTP_USER"
      smtpPassword := settings "EMAIL_SMTP_PASSWORD"
      useTls := trueTexts.contains (lower (settings "EMAIL_USE_TLS"))
      useSsl := trueTexts.contains (lower (settings "EMAIL_USE_SSL"))
      fromAddress := orText (settings "EMAIL_FROM_ADDRESS") "noreply@retrobridge.local"
      fromName := orText (settings "EMAIL_FROM_NAME") "RetroBridge" }

/-! ## 5. The property -/

/-- The integers that were entered, in the units of their keys. -/
def SettingsData.ints (d : SettingsData) : List (String × Int) :=
  [("MAX_UPLOAD_SIZE_BYTES", d.maxUploadSizeMb * 1024 * 1024),
    ("DEFAULT_MAX_QUEUED_JOBS", d.defaultMaxQueuedJobs),
    ("DEFAULT_MAX_TERMINAL_SESSIONS", d.defaultMaxTerminalSessions),
    ("MAX_JOBS_PER_HOUR", d.maxJobsPerHour),
    ("MAX_TERMINAL_SESSION_SECONDS", d.maxTerminalSessionMinutes * 60),
    ("TERMINAL_IDLE_TIMEOUT_SECONDS", d.terminalIdleTimeoutMinutes * 60),
    ("WORKER_POLL_SECONDS", d.workerPollSeconds)]

/-- The checkboxes. -/
def SettingsData.flags (d : SettingsData) : List (String × Bool) :=
  [("REGISTRATION_OPEN", d.registrationOpen), ("MAINTENANCE_MODE", d.maintenanceMode),
    ("TERMINAL_SESSION_LOG_ENABLED", d.terminalSessionLogEnabled), ("EMAIL_USE_TLS", d.emailUseTls)]

/-- A reader yields what was entered, or the default of a blank; a blank password is the one stored
    before. -/
structure EmailSettings.Yields (e : EmailSettings) (d : SettingsData) (before : AdminSettings) :
    Prop where
  smtpHost : e.smtpHost = d.emailSmtpHost.getD ""
  smtpPort : e.smtpPort = d.emailSmtpPort.getD 587
  smtpUser : e.smtpUser = d.emailSmtpUser.getD ""
  smtpPassword : e.smtpPassword =
    orText (d.emailSmtpPassword.getD "") ((before.get? "EMAIL_SMTP_PASSWORD").getD "")
  useTls : e.useTls = d.emailUseTls
  fromAddress : e.fromAddress = orText (d.emailFromAddress.getD "") "noreply@retrobridge.local"
  fromName : e.fromName = orText (d.emailFromName.getD "") "RetroBridge"

/-- **The round trip.** -/
structure Survives (form : SettingsForm) (db : AdminSettings) : Prop where
  repopulated : shown (post form db) = { form.data with emailSmtpPassword := none }
  ints : ∀ e ∈ form.data.ints, getInt (post form db) e.1 = e.2
  flags : ∀ e ∈ form.data.flags, getBool (post form db) e.1 = e.2
  email : ∃ e, loadSettings (post form db) = some e ∧ e.Yields form.data db
  emailFromDb : ∃ e, loadSettingsFromDb (post form db) = some e ∧ e.Yields form.data db

/-- No field but the password is without data: a port was entered, and the request has the text
    fields. -/
def SettingsData.filled (d : SettingsData) : Bool :=
  d.emailSmtpPort.isSome && d.emailSmtpHost.isSome && d.emailSmtpUser.isSome &&
    d.emailFromAddress.isSome && d.emailFromName.isSome

/-! ## 6. What is stored -/

/-- The keys of `SETTING_MAP`. -/
def settingKeys : List String :=
  ["MAX_UPLOAD_SIZE_BYTES", "DEFAULT_MAX_QUEUED_JOBS", "DEFAULT_MAX_TERMINAL_SESSIONS",
    "MAX_JOBS_PER_HOUR", "MAX_TERMINAL_SESSION_SECONDS", "TERMINAL_IDLE_TIMEOUT_SECONDS",
    "WORKER_POLL_SECONDS", "REGISTRATION_OPEN", "MAINTENANCE_MODE", "TERMINAL_SESSION_LOG_ENABLED",
    "EMAIL_SMTP_HOST", "EMAIL_SMTP_PORT", "EMAIL_SMTP_USER", "EMAIL_SMTP_PASSWORD",
    "EMAIL_USE_TLS", "EMAIL_FROM_ADDRESS", "EMAIL_FROM_NAME"]

theorem passwordText_keys (password : Option String) :
    ((passwordText password).map Prod.fst).Sublist ["EMAIL_SMTP_PASSWORD"] := by
  unfold passwordText
  split
  · split
    · exact List.nil_sublist _
    · exact List.Sublist.refl _
  · exact List.nil_sublist _

theorem settingMap_keys (d : SettingsData) : ((settingMap d).map Prod.fst).Sublist settingKeys := by
  unfold settingMap
  rw [List.map_append, List.map_append]
  exact ((List.Sublist.refl _).append (passwordText_keys _)).append (List.Sublist.refl _)

/-- No key is stored twice. -/
theorem settingMap_nodup (d : SettingsData) : ((settingMap d).map Prod.fst).Nodup := by
  have hkeys : settingKeys.Nodup := by decide
  exact hkeys.sublist (settingMap_keys d)

theorem ints_stored (d : SettingsData) : ∀ e ∈ d.ints, (e.1, toString e.2) ∈ settingMap d := by
  simp [SettingsData.ints, settingMap]

theorem flags_stored (d : SettingsData) : ∀ e ∈ d.flags, (e.1, flagText e.2) ∈ settingMap d := by
  simp [SettingsData.flags, settingMap]

section Post

variable {form : SettingsForm} {db : AdminSettings}

/-- **Each key has the text that `SETTING_MAP` gives it.** -/
theorem get?_post {key text : String} (h : (key, text) ∈ settingMap form.data) :
    (post form db).get? key = some text :=
  Dict.get?_setAll (settingMap_nodup form.data) h db

theorem safeBool_flagText (v : Bool) : safeBool (flagText v) = v := by cases v <;> decide

theorem getRaw_post {key text : String} (h : (key, text) ∈ settingMap form.data) :
    getRaw (post form db) key = some text := by
  rw [getRaw, get?_post h]
  rfl

/-- An integer reads back, in the unit of its key. -/
theorem getInt_post {key : String} {n : Int} (h : (key, toString n) ∈ settingMap form.data) :
    getInt (post form db) key = n := by
  rw [getInt, intSetting, getRaw_post h]
  show (parseInt (toString n)).getD 0 = n
  rw [parseInt_toString]
  rfl

/-- The field shows it in its own unit. -/
theorem shownInt_post {key : String} {n unit default : Int} (hunit : unit ≠ 0)
    (h : (key, toString (n * unit)) ∈ settingMap form.data) :
    shownInt (post form db) key unit default = n := by
  rw [shownInt, get?_post h]
  show ((parseInt (toString (n * unit))).or (some 0)).getD 0 / unit = n
  rw [parseInt_toString]
  exact Int.mul_ediv_cancel n hunit

theorem getBool_post {key : String} {v : Bool} (h : (key, flagText v) ∈ settingMap form.data) :
    getBool (post form db) key = v := by
  rw [getBool, getRaw_post h]
  exact safeBool_flagText v

theorem shownBool_post {key : String} {v : Bool} (h : (key, flagText v) ∈ settingMap form.data) :
    shownBool (post form db) key = v := by
  rw [shownBool, get?_post h]
  exact safeBool_flagText v

/-- The password after the POST: the one entered, or the one before where it is blank. -/
theorem password_post : ((post form db).get? "EMAIL_SMTP_PASSWORD").getD "" =
    orText (form.data.emailSmtpPassword.getD "") ((db.get? "EMAIL_SMTP_PASSWORD").getD "") := by
  have hkept : passwordText form.data.emailSmtpPassword = [] →
      (post form db).get? "EMAIL_SMTP_PASSWORD" = db.get? "EMAIL_SMTP_PASSWORD" := by
    intro hnone
    refine Dict.get?_setAll_of_not_mem ?_ db
    unfold settingMap
    rw [hnone, List.map_append, List.map_append]
    show "EMAIL_SMTP_PASSWORD" ∉ settingKeys.erase "EMAIL_SMTP_PASSWORD"
    decide
  cases hpw : form.data.emailSmtpPassword with
  | none =>
      rw [hkept (by rw [hpw]; rfl)]
      rfl
  | some password =>
      by_cases hblank : password = ""
      · rw [hkept (by rw [hpw, passwordText, if_pos hblank]), Option.getD_some, orText,
          if_pos hblank]
      · have hmem : ("EMAIL_SMTP_PASSWORD", password) ∈ settingMap form.data := by
          refine List.mem_append_left _ (List.mem_append_right _ ?_)
          rw [hpw, passwordText, if_neg hblank]
          exact List.mem_singleton_self _
        rw [get?_post hmem, Option.getD_some, orText, if_neg hblank]

/-! ## 7. The form after the POST -/

/-- **What the form shows after the POST**: the data, and the text `None` for a text field without
    data. -/
theorem shown_post : shown (post form db) =
    { form.data with
      emailSmtpHost := some (strText form.data.emailSmtpHost)
      emailSmtpUser := some (strText form.data.emailSmtpUser)
      emailSmtpPassword := none
      emailFromAddress := some (strText form.data.emailFromAddress)
      emailFromName := some (strText form.data.emailFromName) } := by
  have hport : ((post form db).get? "EMAIL_SMTP_PORT").bind (fun v => safeInt v none) =
      form.data.emailSmtpPort := by
    have hmem : ("EMAIL_SMTP_PORT", strInt form.data.emailSmtpPort) ∈ settingMap form.data := by
      simp [settingMap]
    rw [get?_post hmem]
    show (parseInt _).or none = _
    rw [Option.or_none]
    cases form.data.emailSmtpPort with
    | none => decide
    | some n => exact parseInt_toString n
  unfold shown
  rw [SettingsData.mk.injEq]
  refine ⟨shownInt_post (by decide) ?_, shownInt_post (by decide) ?_, shownInt_post (by decide) ?_,
    shownInt_post (by decide) ?_, shownInt_post (by decide) ?_, shownInt_post (by decide) ?_,
    shownInt_post (by decide) ?_, shownBool_post ?_, shownBool_post ?_, shownBool_post ?_,
    get?_post ?_, hport, get?_post ?_, rfl, shownBool_post ?_, get?_post ?_, get?_post ?_⟩
  all_goals simp [settingMap, Int.mul_assoc]

/-- What is shown is the data exactly where no text field is without data. -/
theorem repopulated_iff (form : SettingsForm) (db : AdminSettings) :
    shown (post form db) = { form.data with emailSmtpPassword := none } ↔
    form.data.emailSmtpHost.isSome ∧ form.data.emailSmtpUser.isSome ∧
      form.data.emailFromAddress.isSome ∧ form.data.emailFromName.isSome := by
  have htext : ∀ v : Option String, some (strText v) = v ↔ v.isSome := by
    intro v
    cases v with
    | none => simp
    | some s => simp [strText]
  rw [shown_post]
  simp [htext]

/-! ## 8. The readers after the POST -/

theorem orText_empty (value : String) : orText value "" = value := by
  unfold orText
  split
  · rename_i h
    exact h.symm
  · rfl

/-- `int` of the text of a port, which is none where there was no port. -/
theorem portOf_strInt (port : Option Int) : portOf (strInt port) = port := by
  cases port with
  | none => decide
  | some n =>
      have hparse : parseInt (toString n) = some n := parseInt_toString n
      have hne : toString n ≠ "" := by
        intro e
        rw [e] at hparse
        exact absurd hparse (by simp [parseInt, parseSigned, strip])
      show portOf (toString n) = some n
      rw [portOf, if_neg hne, hparse]

/-- A key without a default text. -/
theorem getSetting_eq {key : String} (default : String)
    (hdefault : settingDefaults.lookup key = none) :
    getSetting db key default = orText ((db.get? key).getD "") default := by
  rw [getSetting, getRaw, hdefault, Option.or_none]

/-- The texts of the e-mail settings after the POST. -/
theorem texts_post (form : SettingsForm) (db : AdminSettings) :
    (post form db).get? "EMAIL_SMTP_HOST" = some (strText form.data.emailSmtpHost) ∧
    (post form db).get? "EMAIL_SMTP_PORT" = some (strInt form.data.emailSmtpPort) ∧
    (post form db).get? "EMAIL_SMTP_USER" = some (strText form.data.emailSmtpUser) ∧
    (post form db).get? "EMAIL_USE_TLS" = some (flagText form.data.emailUseTls) ∧
    (post form db).get? "EMAIL_FROM_ADDRESS" = some (strText form.data.emailFromAddress) ∧
    (post form db).get? "EMAIL_FROM_NAME" = some (strText form.data.emailFromName) := by
  refine ⟨get?_post ?_, get?_post ?_, get?_post ?_, get?_post ?_, get?_post ?_, get?_post ?_⟩
  all_goals simp [settingMap]

/-- What is read of the e-mail settings after the POST; `ssl` is not on the form. -/
def emailAfter (d : SettingsData) (before : AdminSettings) (ssl : Bool) (port : Int) :
    EmailSettings where
  smtpHost := strText d.emailSmtpHost
  smtpPort := port
  smtpUser := strText d.emailSmtpUser
  smtpPassword :=
    orText (d.emailSmtpPassword.getD "") ((before.get? "EMAIL_SMTP_PASSWORD").getD "")
  useTls := d.emailUseTls
  useSsl := ssl
  fromAddress := orText (strText d.emailFromAddress) "noreply@retrobridge.local"
  fromName := orText (strText d.emailFromName) "RetroBridge"

/-- **`_load_settings` after the POST**: it raises exactly where there was no port. -/
theorem loadSettings_post (form : SettingsForm) (db : AdminSettings) :
    ∃ ssl, loadSettings (post form db) =
      form.data.emailSmtpPort.map (emailAfter form.data db ssl) := by
  obtain ⟨hhost, hport, huser, htls, haddress, hname⟩ := texts_post form db
  have htrue : trueTexts.contains (flagText form.data.emailUseTls) = form.data.emailUseTls := by
    cases form.data.emailUseTls <;> decide
  refine ⟨trueTexts.contains (getSetting (post form db) "EMAIL_USE_SSL" ""), ?_⟩
  unfold loadSettings emailAfter
  rw [getSetting_eq "" (by decide), getSetting_eq "" (by decide), getSetting_eq "" (by decide),
    getSetting_eq "" (by decide), getSetting_eq "" (by decide), getSetting_eq "" (by decide),
    getSetting_eq _ (by decide), getSetting_eq _ (by decide), hhost, hport, huser, htls, haddress,
    hname, password_post]
  simp only [Option.getD_some, orText_empty, portOf_strInt, htrue]

/-- **`_load_settings_from_db` after the POST** reads the same. -/
theorem loadSettingsFromDb_post (form : SettingsForm) (db : AdminSettings) :
    ∃ ssl, loadSettingsFromDb (post form db) =
      form.data.emailSmtpPort.map (emailAfter form.data db ssl) := by
  obtain ⟨hhost, hport, huser, htls, haddress, hname⟩ := texts_post form db
  have htrue : trueTexts.contains (lower (flagText form.data.emailUseTls)) =
      form.data.emailUseTls := safeBool_flagText form.data.emailUseTls
  refine ⟨trueTexts.contains (lower (((post form db).get? "EMAIL_USE_SSL").getD "")), ?_⟩
  unfold loadSettingsFromDb emailAfter
  simp only [hhost, hport, huser, htls, haddress, hname, password_post, Option.getD_some,
    portOf_strInt, htrue]

end Post

/-- Where no field is without data, that is what was entered. -/
theorem emailAfter_yields {d : SettingsData} {before : AdminSettings} {ssl : Bool} {port : Int}
    (hport : d.emailSmtpPort = some port) (hhost : d.emailSmtpHost.isSome)
    (huser : d.emailSmtpUser.isSome) (haddress : d.emailFromAddress.isSome)
    (hname : d.emailFromName.isSome) : (emailAfter d before ssl port).Yields d before := by
  have htext : ∀ v : Option String, v.isSome → strText v = v.getD "" := by
    intro v hv
    obtain ⟨s, rfl⟩ := Option.isSome_iff_exists.mp hv
    rfl
  refine ⟨htext _ hhost, ?_, htext _ huser, rfl, rfl, ?_, ?_⟩
  · rw [hport]
    rfl
  · exact congrArg (orText · _) (htext _ haddress)
  · exact congrArg (orText · _) (htext _ hname)

/-! ## 9. The round trip -/

/-- **Settings survive the round trip exactly where no field but the password is without data.** -/
theorem post_survives_iff (form : SettingsForm) (db : AdminSettings) :
    Survives form db ↔ form.data.filled = true := by
  have hfilled : form.data.filled = true ↔ form.data.emailSmtpPort.isSome ∧
      form.data.emailSmtpHost.isSome ∧ form.data.emailSmtpUser.isSome ∧
      form.data.emailFromAddress.isSome ∧ form.data.emailFromName.isSome := by
    simp [SettingsData.filled, and_assoc]
  rw [hfilled, ← repopulated_iff form db]
  constructor
  · intro h
    refine ⟨?_, h.repopulated⟩
    obtain ⟨ssl, hload⟩ := loadSettings_post form db
    obtain ⟨e, he, -⟩ := h.email
    rw [hload] at he
    obtain ⟨port, hport, -⟩ := Option.map_eq_some_iff.mp he
    rw [hport]
    rfl
  · rintro ⟨hport, hshown⟩
    obtain ⟨port, hport⟩ := Option.isSome_iff_exists.mp hport
    obtain ⟨hhost, huser, haddress, hname⟩ := (repopulated_iff form db).mp hshown
    obtain ⟨ssl, hload⟩ := loadSettings_post form db
    obtain ⟨ssl', hloadDb⟩ := loadSettingsFromDb_post form db
    rw [hport] at hload hloadDb
    refine ⟨hshown, ?_, ?_, ?_, ?_⟩
    · exact fun e he => getInt_post (ints_stored form.data e he)
    · exact fun e he => getBool_post (flags_stored form.data e he)
    · exact ⟨_, hload, emailAfter_yields hport hhost huser haddress hname⟩
    · exact ⟨_, hloadDb, emailAfter_yields hport hhost huser haddress hname⟩

/-- The defaults of the form with the port cleared. -/
def portCleared : SettingsForm where
  data :=
    { maxUploadSizeMb := 16, defaultMaxQueuedJobs := 3, defaultMaxTerminalSessions := 1
      maxJobsPerHour := 10, maxTerminalSessionMinutes := 60, terminalIdleTimeoutMinutes := 5
      workerPollSeconds := 5, registrationOpen := true, maintenanceMode := false
      terminalSessionLogEnabled := false, emailSmtpHost := some "smtp.example.com"
      emailSmtpPort := none, emailSmtpUser := some "", emailSmtpPassword := some ""
      emailUseTls := true, emailFromAddress := some "", emailFromName := some "" }
  valid := by decide

/-- **A blank port**: the text `None` is stored, and every e-mail from then on raises. -/
theorem blank_port_raises : loadSettings (post portCleared Dict.empty) = none ∧
    loadSettingsFromDb (post portCleared Dict.empty) = none ∧
    ¬Survives portCleared Dict.empty := by
  obtain ⟨ssl, hload⟩ := loadSettings_post portCleared Dict.empty
  obtain ⟨ssl', hloadDb⟩ := loadSettingsFromDb_post portCleared Dict.empty
  refine ⟨hload, hloadDb, fun h => ?_⟩
  obtain ⟨e, he, -⟩ := h.email
  rw [hload] at he
  cases he

end RetroBridge.Admin
