/-
  File:      RetroBridge/Models.lean
  Subject:   THE SITE: time, users, devices, ports and settings (retrobridge/models.py,
             retrobridge/admin/settings_utils.py, retrobridge/integrations/patreon.py).

  The rows that the job queue and the terminal read and that no operation of theirs writes.
  Jobs, terminal sessions and port leases -- the rows they do write -- are in Jobs/Model.lean and
  Terminal/Model.lean.
-/
import RetroBridge.Library.Table

namespace RetroBridge

open Relational

/-! ## 1. Time -/

/-- A point in time in microseconds, as `datetime.now(UTC)` and `time.time()` answer it. -/
abbrev Time := Int

/-- `timedelta(seconds=n)`. -/
def seconds (n : Int) : Time := n * 1000000

/-! ## 2. Rows -/

/-- A row of `users`. -/
structure User where
  id : Nat
  isAdmin : Bool
  maxQueuedJobs : Int
  maxTerminalSessions : Int
  patreonTier : Option String

/-- A row of `devices`. -/
structure Device where
  id : Nat
  name : String
  displayName : Option String
  isEnabled : Bool

/-- `DevicePort.purpose`. -/
inductive Purpose where
  | jobQueue
  | interactive
  deriving DecidableEq, Repr

/-- A row of `device_ports`; the integer columns are nullable. -/
structure DevicePort where
  id : Nat
  deviceId : Nat
  portLabel : String
  transport : Option String
  devPath : String
  purpose : Purpose
  baud : Option Int
  maxConcurrentJobs : Option Int
  maxRuntimeSeconds : Option Int
  idleTimeoutSeconds : Option Int
  isEnabled : Bool

instance : Keyed User := ⟨User.id⟩
instance : Keyed Device := ⟨Device.id⟩
instance : Keyed DevicePort := ⟨DevicePort.id⟩

/-- Python's `value or default` on a nullable integer: 0 is falsy too. -/
def orDefault (value : Option Int) (default : Int) : Int :=
  match value with
  | some v => if v = 0 then default else v
  | none => default

/-! ## 3. The site -/

/-- What the job queue and the terminal read of the site. `intSetting key` is `int(value)` of the
    stored or default text of an admin setting, `none` where that raises. -/
structure Site where
  users : Table User
  devices : Table Device
  ports : Table DevicePort
  intSetting : String → Option Int
  uploadsDir : String
  outputsDir : String

/-- `get_int`: 0 where the text is no integer. -/
def getInt (site : Site) (key : String) : Int := (site.intSetting key).getD 0

/-- `get_tier_limits`: the job and the session limit of a tier, none where either is not set. -/
def getTierLimits (site : Site) (tierName : String) : Option (Int × Int) :=
  let tierKey := (tierName.toLower.trimAscii).toString
  if tierKey = "" ∨ tierKey = "none" then none
  else
    match site.intSetting ("PATREON_TIER_" ++ tierKey.toUpper ++ "_JOBS"),
        site.intSetting ("PATREON_TIER_" ++ tierKey.toUpper ++ "_SESSIONS") with
    | some jobs, some sessions => if jobs ≤ 0 ∨ sessions ≤ 0 then none else some (jobs, sessions)
    | _, _ => none

/-- The limit a tier raises: `limit` unless the user has a tier whose own limit is higher. -/
def raisedLimit (site : Site) (user : User) (pick : Int × Int → Int) (limit : Int) : Int :=
  match user.patreonTier with
  | none => limit
  | some tier =>
    match getTierLimits site tier with
    | none => limit
    | some limits => if pick limits > limit then pick limits else limit

/-- The enabled device of a name (`query(Device).filter_by(name=…, is_enabled=True).first()`). -/
def enabledDevice? (site : Site) (name : String) : Option Device :=
  site.devices.rows.find? fun d => d.name == name && d.isEnabled

/-- The enabled ports of a device with a purpose, in table order. -/
def enabledPorts (site : Site) (deviceId : Nat) (purpose : Purpose) : List DevicePort :=
  site.ports.rows.filter fun p => p.deviceId == deviceId && p.purpose == purpose && p.isEnabled

theorem mem_enabledPorts {site : Site} {deviceId : Nat} {purpose : Purpose} {p : DevicePort} :
    p ∈ enabledPorts site deviceId purpose ↔
      p ∈ site.ports ∧ p.deviceId = deviceId ∧ p.purpose = purpose ∧ p.isEnabled = true := by
  simp [enabledPorts, Table.mem_def, and_assoc]

end RetroBridge
