/-
  File:      RetroBridge/Jobs/Creation.lean
  Subject:   ONE CALL OF create_job AND WHAT AN EXCEPTION LEAVES BEHIND (retrobridge/jobs/utils.py:
             `validate_file_content`, `create_job`).

  The call works on two stores: the session, which may be in a transaction that holds SQLite's write
  lock and rows not committed yet, and the directory of the uploads. Nothing in it rolls back what
  it has begun, and nothing removes a directory or a file again. A statement that the session sends
  for an object flushes first what its caller has left unsaved.

  * `validateFileContent` -- the checks of the upload, with their messages;
  * `Store` -- committed rows, the session's transaction, the job directories and the uploads;
  * `Surroundings` -- what the calls of `create_job` answer: which raise, what a failed save leaves,
    how the commit ends;
  * `afterGet` -- the read of the device, with the flush before it;
  * `createJob` -- the call, with the exception that leaves it;
  * `storeJob_stores`, `storeJob_raises` -- what the part after the checks leaves: the row of
    Submit.lean and its file, or a transaction of the call;
  * `valueError_locked` -- **a submission refused after BEGIN IMMEDIATE keeps the write lock**;
  * `AllOrNothing`, `all_or_nothing_iff` -- the call is all or nothing exactly where every check and
    every call goes through, or where it stops before it has begun a transaction of its own or taken
    the lock in its caller's;
  * `refused_locked` -- a submission past the user's limit.
-/
import RetroBridge.Library.Utf8
import RetroBridge.Jobs.Storage

namespace RetroBridge.Jobs.Creation

open Relational

/-! ## 1. The uploaded file -/

/-- `ALLOWED_EXTENSIONS`. -/
def allowedExtensions : List String := ["bin", "hex", "obj", "asm", "s", "txt"]

/-- `TEXT_EXTENSIONS`. -/
def textExtensions : List String := ["txt", "asm", "s", "hex"]

/-- `_REJECT_SIGNATURES`: an offset, the bytes there, the label. -/
def rejectSignatures : List (Nat × List UInt8 × String) :=
  [(0, [0x7F, 0x45, 0x4C, 0x46], "ELF executable"),
    (0, [0x4D, 0x5A], "DOS/PE executable"),
    (0, [0xCF, 0xFA, 0xED, 0xFE], "Mach-O 64-bit executable"),
    (0, [0xCE, 0xFA, 0xED, 0xFE], "Mach-O 32-bit executable"),
    (0, [0xFE, 0xED, 0xFA, 0xCE], "Mach-O 64-bit (reverse)"),
    (0, [0xFE, 0xED, 0xFA, 0xCF], "Mach-O 32-bit (reverse)"),
    (0, [0xCA, 0xFE, 0xBA, 0xBE], "Mach-O universal binary"),
    (0, [0xBE, 0xBA, 0xFE, 0xCA], "Mach-O universal (reverse)"),
    (0, [0x00, 0x00, 0x01, 0x00], "Windows icon"),
    (0, [0x50, 0x4B, 0x03, 0x04], "ZIP archive"),
    (0, [0x1F, 0x8B], "gzip archive"),
    (0, [0x52, 0x61, 0x72, 0x21, 0x1A, 0x07], "RAR archive"),
    (0, [0xED, 0xAB, 0xEE, 0xDB], "RPM package"),
    (0, [0x42, 0x5A, 0x68], "bzip2 archive"),
    (0, [0x89, 0x50, 0x4E, 0x47], "PNG image"),
    (0, [0xFF, 0xD8, 0xFF], "JPEG image"),
    (0, [0x47, 0x49, 0x46, 0x38], "GIF image"),
    (0, [0x25, 0x50, 0x44, 0x46], "PDF document"),
    (0, [0xD0, 0xCF, 0x11, 0xE0], "OLE2/MS Office document")]

/-- `_MIN_UPLOAD_READ`. -/
def minUploadRead : Nat := 1024

/-- `filename.rsplit(".", 1)[-1].lower() if "." in filename else ""`, on the ASCII that
    `secure_filename` answers. -/
def fileExtension (filename : String) : String :=
  if '.' ∈ filename.toList then
    String.ofList ((filename.toList.reverse.takeWhile (· ≠ '.')).reverse.map Char.toLower)
  else ""

/-- The signature stands at its offset. -/
def hasSignature (header : List UInt8) (entry : Nat × List UInt8 × String) : Bool :=
  decide (entry.1 + entry.2.1.length ≤ header.length) &&
    (header.drop entry.1).take entry.2.1.length == entry.2.1

/-- What `bytes.lstrip()` strips. -/
def isSpace (b : UInt8) : Bool := b == 0x20 || (decide (0x09 ≤ b) && decide (b ≤ 0x0D))

/-- The checks of a file that is named as text. -/
def textRefusal (header : List UInt8) (ext : String) : Option String :=
  if 0 ∈ header then
    some (s!"File has a .{ext} extension but contains binary data " ++
      "(null bytes detected). Only plain text is accepted for this file type.")
  else if header.any (fun b => decide (0x80 ≤ b)) ∧ Utf8.replacement ∈ Utf8.decode header then
    some (s!"File has a .{ext} extension but contains non-text " ++
      "data. Only plain ASCII text is accepted for this file type.")
  else if ext = "hex" ∧ ((header.dropWhile isSpace).head?.any (· ≠ 0x3A)) then
    some ("Intel HEX files must begin with a colon (:). " ++
      "The uploaded file does not appear to be in Intel HEX format.")
  else none

/-- **`validate_file_content`**: the message it raises. `readable` is false where the stream raises
    while the header is read. -/
def validateFileContent (readable : Bool) (content : List UInt8) (filename : String) :
    Option String :=
  let ext := fileExtension filename
  if ext ∉ allowedExtensions then some s!"Unsupported file type: .{ext}"
  else if readable = false then some "Unable to read file content"
  else
    let header := content.take minUploadRead
    if header = [] then some "File is empty"
    else
      match rejectSignatures.find? (hasSignature header) with
      | some (_, _, label) => some s!"File appears to be a {label} — not allowed"
      | none => if ext ∈ textExtensions then textRefusal header ext else none

/-! ## 2. The two stores -/

/-- Who began the session's transaction. -/
inductive Owner where
  | caller
  | createJob
  deriving DecidableEq

/-- A transaction of the session: where an object is new or dirty, the rows of `jobs` among the new
    ones; whether an object is marked as deleted; the rows it has flushed, and whether it holds the
    write lock of the database. -/
structure Transaction where
  owner : Owner
  unsaved : Option (List Job)
  deletes : Bool
  rows : List Job
  writeLock : Bool

/-- The committed rows, the session's transaction, and under the upload directory the directories of
    the jobs and the uploads. -/
structure Store where
  jobs : Table Job
  transaction : Option Transaction
  dirs : String → Bool
  files : String → Option (List UInt8)

namespace Store

variable (s : Store)

/-- The transaction is one that `create_job` began. -/
def begunHere : Bool := s.transaction.any (·.owner = .createJob)

/-- The session holds the write lock. -/
def writeLock : Bool := s.transaction.any (·.writeLock)

/-- The rows that are new or flushed, and not committed. -/
def pendingRows : List Job :=
  (s.transaction.map fun t => t.unsaved.getD [] ++ t.rows).getD []

/-- `raw_session.dirty or raw_session.new`. -/
def pendingWrites : Bool := s.transaction.any (·.unsaved.isSome)

/-- A flush has something to look at. -/
def unclean : Bool := s.transaction.any fun t => t.unsaved.isSome || t.deletes

/-- A statement, or an `add`, begins the session's transaction if there is none. -/
def autobegin : Store :=
  match s.transaction with
  | some _ => s
  | none => { s with transaction := some ⟨.createJob, none, false, [], false⟩ }

/-- `raw_session.rollback()`. -/
def rollback : Store := { s with transaction := none }

/-- The session's own transaction with these rows, under the write lock. -/
def holding (rows : List Job) : Store :=
  { s with transaction := some ⟨.createJob, none, false, rows, true⟩ }

/-- A flush that goes through. Its statements take the write lock; it sends none for an object that
    is dirty without a change. -/
def flushed (sends : Bool) : Store :=
  { s with
    transaction := s.transaction.map fun t =>
      ⟨t.owner, none, false, t.rows ++ t.unsaved.getD [], t.writeLock || sends⟩ }

/-- What a flush that fails leaves: it rolls the database back, and the transaction stays the
    session's until the session is rolled back too. -/
def undone : Store :=
  { s with transaction := s.transaction.map fun t => ⟨t.owner, none, false, [], false⟩ }

/-- `job_dir.mkdir(parents=True, exist_ok=True)`. -/
def mkdir (dir : String) : Store := { s with dirs := Function.update s.dirs dir true }

/-- The file is opened, and these bytes are written to it. -/
def write (file : String) (bytes : List UInt8) : Store :=
  { s with files := Function.update s.files file (some bytes) }

/-- `db_session.commit()` with one new row. -/
def commit (job : Job) : Store := { s with jobs := s.jobs.insert job, transaction := none }

end Store

/-! ## 3. What the calls answer -/

/-- The arguments of `create_job`; `content` is what the uploaded file holds. -/
structure CreateArgs where
  userId : Nat
  deviceId : Nat
  filename : String
  content : List UInt8
  priority : Int
  newlineMode : String
  preTransferCmds : String
  postTransferCmds : String

/-- The calls that may raise whatever the arguments are. -/
inductive Fallible where
  | autoflush
  | getDevice
  | beginImmediate
  | getUser
  | getUserQuota
  | checkRateLimit
  | readHeader
  | getMaxSize
  | tell
  | flush
  | mkdir
  | stat
  deriving DecidableEq

/-- How `file_obj.save` ends; one that fails may have opened the file and written some of it. -/
inductive SaveAnswer where
  | saved
  | failed (written : Option (List UInt8))

/-- How `db_session.commit()` ends: done, refused with the transaction as it was, or undone. -/
inductive CommitAnswer where
  | committed
  | refused
  | undone

/-- **What is around a call**: the clock, the device object if the session has it loaded, whether
    the flush before a read sends a statement, `secure_filename`, and the answers. -/
structure Surroundings where
  now : Time
  loadedDevice : Option Device
  flushSends : Bool
  secureFilename : String → String
  raises : Fallible → Bool
  save : SaveAnswer
  commit : CommitAnswer

/-- What leaves `create_job`. -/
inductive CreateError where
  | valueError (message : String)
  | runtimeError (message : String)
  | databaseError
  | osError

/-! ## 4. create_job -/

section CreateJob

variable (site : Site) (e : Surroundings) (c : CreateArgs)

/-- `secure_filename(filename or "program.bin")`. -/
def safeName : String := e.secureFilename (if c.filename = "" then "program.bin" else c.filename)

/-- `text or None`. -/
def orNone (text : String) : Option String := if text = "" then none else some text

/-- The arguments that reach the row. -/
def submission : Submission where
  userId := c.userId
  deviceId := c.deviceId
  safeName := safeName e c
  priority := c.priority
  newlineMode := orNone c.newlineMode
  preTransferCmds := orNone c.preTransferCmds
  postTransferCmds := orNone c.postTransferCmds

/-- `db_session.get(Device, device_id)`. -/
def device? : Option Device := e.loadedDevice <|> site.devices.get? c.deviceId

/-- An object the session has loaded needs no statement. -/
def sendsGet : Bool := e.loadedDevice.isNone

/-- The checks of the device. -/
def deviceRefusal : Option CreateError :=
  if sendsGet e = true ∧ e.raises .getDevice = true then some .databaseError
  else
    match device? site e c with
    | none => some (.valueError "Device does not exist.")
    | some device =>
      if device.isEnabled = false then some (.valueError "Device is currently disabled.") else none

/-- The check of the size. -/
def sizeRefusal : Option CreateError :=
  if e.raises .getMaxSize then some .databaseError
  else
    let maxSize := getInt site "MAX_UPLOAD_SIZE_BYTES"
    if 0 < maxSize then
      if e.raises .tell then some .osError
      else
        let size := c.content.length
        if maxSize < size then
          some (.valueError s!"File size ({size} bytes) exceeds maximum ({maxSize} bytes).")
        else none
    else none

/-- **The checks under the write lock**, in their order. -/
def submissionRefusal (jobs : Table Job) : Option CreateError :=
  if e.raises .getUser then some .databaseError
  else
    match site.users.get? c.userId with
    | none => some (.valueError "User does not exist.")
    | some user =>
      if e.raises .getUserQuota then some .databaseError
      else if (getUserQuota site jobs user).2.2 then
        some (.valueError "You have reached your maximum number of queued/running jobs.")
      else if e.raises .checkRateLimit then some .databaseError
      else
        let (rateLimited, maxPerHour) := checkRateLimit site e.now jobs c.userId
        if rateLimited then
          some (.valueError s!"Rate limit reached: {maxPerHour} jobs per hour.")
        else
          match validateFileContent (!e.raises .readHeader) c.content (safeName e c) with
          | some message => some (.valueError message)
          | none => sizeRefusal site e c

/-- The directory of a job's upload. -/
def jobDir (id : Nat) : String := "job-" ++ toString id

/-- The row as it is flushed first. -/
def flushedRow (id : Nat) : Job :=
  { newJob (submission e c) e.now id "" 0 with storedFilename := none, fileSizeBytes := none }

/-- `ck_jobs_override_newline_mode`. -/
def newlineModeAllowed : Bool :=
  (orNone c.newlineMode).all fun mode => ["crlf", "cr", "lf"].contains mode

/-- The flush of the new row goes through. -/
def flushes : Bool := !e.raises .flush && newlineModeAllowed c

/-- **From the row to the commit**, with what the two stores hold where it stops. -/
def storeJob (s : Store) : Except CreateError Job × Store :=
  let job := flushedRow e c s.jobs.nextKey
  let file := storedName job.id (safeName e c)
  if flushes e c = false then (.error .databaseError, s.undone)
  else
    let flushed := s.holding [job]
    if e.raises .mkdir then (.error .osError, flushed)
    else
      let made := flushed.mkdir (jobDir job.id)
      match e.save with
      | .failed none => (.error .osError, made)
      | .failed (some written) => (.error .osError, made.write file written)
      | .saved =>
        let saved := made.write file c.content
        if e.raises .stat then (.error .osError, saved)
        else
          let row :=
            { job with storedFilename := some file, fileSizeBytes := some c.content.length }
          match e.commit with
          | .committed => (.ok row, saved.commit row)
          | .refused => (.error .databaseError, saved.holding [row])
          | .undone => (.error .databaseError, saved.undone)

/-- `db_session.get(Device, device_id)` flushes before its statement. -/
def flushesFirst (s : Store) : Bool := sendsGet e && s.unclean

/-- This flush raises. -/
def flushRaises (s : Store) : Bool := flushesFirst e s && e.raises .autoflush

/-- The session after `db_session.get(Device, device_id)`. -/
def afterGet (s : Store) : Store :=
  if flushesFirst e s then if e.raises .autoflush then s.undone else s.flushed e.flushSends
  else if sendsGet e then s.autobegin
  else s

/-- **`create_job`**: the job or the exception, and the two stores after it. -/
def createJob (s : Store) : Except CreateError Job × Store :=
  let s₁ := afterGet e s
  if flushRaises e s then (.error .databaseError, s₁)
  else
    match deviceRefusal site e c with
    | some error => (.error error, s₁)
    | none =>
      -- what the read of the device has flushed is not pending any more, and is rolled back
      if s₁.pendingWrites then
        (.error (.runtimeError "create_job must be called with no pending writes in the session"),
          s₁)
      else
        -- the statement begins the session's transaction before it reaches the database
        let s₂ := s₁.rollback.autobegin
        if e.raises .beginImmediate then (.error .databaseError, s₂)
        else
          let s₃ := s₂.holding []
          match submissionRefusal site e c s₃.jobs with
          | some error => (.error error, s₃)
          | none => storeJob e c s₃

end CreateJob

/-! ## 5. Where a call stops -/

namespace Store

variable {s : Store}

@[simp] theorem begunHere_holding (rows : List Job) : (s.holding rows).begunHere = true := rfl
@[simp] theorem writeLock_holding (rows : List Job) : (s.holding rows).writeLock = true := rfl
@[simp] theorem begunHere_mkdir (dir : String) : (s.mkdir dir).begunHere = s.begunHere := rfl
@[simp] theorem begunHere_write (file : String) (bytes : List UInt8) :
    (s.write file bytes).begunHere = s.begunHere := rfl

@[simp] theorem begunHere_rollback_autobegin : s.rollback.autobegin.begunHere = true := rfl

@[simp] theorem begunHere_undone : s.undone.begunHere = s.begunHere := by
  unfold begunHere undone
  exact Option.any_map ..

@[simp] theorem begunHere_flushed (sends : Bool) : (s.flushed sends).begunHere = s.begunHere := by
  unfold begunHere flushed
  exact Option.any_map ..

@[simp] theorem pendingWrites_undone : s.undone.pendingWrites = false := by
  unfold pendingWrites undone
  cases s.transaction <;> rfl

@[simp] theorem pendingWrites_flushed (sends : Bool) : (s.flushed sends).pendingWrites = false := by
  unfold pendingWrites flushed
  cases s.transaction <;> rfl

@[simp] theorem pendingWrites_autobegin : s.autobegin.pendingWrites = s.pendingWrites := by
  unfold pendingWrites autobegin
  cases h : s.transaction with
  | none => rfl
  | some t => exact congrArg (Option.any _) h

/-- A failed flush keeps no row. -/
@[simp] theorem pendingRows_undone : s.undone.pendingRows = [] := by
  unfold pendingRows undone
  cases s.transaction <;> rfl

/-- A flush makes no row that was not new. -/
theorem mem_pendingRows_flushed {sends : Bool} {job : Job} :
    job ∈ (s.flushed sends).pendingRows ↔ job ∈ s.pendingRows := by
  unfold pendingRows flushed
  cases s.transaction with
  | none => exact Iff.rfl
  | some t =>
      show job ∈ [] ++ (t.rows ++ t.unsaved.getD []) ↔ job ∈ t.unsaved.getD [] ++ t.rows
      rw [List.nil_append, List.mem_append, List.mem_append, or_comm]

@[simp] theorem writeLock_undone : s.undone.writeLock = false := by
  unfold writeLock undone
  cases s.transaction <;> rfl

/-- The write lock after the flush of what a transaction has left unsaved. -/
theorem writeLock_flushed (h : s.unclean = true) (sends : Bool) :
    (s.flushed sends).writeLock = (s.writeLock || sends) := by
  unfold unclean at h
  unfold writeLock flushed
  cases ht : s.transaction with
  | none =>
      rw [ht] at h
      cases h
  | some t => rfl

/-- A transaction that is there is not begun again. -/
theorem autobegin_of_isSome (h : s.transaction.isSome = true) : s.autobegin = s := by
  unfold autobegin
  split
  · rfl
  · rename_i hnone
    rw [hnone] at h
    cases h

theorem begunHere_autobegin (h : s.transaction.isSome = false) : s.autobegin.begunHere = true := by
  unfold autobegin
  split
  · rename_i t ht
    rw [ht] at h
    cases h
  · rfl

/-- What is pending is to be flushed. -/
theorem unclean_of_pendingWrites (h : s.pendingWrites = true) : s.unclean = true := by
  obtain ⟨t, ht, hsome⟩ := (Option.any_eq_true _ _).mp h
  exact (Option.any_eq_true _ _).mpr ⟨t, ht, by rw [hsome]; rfl⟩

/-- What is to be flushed is in a transaction. -/
theorem isSome_of_unclean (h : s.unclean = true) : s.transaction.isSome = true := by
  obtain ⟨t, ht, -⟩ := (Option.any_eq_true _ _).mp h
  rw [ht]
  rfl

/-- BEGIN IMMEDIATE takes the lock whatever transaction the session was in. -/
theorem holding_autobegin (rows : List Job) : s.autobegin.holding rows = s.holding rows := by
  unfold autobegin
  split <;> rfl

end Store

section Stops

variable {site : Site} {e : Surroundings} {c : CreateArgs} {s : Store}

/-- A session with the device loaded stays as it is. -/
theorem afterGet_loaded (h : e.loadedDevice.isSome = true) : afterGet e s = s := by
  have hsends : sendsGet e = false := by
    unfold sendsGet
    cases hl : e.loadedDevice with
    | none =>
        rw [hl] at h
        cases h
    | some device => rfl
  unfold afterGet flushesFirst
  rw [hsends]
  rfl

/-- **What is pending behind the read of the device**: only where it has sent no statement. -/
theorem afterGet_pendingWrites :
    (afterGet e s).pendingWrites = (e.loadedDevice.isSome && s.pendingWrites) := by
  cases hl : e.loadedDevice.isSome with
  | true => rw [afterGet_loaded hl, Bool.true_and]
  | false =>
      have hsends : sendsGet e = true := Option.isSome_eq_false_iff.mp hl
      rw [Bool.false_and]
      unfold afterGet flushesFirst
      rw [hsends, Bool.true_and]
      cases hu : s.unclean with
      | true =>
          cases e.raises .autoflush with
          | true => exact Store.pendingWrites_undone
          | false => exact Store.pendingWrites_flushed _
      | false =>
          show s.autobegin.pendingWrites = false
          rw [Store.pendingWrites_autobegin]
          exact Bool.eq_false_iff.mpr fun hp => by
            rw [Store.unclean_of_pendingWrites hp] at hu
            cases hu

theorem holding_afterGet (rows : List Job) :
    (afterGet e s).rollback.autobegin.holding rows = s.holding rows := by
  unfold afterGet
  split
  · split <;> rfl
  · split
    · show s.autobegin.holding rows = s.holding rows
      exact Store.holding_autobegin rows
    · rfl

/-- **The call stops before the lock**: the flush before the read of the device raises, the device
    is refused, or writes are pending and the device was loaded. -/
def StopsBefore (site : Site) (e : Surroundings) (c : CreateArgs) (s : Store) : Prop :=
  flushRaises e s = true ∨ deviceRefusal site e c ≠ none ∨
    (e.loadedDevice.isSome = true ∧ s.pendingWrites = true)

/-- A device that is refused: the session is as the read of it left it. -/
theorem createJob_device {error : CreateError} (hf : flushRaises e s = false)
    (hd : deviceRefusal site e c = some error) :
    createJob site e c s = (.error error, afterGet e s) := by
  unfold createJob
  simp only [hf, hd, Bool.false_eq_true, if_false]

/-- **Before the lock**: an exception leaves the session as the read of the device did. -/
theorem createJob_outside (h : StopsBefore site e c s) :
    ∃ error, createJob site e c s = (.error error, afterGet e s) := by
  cases hf : flushRaises e s with
  | true =>
      unfold createJob
      rw [if_pos hf]
      exact ⟨_, rfl⟩
  | false =>
  cases hd : deviceRefusal site e c with
  | some error => exact ⟨error, createJob_device hf hd⟩
  | none =>
      unfold createJob
      obtain ⟨hl, hp⟩ := (h.resolve_left (by simp [hf])).resolve_left fun hne => hne hd
      have hpending : (afterGet e s).pendingWrites = true := by
        rw [afterGet_pendingWrites, hl, hp]
        rfl
      simp only [hf, hd, hpending, if_true, Bool.false_eq_true, if_false]
      exact ⟨_, rfl⟩

/-- The session is clear for BEGIN IMMEDIATE. -/
structure Clear (site : Site) (e : Surroundings) (c : CreateArgs) (s : Store) : Prop where
  flush : flushRaises e s = false
  device : deviceRefusal site e c = none
  clean : (e.loadedDevice.isSome && s.pendingWrites) = false

theorem Clear.not_outside (h : Clear site e c s) : ¬StopsBefore site e c s := by
  rintro (hf | hd | ⟨hl, hp⟩)
  · rw [h.flush] at hf
    cases hf
  · exact hd h.device
  · have hclean := h.clean
    rw [hl, hp] at hclean
    cases hclean

theorem clear_of_not_outside (h : ¬StopsBefore site e c s) : Clear site e c s where
  flush := Bool.eq_false_iff.mpr fun hf => h (.inl hf)
  device := Classical.byContradiction fun hd => h (.inr (.inl hd))
  clean := Bool.eq_false_iff.mpr fun hc => h (.inr (.inr (Bool.and_eq_true_iff.mp hc)))

/-- BEGIN IMMEDIATE raises: no lock, and a transaction that the statement began. -/
theorem createJob_unbegun (h : Clear site e c s) (hb : e.raises .beginImmediate = true) :
    createJob site e c s = (.error .databaseError, (afterGet e s).rollback.autobegin) := by
  unfold createJob
  simp only [h.flush, h.device, afterGet_pendingWrites, h.clean, hb, if_true, Bool.false_eq_true,
    if_false]

/-- **A check fails under the lock.** -/
theorem createJob_refused {error : CreateError} (h : Clear site e c s)
    (hb : e.raises .beginImmediate = false)
    (hr : submissionRefusal site e c s.jobs = some error) :
    createJob site e c s = (.error error, s.holding []) := by
  have hjobs : (s.holding []).jobs = s.jobs := rfl
  unfold createJob
  simp only [h.flush, h.device, afterGet_pendingWrites, h.clean, hb, Bool.false_eq_true, if_false,
    holding_afterGet, hjobs, hr]

/-- Every check has passed: what is left is the row and the file. -/
theorem createJob_admitted (h : Clear site e c s) (hb : e.raises .beginImmediate = false)
    (hr : submissionRefusal site e c s.jobs = none) :
    createJob site e c s = storeJob e c (s.holding []) := by
  have hjobs : (s.holding []).jobs = s.jobs := rfl
  unfold createJob
  simp only [h.flush, h.device, afterGet_pendingWrites, h.clean, hb, Bool.false_eq_true, if_false,
    holding_afterGet, hjobs, hr]

/-- The row, the file and the commit go through. -/
structure Stores (e : Surroundings) (c : CreateArgs) : Prop where
  flushes : flushes e c = true
  mkdir : e.raises .mkdir = false
  saves : e.save = .saved
  stat : e.raises .stat = false
  commits : e.commit = .committed

/-- The row that is committed. -/
def committedRow (e : Surroundings) (c : CreateArgs) (id : Nat) : Job :=
  newJob (submission e c) e.now id (storedName id (safeName e c)) c.content.length

theorem storeJob_stores (h : Stores e c) :
    storeJob e c s = (.ok (committedRow e c s.jobs.nextKey),
      (((s.holding [flushedRow e c s.jobs.nextKey]).mkdir (jobDir s.jobs.nextKey)).write
        (storedName s.jobs.nextKey (safeName e c)) c.content).commit
          (committedRow e c s.jobs.nextKey)) := by
  unfold storeJob
  simp only [h.flushes, h.mkdir, h.saves, h.stat, h.commits, Bool.true_eq_false,
    Bool.false_eq_true, if_false]
  rfl

/-- **A call that raises after the checks** leaves a transaction of its own, whichever it is. -/
theorem storeJob_raises (h : ¬Stores e c) :
    ∃ error s', storeJob e c (s.holding []) = (.error error, s') ∧
      (error = .databaseError ∨ error = .osError) ∧ s'.begunHere = true := by
  unfold storeJob
  cases hf : flushes e c with
  | false => exact ⟨_, _, rfl, .inl rfl, rfl⟩
  | true =>
  cases hm : e.raises .mkdir with
  | true => exact ⟨_, _, rfl, .inr rfl, rfl⟩
  | false =>
  cases hs : e.save with
  | failed written =>
      cases written with
      | none => exact ⟨_, _, rfl, .inr rfl, rfl⟩
      | some bytes => exact ⟨_, _, rfl, .inr rfl, rfl⟩
  | saved =>
  cases ht : e.raises .stat with
  | true => exact ⟨_, _, rfl, .inr rfl, rfl⟩
  | false =>
  cases hc : e.commit with
  | committed => exact absurd ⟨hf, hm, hs, ht, hc⟩ h
  | refused => exact ⟨_, _, rfl, .inl rfl, rfl⟩
  | undone => exact ⟨_, _, rfl, .inl rfl, rfl⟩

/-- **A REFUSED SUBMISSION KEEPS THE WRITE LOCK**: every `ValueError` past the device's checks. -/
theorem valueError_locked {message : String} {s' : Store} (hd : deviceRefusal site e c = none)
    (h : createJob site e c s = (.error (.valueError message), s')) : s' = s.holding [] := by
  cases hf : flushRaises e s with
  | true =>
      unfold createJob at h
      simp only [hf, if_true] at h
      cases h
  | false =>
  cases hp : (e.loadedDevice.isSome && s.pendingWrites) with
  | true =>
      unfold createJob at h
      simp only [hf, hd, afterGet_pendingWrites, hp, if_true, Bool.false_eq_true, if_false] at h
      cases h
  | false =>
  have hclear : Clear site e c s := ⟨hf, hd, hp⟩
  cases hb : e.raises .beginImmediate with
  | true =>
      rw [createJob_unbegun hclear hb] at h
      cases h
  | false =>
      cases hr : submissionRefusal site e c s.jobs with
      | some error =>
          rw [createJob_refused hclear hb hr] at h
          cases h
          rfl
      | none =>
          rw [createJob_admitted hclear hb hr] at h
          by_cases hs : Stores e c
          · rw [storeJob_stores hs] at h
            cases h
          · obtain ⟨error, s₁, heq, herror, -⟩ := @storeJob_raises e c s hs
            rw [heq] at h
            cases h
            rcases herror with herror | herror <;> cases herror

end Stops

/-! ## 6. All or nothing -/

/-- The store a call finds: a transaction of the session is the caller's. -/
structure Entry extends Store where
  foreign : toStore.begunHere = false

/-- **Nothing is left**: no new row, committed or pending, no transaction that `create_job` began,
    no write lock that the caller did not hold, no directory and no file. -/
structure NothingLeft (s s' : Store) : Prop where
  committed : s'.jobs = s.jobs
  pending : ∀ job ∈ s'.pendingRows, job ∈ s.pendingRows
  transaction : s'.begunHere = false
  lock : s'.writeLock = true → s.writeLock = true
  dirs : ∀ dir, s'.dirs dir = true → s.dirs dir = true
  files : ∀ file bytes, s'.files file = some bytes → s.files file = some bytes

/-- **One row and one file are added**: the file the row names, with the bytes of the upload. -/
structure OneAdded (c : CreateArgs) (s s' : Store) (job : Job) : Prop where
  row : s'.jobs.rows = s.jobs.rows ++ [job]
  file : ∃ file, job.storedFilename = some file ∧ s.files file = none ∧
    s'.files = Function.update s.files file (some c.content)

/-- **All or nothing.** -/
def AllOrNothing (c : CreateArgs) (s : Store) : Except CreateError Job × Store → Prop
  | (.error _, s') => NothingLeft s s'
  | (.ok job, s') => OneAdded c s s' job

/-- **Reading the device leaves the session as it was**: it begins no transaction, since the caller
    was in one or the session had the device loaded; and a flush before it takes no lock that the
    caller did not hold. -/
structure ReadsQuietly (e : Surroundings) (s : Store) : Prop where
  session : s.transaction.isSome = true ∨ e.loadedDevice.isSome = true
  lock : flushesFirst e s = true → e.raises .autoflush = false → e.flushSends = true →
    s.writeLock = true

/-- The call stops before the lock, and reading the device has left nothing. -/
structure StopsOutside (site : Site) (e : Surroundings) (c : CreateArgs) (s : Store) : Prop where
  refused : StopsBefore site e c s
  quiet : ReadsQuietly e s

/-- Every check passes, every call goes through, and no file has the upload's name. -/
structure GoesThrough (site : Site) (e : Surroundings) (c : CreateArgs) (s : Store) : Prop where
  clear : Clear site e c s
  begins : e.raises .beginImmediate = false
  admitted : submissionRefusal site e c s.jobs = none
  stores : Stores e c
  free : s.files (storedName s.jobs.nextKey (safeName e c)) = none

section AllOrNothing

variable {site : Site} {e : Surroundings} {c : CreateArgs}

theorem NothingLeft.refl (s : Entry) : NothingLeft s.toStore s.toStore :=
  ⟨rfl, fun _ h => h, s.foreign, fun h => h, fun _ h => h, fun _ _ h => h⟩

/-- An exception that leaves a transaction of the call leaves something. -/
theorem not_allOrNothing_error {s s' : Store} {error : CreateError} (h : s'.begunHere = true) :
    ¬AllOrNothing c s (.error error, s') := by
  intro hnothing
  have hleft : NothingLeft s s' := hnothing
  rw [hleft.transaction] at h
  cases h

/-- A flush that fails leaves nothing of the caller's either. -/
theorem NothingLeft.undone (s : Entry) : NothingLeft s.toStore s.undone where
  committed := rfl
  pending job h := by
    rw [Store.pendingRows_undone] at h
    cases h
  transaction := by rw [Store.begunHere_undone, s.foreign]
  lock h := by
    rw [Store.writeLock_undone] at h
    cases h
  dirs _ h := h
  files _ _ h := h

/-- A flush that goes through leaves at most the lock. -/
theorem NothingLeft.flushed_iff (s : Entry) (h : s.unclean = true) (sends : Bool) :
    NothingLeft s.toStore (s.flushed sends) ↔ (sends = true → s.writeLock = true) := by
  constructor
  · intro hleft hsends
    refine hleft.lock ?_
    rw [Store.writeLock_flushed h, hsends, Bool.or_true]
  · intro hlock
    refine ⟨rfl, fun _ hj => Store.mem_pendingRows_flushed.mp hj, ?_, fun hw => ?_, fun _ hd => hd,
      fun _ _ hf => hf⟩
    · rw [Store.begunHere_flushed, s.foreign]
    · rw [Store.writeLock_flushed h, Bool.or_eq_true] at hw
      exact hw.elim id hlock

/-- **Reading the device leaves nothing** exactly where it is quiet. -/
theorem afterGet_left_iff (s : Entry) :
    NothingLeft s.toStore (afterGet e s.toStore) ↔ ReadsQuietly e s.toStore := by
  cases hl : e.loadedDevice.isSome with
  | true =>
      rw [afterGet_loaded hl]
      refine iff_of_true (.refl s) ⟨.inr hl, fun hf => ?_⟩
      unfold flushesFirst sendsGet at hf
      rw [Option.isNone_eq_false_iff.mpr hl] at hf
      cases hf
  | false =>
      have hsends : sendsGet e = true := Option.isSome_eq_false_iff.mp hl
      cases hu : s.unclean with
      | false =>
          have hget : afterGet e s.toStore = s.autobegin := by
            unfold afterGet flushesFirst
            rw [hsends, hu]
            rfl
          have hfirst : flushesFirst e s.toStore = false := by
            unfold flushesFirst
            rw [hu, Bool.and_false]
          rw [hget]
          cases ht : s.transaction.isSome with
          | true =>
              rw [Store.autobegin_of_isSome ht]
              refine iff_of_true (.refl s) ⟨.inl ht, fun hf => ?_⟩
              rw [hfirst] at hf
              cases hf
          | false =>
              refine iff_of_false (fun hleft => ?_) fun hquiet => ?_
              · exact absurd hleft.transaction (by rw [Store.begunHere_autobegin ht]; decide)
              · rcases hquiet.session with hsome | hloaded
                · rw [ht] at hsome
                  cases hsome
                · rw [hl] at hloaded
                  cases hloaded
      | true =>
          have hfirst : flushesFirst e s.toStore = true := by
            unfold flushesFirst
            rw [hsends, hu]
            rfl
          have hsome := Store.isSome_of_unclean hu
          unfold afterGet
          rw [if_pos hfirst]
          cases hraises : e.raises .autoflush with
          | true =>
              refine iff_of_true (.undone s) ⟨.inl hsome, fun _ hnot => ?_⟩
              rw [hraises] at hnot
              cases hnot
          | false =>
              show NothingLeft s.toStore (s.flushed e.flushSends) ↔ _
              rw [NothingLeft.flushed_iff s hu]
              exact ⟨fun hlock => ⟨.inl hsome, fun _ _ => hlock⟩,
                fun hquiet => hquiet.lock hfirst hraises⟩

/-- Stopping before the lock is all or nothing exactly where reading the device has left nothing. -/
theorem outside_iff (s : Entry) (h : StopsBefore site e c s.toStore) :
    AllOrNothing c s.toStore (createJob site e c s.toStore) ↔ ReadsQuietly e s.toStore := by
  obtain ⟨error, heq⟩ := createJob_outside h
  rw [heq]
  exact afterGet_left_iff s

/-- A call that has passed its checks is all or nothing exactly where the rest goes through. -/
theorem admitted_iff (s : Store) :
    AllOrNothing c s (storeJob e c (s.holding [])) ↔
      Stores e c ∧ s.files (storedName s.jobs.nextKey (safeName e c)) = none := by
  by_cases hs : Stores e c
  · rw [storeJob_stores hs]
    constructor
    · intro hone
      have hadded : OneAdded c s _ _ := hone
      obtain ⟨file, hname, hfree, -⟩ := hadded.file
      have hfile : storedName s.jobs.nextKey (safeName e c) = file := Option.some.inj hname
      exact ⟨hs, hfile ▸ hfree⟩
    · rintro ⟨-, hfree⟩
      refine ⟨Table.insert_rows fun q hq => ?_, _, rfl, hfree, rfl⟩
      exact (Table.key_lt_nextKey hq).ne
  · obtain ⟨error, s', heq, -, hbegun⟩ := @storeJob_raises e c s hs
    rw [heq]
    exact ⟨fun h => absurd h (not_allOrNothing_error hbegun), fun h => absurd h.1 hs⟩

end AllOrNothing

/-- **`create_job` IS ALL OR NOTHING** exactly where it stops before the lock with nothing begun and
    no lock taken, or goes through. -/
theorem all_or_nothing_iff (site : Site) (e : Surroundings) (c : CreateArgs) (s : Entry) :
    AllOrNothing c s.toStore (createJob site e c s.toStore) ↔
      StopsOutside site e c s.toStore ∨ GoesThrough site e c s.toStore := by
  by_cases ho : StopsBefore site e c s.toStore
  · rw [outside_iff s ho]
    exact ⟨fun h => .inl ⟨ho, h⟩, fun h => h.elim (·.quiet) fun hg =>
      absurd ho hg.clear.not_outside⟩
  have hclear := clear_of_not_outside ho
  have hnot : ¬StopsOutside site e c s.toStore := fun h => ho h.refused
  cases hb : e.raises .beginImmediate with
  | true =>
      rw [createJob_unbegun hclear hb]
      refine ⟨fun h => absurd h (not_allOrNothing_error rfl), fun h => ?_⟩
      have hbegins := (h.resolve_left hnot).begins
      rw [hb] at hbegins
      cases hbegins
  | false =>
      cases hr : submissionRefusal site e c s.jobs with
      | some error =>
          rw [createJob_refused hclear hb hr]
          refine ⟨fun h => absurd h (not_allOrNothing_error rfl), fun h => ?_⟩
          have hadmitted := (h.resolve_left hnot).admitted
          rw [hr] at hadmitted
          cases hadmitted
      | none =>
          rw [createJob_admitted hclear hb hr, admitted_iff]
          exact ⟨fun h => .inr ⟨hclear, hb, hr, h.1, h.2⟩, fun h =>
            have hg := h.resolve_left hnot
            ⟨hg.stores, hg.free⟩⟩

/-! ## 7. An empty upload -/

/-- User 1 uploads an empty `prog.bin` for device 1. -/
def emptyUpload : CreateArgs where
  userId := 1
  deviceId := 1
  filename := "prog.bin"
  content := []
  priority := 0
  newlineMode := ""
  preTransferCmds := ""
  postTransferCmds := ""

/-- Nothing raises. -/
def calm : Surroundings where
  now := 0
  loadedDevice := none
  flushSends := false
  secureFilename name := name
  raises _ := false
  save := .saved
  commit := .committed

/-- No job and no file; the session is in a transaction of the request that calls. -/
def atRequest : Entry where
  jobs := Table.empty
  transaction := some ⟨.caller, none, false, [], false⟩
  dirs _ := false
  files _ := none
  foreign := rfl

/-- **An empty file is refused, and the write lock stays held.** -/
theorem refused_locked :
    ¬AllOrNothing emptyUpload atRequest.toStore
      (createJob smallSite.toSite calm emptyUpload atRequest.toStore) ∧
    (createJob smallSite.toSite calm emptyUpload atRequest.toStore).2.writeLock = true := by
  have hr : submissionRefusal smallSite.toSite calm emptyUpload atRequest.toStore.jobs =
      some (.valueError "File is empty") := by rfl
  have hclear : Clear smallSite.toSite calm emptyUpload atRequest.toStore :=
    ⟨by rfl, by rfl, by rfl⟩
  rw [createJob_refused hclear rfl hr]
  exact ⟨not_allOrNothing_error rfl, rfl⟩

end RetroBridge.Jobs.Creation
