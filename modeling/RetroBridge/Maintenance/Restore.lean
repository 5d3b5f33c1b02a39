/-
  File:      RetroBridge/Maintenance/Restore.lean
  Subject:   BACKING UP, PRUNING AND RESTORING over the life of an installation
             (retrobridge/backup.py: `backup_database`, `restore_database`, `prune_backups`;
             deploy/backup.py: `main` and cli.py: `db_backup`, which back up and prune).

  * `Format` -- what is relied on of SQLite and gzip: a copied database reads as the database, and
    gzip loses nothing;
  * `Archive`, `backupDatabase`, `restoreDatabase` -- the database file, the backup directory with
    the contents of its files, and the two functions on them;
  * `System`, `Event`, `exec` -- commits of the application, backups and restores one after the
    other, with what every backup was taken of;
  * `Guarded` -- the invariant: a backup that is there holds the database it was taken of, and of
    those within the age limit the newest are there;
  * `recoverable_run` -- **every backup the policy promises restores the database it was taken of**,
    adds no file and takes no backup away.
-/
import RetroBridge.Library.Run
import RetroBridge.Maintenance.Backup

namespace RetroBridge.Maintenance

open Transition

/-! ## 1. Names -/

/-- `datetime.now(UTC)`, field by field. -/
structure Stamp where
  year : Nat
  month : Nat
  day : Nat
  hour : Nat
  minute : Nat
  second : Nat
  microsecond : Nat
  deriving DecidableEq

/-- A field of `strftime`, filled up with zeros. -/
def padded (width n : Nat) : List Char :=
  List.replicate (width - (Nat.toDigits 10 n).length) '0' ++ Nat.toDigits 10 n

/-- `strftime("%Y%m%d_%H%M%S_%f")`. -/
def Stamp.text (t : Stamp) : List Char :=
  padded 4 t.year ++ padded 2 t.month ++ padded 2 t.day ++ '_' ::
    (padded 2 t.hour ++ padded 2 t.minute ++ padded 2 t.second ++ '_' :: padded 6 t.microsecond)

/-- **A label that names a file of the directory**: neither slash nor line end. -/
structure Label where
  text : List Char
  plain : '/' ∉ text ∧ '\n' ∉ text

/-- "retrobridge_". -/
def namePrefix : List Char := ['r', 'e', 't', 'r', 'o', 'b', 'r', 'i', 'd', 'g', 'e', '_']

/-- `f"retrobridge_{label + '_' if label else ''}{ts}.db"`. -/
def rawChars (label : Option Label) (t : Stamp) : List Char :=
  let tag := match label with
    | some l => if l.text = [] then [] else l.text ++ ['_']
    | none => []
  namePrefix ++ (tag ++ t.text ++ ['.', 'd', 'b'])

/-- The name of the copy, and with `true` of the compressed one. -/
def backupName (compress : Bool) (label : Option Label) (t : Stamp) : String :=
  String.ofList (rawChars label t ++ if compress then ['.', 'g', 'z'] else [])

/-- `backup_path.endswith(".gz")`. -/
def isGz (name : String) : Bool := ['.', 'g', 'z'].isSuffixOf name.toList

/-- `backup_path.removesuffix(".gz") + ".restore_temp"`, of a path that ends so. -/
def tempName (name : String) : String :=
  String.ofList (name.toList.take (name.toList.length - 3) ++
    ['.', 'r', 'e', 's', 't', 'o', 'r', 'e', '_', 't', 'e', 'm', 'p'])

/-! ## 2. Files -/

/-- **SQLite and gzip**: the file that `src.backup(dst)` writes, what a connection reads of a file,
    and the two directions of gzip; `unpacked` is what a failing decompression has written. -/
structure Format (Db Bytes : Type) where
  image : Db → Bytes
  load : Bytes → Option Db
  gzip : Bytes → Bytes
  gunzip : Bytes → Option Bytes
  unpacked : Bytes → Bytes
  load_image : ∀ db, load (image db) = some db
  gunzip_gzip : ∀ bytes, gunzip (gzip bytes) = some bytes

/-- The database file, if there is one, and the backup directory. -/
structure Archive (Db Bytes : Type) where
  live : Option Db
  dir : Directory
  content : String → Bytes

namespace Directory

variable (d : Directory)

/-- `os.makedirs(backup_dir, exist_ok=True)`. -/
def make : Directory := { d with isDir := true, absent := nofun }

/-- A file is written: it is there, with this modification time. -/
def put (name : String) (mtime : Time) (h : name.toList.head? ≠ some '/') : Directory where
  isDir := true
  entries := d.entries.filter (fun e => e.name ≠ name) ++ [⟨name, mtime⟩]
  nodup := by
    rw [List.map_append, List.nodup_append]
    refine ⟨d.nodup.sublist (List.filter_sublist.map _), List.nodup_singleton _, ?_⟩
    intro a ha b hb
    obtain ⟨e, he, rfl⟩ := List.mem_map.mp ha
    simp only [List.map_cons, List.map_nil, List.mem_singleton] at hb
    rw [hb]
    simpa using (List.mem_filter.mp he).2
  plain e he := by
    rcases List.mem_append.mp he with he | he
    · exact d.plain e (List.mem_filter.mp he).1
    · rw [List.mem_singleton.mp he]
      exact h
  absent := nofun

/-- Entries are removed. -/
def keep (entries : List DirEntry) (h : entries.Sublist d.entries) : Directory where
  isDir := d.isDir
  entries := entries
  nodup := d.nodup.sublist (h.map _)
  plain e he := d.plain e (h.subset he)
  absent hd := by
    have hempty := d.absent hd
    rw [hempty] at h
    exact List.sublist_nil.mp h

/-- `os.remove` of a name. -/
def remove (name : String) : Directory :=
  d.keep (d.entries.filter fun e => e.name ≠ name) List.filter_sublist

/-- The name is there. -/
def has (name : String) : Bool := d.entries.any fun e => e.name == name

end Directory

theorem backupName_head (compress : Bool) (label : Option Label) (t : Stamp) :
    (backupName compress label t).toList.head? ≠ some '/' := by
  unfold backupName rawChars namePrefix
  rw [String.toList_ofList, List.cons_append, List.cons_append, List.head?_cons]
  decide

theorem tempName_head {name : String} (h : name.toList.head? ≠ some '/') :
    (tempName name).toList.head? ≠ some '/' := by
  unfold tempName
  rw [String.toList_ofList]
  cases hn : name.toList with
  | nil => decide
  | cons c cs =>
      rw [hn] at h
      cases (c :: cs).length - 3 with
      | zero =>
          rw [List.take_zero, List.nil_append, List.head?_cons]
          decide
      | succ k =>
          rw [List.take_succ_cons, List.cons_append, List.head?_cons]
          exact h

theorem has_head {d : Directory} {name : String} (h : d.has name = true) :
    name.toList.head? ≠ some '/' := by
  obtain ⟨e, he, hn⟩ := List.any_eq_true.mp h
  rw [← beq_iff_eq.mp hn]
  exact d.plain e he

section Functions

variable {Db Bytes : Type} (f : Format Db Bytes) (a : Archive Db Bytes)

/-- **`backup_database`** at a time: the name of the file it returns, none where it raises
    `FileNotFoundError`. -/
def backupDatabase (t : Stamp) (mtime : Time) (compress : Bool) (label : Option Label) :
    Option (String × Archive Db Bytes) :=
  match a.live with
  | none => none
  | some db =>
    let raw := backupName false label t
    let copied := a.dir.make.put raw mtime (backupName_head false label t)
    let content := Function.update a.content raw (f.image db)
    if compress then
      let gz := backupName true label t
      some (gz,
        { a with
          dir := (copied.put gz mtime (backupName_head true label t)).remove raw
          content := Function.update content gz (f.gzip (content raw)) })
    else some (raw, { a with dir := copied, content := content })

/-- What `restore_database` copies from: none where it raises. -/
def sourceOf (name : String) : Option Bytes :=
  if isGz name then f.gunzip (a.content name) else some (a.content name)

/-- The directory when the temporary file of a restore is removed again. -/
def cleaned (name : String) (mtime : Time) (h : name.toList.head? ≠ some '/') : Directory :=
  if isGz name then (a.dir.put (tempName name) mtime (tempName_head h)).remove (tempName name)
  else a.dir

/-- **`restore_database`** of a file of the directory, and whether it raises nothing. The temporary
    file is removed, unless the decompression fails. -/
def restoreDatabase (name : String) (mtime : Time) : Archive Db Bytes × Bool :=
  if h : a.dir.has name = true then
    match sourceOf f a name with
    | none =>
      ({ a with
          dir := a.dir.put (tempName name) mtime (tempName_head (has_head h))
          content := Function.update a.content (tempName name) (f.unpacked (a.content name)) },
        false)
    | some source =>
      match f.load source with
      | none => ({ a with dir := cleaned a name mtime (has_head h) }, false)
      | some db => ({ a with live := some db, dir := cleaned a name mtime (has_head h) }, true)
  else (a, false)

/-- `prune_backups` on the directory. -/
def prune (directory : String) (now : Time) (retentionDays retentionCount : Int) :
    Archive Db Bytes :=
  { a with
    dir := a.dir.keep (pruneBackups directory a.dir now retentionDays retentionCount).2
      (pruneBackups_retained directory a.dir now retentionDays retentionCount).sublist }

end Functions

/-! ## 3. The installation -/

/-- A backup that was taken: its file, and the database it was taken of. -/
structure Snapshot (Db : Type) where
  name : String
  mtime : Time
  db : Db

/-- The entry of a snapshot. -/
def Snapshot.entry {Db : Type} (b : Snapshot Db) : DirEntry := ⟨b.name, b.mtime⟩

@[simp] theorem Snapshot.entry_name {Db : Type} (b : Snapshot Db) : b.entry.name = b.name := rfl
@[simp] theorem Snapshot.entry_mtime {Db : Type} (b : Snapshot Db) : b.entry.mtime = b.mtime := rfl

/-- **The installation**, with the time of its last event and of its last pruning, and the backups
    taken so far, the newest first. -/
structure System (Db Bytes : Type) where
  archive : Archive Db Bytes
  clock : Time
  pruned : Time
  taken : List (Snapshot Db)

/-- A commit of the application; a backup and the pruning behind it; a restore. -/
inductive Event (Db : Type) where
  | write (db : Db)
  | backup (stamp : Stamp) (mtime now : Time) (compress : Bool) (label : Option Label)
  | restore (name : String) (now : Time)

/-- Where the backups are and which are to be kept. -/
structure Policy where
  directory : String
  retentionDays : Int
  retentionCount : Int

section Exec

variable {Db Bytes : Type} (f : Format Db Bytes) (policy : Policy)

/-- **One event**, later than those before it; a backup at a time that gives names which are not
    there yet. -/
def exec (s : System Db Bytes) : Event Db → Option (System Db Bytes)
  | .write db => some { s with archive := { s.archive with live := some db } }
  | .backup stamp mtime now compress label =>
    if s.clock < mtime ∧ mtime ≤ now ∧ s.archive.dir.has (backupName false label stamp) = false ∧
        s.archive.dir.has (backupName true label stamp) = false then
      match s.archive.live, backupDatabase f s.archive stamp mtime compress label with
      | some db, some (name, archive) =>
        some
          { archive := prune archive policy.directory now policy.retentionDays policy.retentionCount
            clock := now
            pruned := now
            taken := ⟨name, mtime, db⟩ :: s.taken }
      | _, _ => some s
    else none
  | .restore name now =>
    if s.clock < now then
      some { s with archive := (restoreDatabase f s.archive name now).1, clock := now }
    else none

/-- The step relation. -/
def Step (s : System Db Bytes) (e : Event Db) (s' : System Db Bytes) : Prop :=
  exec f policy s e = some s'

/-- What a file of a name holds. -/
def holds (name : String) (bytes : Bytes) : Option Db :=
  if isGz name then (f.gunzip bytes).bind f.load else f.load bytes

/-- The backups the count rule is to keep. -/
def newest (taken : List (Snapshot Db)) : List (Snapshot Db) :=
  if 0 < policy.retentionCount then taken.take policy.retentionCount.toNat else taken

/-- **The backups the policy promises**: the newest of those taken that are within the age limit. -/
def promised (s : System Db Bytes) : List (Snapshot Db) :=
  (newest policy s.taken).filter fun b => withinAge s.pruned policy.retentionDays b.entry

/-- **What every event keeps.** -/
structure Guarded (s : System Db Bytes) : Prop where
  past : ∀ e ∈ s.archive.dir.entries, e.mtime ≤ s.clock
  pruned : s.pruned ≤ s.clock
  order : s.taken.Pairwise fun b c => c.mtime < b.mtime
  takenPast : ∀ b ∈ s.taken, b.mtime ≤ s.clock
  named : ∀ b ∈ s.taken, isBackup b.name = true
  known : ∀ e ∈ s.archive.dir.entries, isBackup e.name = true →
    (∃ b ∈ s.taken, e = b.entry) ∨ ∀ b ∈ s.taken, e.mtime < b.mtime
  content : ∀ b ∈ s.taken, b.entry ∈ s.archive.dir.entries →
    holds f b.name (s.archive.content b.name) = some b.db
  held : ∀ b ∈ promised policy s, b.entry ∈ s.archive.dir.entries

end Exec

/-! ## 4. Names and files -/

theorem padded_plain {width n : Nat} {c : Char} (h : c ∈ padded width n) : c ≠ '/' ∧ c ≠ '\n' := by
  unfold padded at h
  rcases List.mem_append.mp h with h | h
  · rw [(List.mem_replicate.mp h).2]
    decide
  · have hdigit := Nat.isDigit_of_mem_toDigits (by decide) (by decide) h
    constructor <;> rintro rfl <;> exact absurd hdigit (by decide)

theorem text_plain {t : Stamp} {c : Char} (h : c ∈ t.text) : c ≠ '\n' := by
  unfold Stamp.text at h
  simp only [List.mem_append, List.mem_cons] at h
  rcases h with ((h | h) | h) | rfl | ((h | h) | h) | rfl | h
  all_goals first | exact (padded_plain h).2 | decide

/-- What stands behind the prefix. -/
theorem rest_plain (label : Option Label) (t : Stamp) : ∃ rest : List Char,
    rawChars label t = namePrefix ++ (rest ++ ['.', 'd', 'b']) ∧ '\n' ∉ rest := by
  unfold rawChars
  have htext : '\n' ∉ t.text := fun h => text_plain h rfl
  cases label with
  | none => exact ⟨[] ++ t.text, rfl, by simpa using htext⟩
  | some l =>
      by_cases hl : l.text = []
      · exact ⟨[] ++ t.text, by simp [hl], by simpa using htext⟩
      · refine ⟨(l.text ++ ['_']) ++ t.text, by simp [hl], ?_⟩
        simp [l.plain.2, htext]

/-- A text with the prefix and one of the two ends. -/
theorem isBackup_of_chars {rest : List Char} (h : '\n' ∉ rest) {ending : List Char}
    (hend : ending = ['.', 'd', 'b'] ∨ ending = ['.', 'd', 'b', '.', 'g', 'z']) :
    isBackup (String.ofList (namePrefix ++ (rest ++ ending))) = true := by
  have hprefix : "retrobridge_".toList = namePrefix := by decide
  have hdb : ".db".toList = ['.', 'd', 'b'] := by decide
  have hgz : ".db.gz".toList = ['.', 'd', 'b', '.', 'g', 'z'] := by decide
  have hlast : (namePrefix ++ (rest ++ ending)).getLast? ≠ some '\n' := by
    rcases hend with rfl | rfl <;> simp
  have hplain : '\n' ∉ rest ++ ending := by
    rcases hend with rfl | rfl <;> simp [h]
  have hdrop : (namePrefix ++ (rest ++ ending)).drop "retrobridge_".length = rest ++ ending := rfl
  unfold isBackup beforeEnd
  rw [String.toList_ofList, if_neg hlast, hprefix, hdb, hgz]
  simp only [hdrop]
  have hstart : namePrefix.isPrefixOf (namePrefix ++ (rest ++ ending)) = true :=
    List.isPrefixOf_iff_prefix.mpr (List.prefix_append _ _)
  have hcontains : (rest ++ ending).contains '\n' = false := by
    rw [List.contains_eq_mem]
    exact decide_eq_false hplain
  have hsuffix : (['.', 'd', 'b'].isSuffixOf (rest ++ ending) ||
      ['.', 'd', 'b', '.', 'g', 'z'].isSuffixOf (rest ++ ending)) = true := by
    rw [Bool.or_eq_true, List.isSuffixOf_iff_suffix, List.isSuffixOf_iff_suffix]
    rcases hend with rfl | rfl
    · exact .inl (List.suffix_append _ _)
    · exact .inr (List.suffix_append _ _)
  rw [hstart, hcontains, hsuffix]
  rfl

/-- **A name that `backup_database` gives is one that pruning and listing find.** -/
theorem isBackup_backupName (compress : Bool) (label : Option Label) (t : Stamp) :
    isBackup (backupName compress label t) = true := by
  obtain ⟨rest, hraw, hplain⟩ := rest_plain label t
  unfold backupName
  rw [hraw]
  cases compress with
  | false =>
      rw [if_neg Bool.false_ne_true, List.append_nil]
      exact isBackup_of_chars hplain (.inl rfl)
  | true =>
      rw [if_pos rfl, List.append_assoc, List.append_assoc]
      exact isBackup_of_chars hplain (.inr rfl)

/-- The compressed copy is told from the other by its name. -/
theorem isGz_backupName (compress : Bool) (label : Option Label) (t : Stamp) :
    isGz (backupName compress label t) = compress := by
  unfold isGz backupName
  rw [String.toList_ofList]
  cases compress with
  | true =>
      rw [if_pos rfl, List.isSuffixOf_iff_suffix]
      exact List.suffix_append _ _
  | false =>
      rw [if_neg Bool.false_ne_true, List.append_nil, Bool.eq_false_iff, ne_eq,
        List.isSuffixOf_iff_suffix]
      intro h
      obtain ⟨rest, hraw, -⟩ := rest_plain label t
      have hlast := h.getLast (by simp)
      simp [hraw] at hlast

/-- **The temporary file of a restore is no backup.** -/
theorem not_isBackup_tempName (name : String) : isBackup (tempName name) = false := by
  have hdb : ".db".toList = ['.', 'd', 'b'] := by decide
  have hgz : ".db.gz".toList = ['.', 'd', 'b', '.', 'g', 'z'] := by decide
  have hlast : (tempName name).toList.getLast? = some 'p' := by simp [tempName]
  unfold isBackup beforeEnd
  rw [if_neg (by rw [hlast]; decide), hdb, hgz, Bool.eq_false_iff]
  intro h
  simp only [Bool.and_eq_true, Bool.or_eq_true, List.isSuffixOf_iff_suffix] at h
  rcases h.2 with hend | hend
  · obtain ⟨w, hw⟩ := hend.trans (List.drop_suffix _ _)
    simp [← hw] at hlast
  · obtain ⟨w, hw⟩ := hend.trans (List.drop_suffix _ _)
    simp [← hw] at hlast

/-- The two names of one backup are two. -/
theorem backupName_ne (label : Option Label) (t : Stamp) :
    backupName true label t ≠ backupName false label t := by
  intro h
  have hgz := isGz_backupName true label t
  rw [h, isGz_backupName] at hgz
  cases hgz

section Files

variable {Db Bytes : Type} {f : Format Db Bytes} {a : Archive Db Bytes}

/-- A file of a new name goes to the end. -/
theorem filter_fresh {d : Directory} {name : String} (h : d.has name = false) :
    d.entries.filter (fun e => e.name ≠ name) = d.entries := by
  refine List.filter_eq_self.mpr fun e he => ?_
  unfold Directory.has at h
  rw [List.any_eq_false] at h
  simpa using h e he

/-- **What a backup leaves**: one new file, which holds the database. -/
theorem backupDatabase_spec {t : Stamp} (mtime : Time) (compress : Bool) {label : Option Label}
    {db : Db} (hlive : a.live = some db)
    (hraw : a.dir.has (backupName false label t) = false)
    (hgz : a.dir.has (backupName true label t) = false) :
    ∃ a', backupDatabase f a t mtime compress label = some (backupName compress label t, a') ∧
      a'.live = some db ∧
      a'.dir.entries = a.dir.entries ++ [⟨backupName compress label t, mtime⟩] ∧
      holds f (backupName compress label t) (a'.content (backupName compress label t)) = some db ∧
      ∀ e ∈ a.dir.entries, a'.content e.name = a.content e.name := by
  have hother : ∀ e ∈ a.dir.entries, e.name ≠ backupName false label t ∧
      e.name ≠ backupName true label t := by
    intro e he
    unfold Directory.has at hraw hgz
    rw [List.any_eq_false] at hraw hgz
    exact ⟨by simpa using hraw e he, by simpa using hgz e he⟩
  unfold backupDatabase
  rw [hlive]
  cases compress with
  | false =>
      refine ⟨_, rfl, rfl, ?_, ?_, fun e he => ?_⟩
      · show a.dir.entries.filter _ ++ _ = _
        rw [filter_fresh hraw]
      · simp only [holds, isGz_backupName, Bool.false_eq_true, if_false, Function.update_self]
        exact f.load_image db
      · exact Function.update_of_ne (hother e he).1 _ _
  | true =>
      refine ⟨_, rfl, rfl, ?_, ?_, fun e he => ?_⟩
      · show ((a.dir.entries.filter _ ++ [_]).filter _ ++ [_]).filter _ = _
        simp only [List.filter_append, filter_fresh hraw, filter_fresh hgz]
        simp [backupName_ne]
      · simp only [holds, isGz_backupName, if_true, Function.update_self, f.gunzip_gzip]
        exact f.load_image db
      · show Function.update (Function.update a.content _ _) _ _ e.name = _
        rw [Function.update_of_ne (hother e he).2, Function.update_of_ne (hother e he).1]

/-- The directory when the temporary file is removed again. -/
theorem mem_cleaned {name : String} {mtime : Time} {h : name.toList.head? ≠ some '/'}
    {e : DirEntry} : e ∈ (cleaned a name mtime h).entries ↔
      e ∈ a.dir.entries ∧ (isGz name = true → e.name ≠ tempName name) := by
  unfold cleaned
  split
  · rename_i hgz
    show e ∈ (a.dir.entries.filter _ ++ [_]).filter _ ↔ _
    rw [List.filter_append, List.filter_filter]
    simp [hgz]
  · rename_i hgz
    simp [hgz]

theorem ne_tempName {e : DirEntry} (h : isBackup e.name = true) (name : String) :
    e.name ≠ tempName name := by
  intro hname
  rw [hname, not_isBackup_tempName] at h
  cases h

/-- A restore that has found its source. -/
theorem restoreDatabase_source {name : String} (mtime : Time) (h : a.dir.has name = true)
    {source : Bytes} (hsource : sourceOf f a name = some source) :
    (restoreDatabase f a name mtime).1.dir = cleaned a name mtime (has_head h) ∧
      (restoreDatabase f a name mtime).1.content = a.content ∧
      ∀ db, f.load source = some db → (restoreDatabase f a name mtime).2 = true ∧
        (restoreDatabase f a name mtime).1.live = some db := by
  unfold restoreDatabase
  rw [dif_pos h]
  simp only [hsource]
  cases f.load source with
  | none => exact ⟨rfl, rfl, nofun⟩
  | some db => exact ⟨rfl, rfl, fun _ hdb => ⟨rfl, hdb⟩⟩

/-- **What a restore leaves of the directory**, whether it raises or not: the backups with what they
    hold, and no new file but a temporary one. -/
theorem restoreDatabase_dir (name : String) (mtime : Time) :
    (∀ e ∈ a.dir.entries, isBackup e.name = true →
      e ∈ (restoreDatabase f a name mtime).1.dir.entries ∧
        (restoreDatabase f a name mtime).1.content e.name = a.content e.name) ∧
    ∀ e ∈ (restoreDatabase f a name mtime).1.dir.entries, e ∈ a.dir.entries ∨
      (isBackup e.name = false ∧ e.mtime = mtime) := by
  by_cases h : a.dir.has name = true
  · cases hsource : sourceOf f a name with
    | none =>
        unfold restoreDatabase
        rw [dif_pos h, hsource]
        refine ⟨fun e he hb => ⟨?_, Function.update_of_ne (ne_tempName hb name) _ _⟩,
          fun e he => ?_⟩
        · refine List.mem_append_left _ (List.mem_filter.mpr ⟨he, ?_⟩)
          simpa using ne_tempName hb name
        · rcases List.mem_append.mp he with he | he
          · exact .inl (List.mem_filter.mp he).1
          · rw [List.mem_singleton.mp he]
            exact .inr ⟨not_isBackup_tempName name, rfl⟩
    | some source =>
        obtain ⟨hdir, hcontent, -⟩ := restoreDatabase_source mtime h hsource
        rw [hdir, hcontent]
        exact ⟨fun e he hb => ⟨mem_cleaned.mpr ⟨he, fun _ => ne_tempName hb name⟩, rfl⟩,
          fun e he => .inl (mem_cleaned.mp he).1⟩
  · unfold restoreDatabase
    rw [dif_neg h]
    exact ⟨fun e he _ => ⟨he, rfl⟩, fun e he => .inl he⟩

/-- **A restore of a file that holds a database** makes it the live one, and adds no file. -/
theorem restoreDatabase_holds {name : String} {db : Db} (mtime : Time)
    (hhas : a.dir.has name = true)
    (h : holds f name (a.content name) = some db) :
    (restoreDatabase f a name mtime).2 = true ∧
      (restoreDatabase f a name mtime).1.live = some db ∧
      ∀ e ∈ (restoreDatabase f a name mtime).1.dir.entries, e ∈ a.dir.entries := by
  have hbind : (sourceOf f a name).bind f.load = some db := by
    unfold sourceOf holds at *
    split at h <;> simp_all
  obtain ⟨source, hsource, hload⟩ := Option.bind_eq_some_iff.mp hbind
  obtain ⟨hdir, -, hdone⟩ := restoreDatabase_source mtime hhas hsource
  refine ⟨(hdone db hload).1, (hdone db hload).2, fun e he => ?_⟩
  rw [hdir] at he
  exact (mem_cleaned.mp he).1

end Files

/-! ## 5. One event -/

section Event

variable {Db Bytes : Type} {f : Format Db Bytes} {policy : Policy} {s s' : System Db Bytes}

/-- One of the first `n` in a list has fewer than `n` before it. -/
theorem split_of_mem_take {taken : List (Snapshot Db)} {n : Nat} {b : Snapshot Db}
    (h : b ∈ taken.take n) : ∃ newer older, taken = newer ++ b :: older ∧ newer.length < n := by
  obtain ⟨newer, rest, hsplit⟩ := List.append_of_mem h
  refine ⟨newer, rest ++ taken.drop n, ?_, ?_⟩
  · rw [← List.cons_append, ← List.append_assoc, ← hsplit, List.take_append_drop]
  · have hlen := congrArg List.length hsplit
    simp only [List.length_take, List.length_append, List.length_cons] at hlen
    omega

/-- **A promised backup is not pruned**: the count rule would have to leave as many others, all of
    them newer, and there are too few. -/
theorem stays_of_promised {d : Directory} {taken : List (Snapshot Db)} {now : Time}
    (horder : taken.Pairwise fun b c => c.mtime < b.mtime)
    (hnamed : ∀ b ∈ taken, isBackup b.name = true)
    (hknown : ∀ e ∈ d.entries, isBackup e.name = true →
      (∃ b ∈ taken, e = b.entry) ∨ ∀ b ∈ taken, e.mtime < b.mtime)
    {b : Snapshot Db} (hb : b ∈ newest policy taken)
    (hage : withinAge now policy.retentionDays b.entry = true) (hmem : b.entry ∈ d.entries) :
    b.entry ∈ stay d now policy.retentionDays policy.retentionCount := by
  refine mem_stay.mpr ⟨hmem, fun hgone => ?_⟩
  have hrecent : b.entry ∈ recent d now policy.retentionDays := by
    refine List.mem_filter.mpr ⟨hmem, ?_⟩
    rw [Bool.and_eq_true]
    refine ⟨hnamed b ?_, hage⟩
    unfold newest at hb
    split at hb
    · exact List.mem_of_mem_take hb
    · exact hb
  have hdropped := dropped_of_gone hrecent hgone
  by_cases hcount : 0 < policy.retentionCount
  · rw [newest, if_pos hcount] at hb
    obtain ⟨newer, older, rfl, hfew⟩ := split_of_mem_take hb
    obtain ⟨-, hrest, hbefore⟩ := List.pairwise_append.mp horder
    have hafter := (List.pairwise_cons.mp hrest).1
    have hsub : kept d now policy.retentionDays policy.retentionCount ⊆
        newer.map Snapshot.entry := by
      intro e he
      obtain ⟨hstay, hbackup⟩ := mem_kept_iff.mp he
      have hle : b.mtime ≤ e.mtime := dropped_le_kept hdropped he
      have hne : e ≠ b.entry := (List.nodup_append.mp nodup_cut).2.2 e he _ hdropped
      rcases hknown e (mem_stay.mp hstay).1 hbackup with ⟨c, hc, rfl⟩ | hold
      · rcases List.mem_append.mp hc with hc | hc
        · exact List.mem_map_of_mem hc
        · rcases List.mem_cons.mp hc with rfl | hc
          · exact absurd rfl hne
          · exact absurd (hafter c hc) (not_lt.mpr hle)
      · have hlt := hold b (List.mem_append_right _ (List.mem_cons_self ..))
        exact absurd hlt (not_lt.mpr hle)
    have hlen := ((List.nodup_append.mp nodup_cut).1.subperm hsub).length_le
    rw [List.length_map] at hlen
    have hfull : (kept d now policy.retentionDays policy.retentionCount).length =
        policy.retentionCount.toNat := by
      rw [dropped, if_pos hcount] at hdropped
      have hmore := List.length_pos_of_mem hdropped
      rw [List.length_drop] at hmore
      rw [kept, if_pos hcount, List.length_take]
      omega
    omega
  · rw [dropped, if_neg hcount] at hdropped
    exact absurd hdropped List.not_mem_nil

/-- A backup within the age limit was within it before. -/
theorem withinAge_earlier {now before : Time} {days : Int} (h : before ≤ now) {e : DirEntry}
    (hage : withinAge now days e = true) : withinAge before days e = true := by
  unfold withinAge at *
  simp only [Bool.or_eq_true, decide_eq_true_eq] at *
  exact hage.imp_right fun hin => le_trans (Int.sub_le_sub_right h _) hin

/-- The newest with one more, but for this one, were among the newest. -/
theorem mem_newest_cons {b c : Snapshot Db} {taken : List (Snapshot Db)}
    (h : c ∈ newest policy (b :: taken)) : c = b ∨ c ∈ newest policy taken := by
  unfold newest at *
  split at h
  · rename_i hcount
    rw [if_pos hcount]
    obtain ⟨n, hn⟩ : ∃ n, policy.retentionCount.toNat = n + 1 :=
      ⟨policy.retentionCount.toNat - 1, by omega⟩
    rw [hn, List.take_succ_cons] at h
    rcases List.mem_cons.mp h with rfl | h
    · exact .inl rfl
    · rw [hn]
      exact .inr (List.take_subset_take_left _ (Nat.le_succ n) h)
  · rename_i hcount
    rw [if_neg hcount]
    exact List.mem_cons.mp h

theorem mem_taken_of_promised {b : Snapshot Db} (h : b ∈ promised policy s) :
    b ∈ newest policy s.taken ∧ b ∈ s.taken := by
  have hnewest := (List.mem_filter.mp h).1
  refine ⟨hnewest, ?_⟩
  unfold newest at hnewest
  split at hnewest
  · exact List.mem_of_mem_take hnewest
  · exact hnewest

theorem guarded_restore (h : Guarded f policy s) {name : String} {now : Time}
    (hclock : s.clock < now) :
    Guarded f policy
      { s with archive := (restoreDatabase f s.archive name now).1, clock := now } := by
  obtain ⟨hkept, hnew⟩ := restoreDatabase_dir (f := f) (a := s.archive) name now
  have hold : ∀ e ∈ (restoreDatabase f s.archive name now).1.dir.entries, isBackup e.name = true →
      e ∈ s.archive.dir.entries := by
    intro e he hb
    rcases hnew e he with hold | ⟨hno, -⟩
    · exact hold
    · rw [hb] at hno
      cases hno
  refine ⟨fun e he => ?_, le_trans h.pruned (le_of_lt hclock), h.order,
    fun b hb => le_trans (h.takenPast b hb) (le_of_lt hclock), h.named,
    fun e he hb => h.known e (hold e he hb) hb, fun b hb he => ?_, fun b hb => ?_⟩
  · rcases hnew e he with hold | ⟨-, rfl⟩
    · exact le_trans (h.past e hold) (le_of_lt hclock)
    · exact le_refl _
  · have hmem := hold b.entry he (h.named b hb)
    have hcontent := (hkept b.entry hmem (h.named b hb)).2
    rw [Snapshot.entry_name] at hcontent
    show holds f b.name ((restoreDatabase f s.archive name now).1.content b.name) = some b.db
    rw [hcontent]
    exact h.content b hb hmem
  · exact (hkept b.entry (h.held b hb) (h.named b (mem_taken_of_promised hb).2)).1

/-- A backup: the snapshot is the newest, and what is promised is not pruned. -/
theorem guarded_backup (h : Guarded f policy s) {a : Archive Db Bytes} {b : Snapshot Db}
    {now : Time}
    (hclock : s.clock < b.mtime) (hnow : b.mtime ≤ now) (hname : isBackup b.name = true)
    (hentries : a.dir.entries = s.archive.dir.entries ++ [b.entry])
    (hholds : holds f b.name (a.content b.name) = some b.db)
    (hcontent : ∀ e ∈ s.archive.dir.entries, a.content e.name = s.archive.content e.name) :
    Guarded f policy
      { archive := prune a policy.directory now policy.retentionDays policy.retentionCount
        clock := now, pruned := now, taken := b :: s.taken } := by
  have hstay :
      (prune a policy.directory now policy.retentionDays policy.retentionCount).dir.entries =
      stay a.dir now policy.retentionDays policy.retentionCount :=
    congrArg Prod.snd pruneBackups_eq
  have hmem : ∀ e, e ∈ a.dir.entries ↔ e ∈ s.archive.dir.entries ∨ e = b.entry := by
    intro e
    rw [hentries, List.mem_append, List.mem_singleton]
  have horder : (b :: s.taken).Pairwise fun b c => c.mtime < b.mtime :=
    List.pairwise_cons.mpr ⟨fun c hc => lt_of_le_of_lt (h.takenPast c hc) hclock, h.order⟩
  have hnamed : ∀ c ∈ b :: s.taken, isBackup c.name = true :=
    List.forall_mem_cons.mpr ⟨hname, h.named⟩
  have hknown : ∀ e ∈ a.dir.entries, isBackup e.name = true →
      (∃ c ∈ b :: s.taken, e = c.entry) ∨ ∀ c ∈ b :: s.taken, e.mtime < c.mtime := by
    intro e he hb
    rcases (hmem e).mp he with hold | rfl
    · rcases h.known e hold hb with ⟨c, hc, rfl⟩ | hbefore
      · exact .inl ⟨c, List.mem_cons_of_mem _ hc, rfl⟩
      · exact .inr (List.forall_mem_cons.mpr ⟨lt_of_le_of_lt (h.past e hold) hclock, hbefore⟩)
    · exact .inl ⟨b, List.mem_cons_self .., rfl⟩
  refine ⟨fun e he => ?_, le_refl _, horder, ?_, hnamed, fun e he => ?_, fun c hc he => ?_,
    fun c hc => ?_⟩
  · rw [hstay] at he
    rcases (hmem e).mp (mem_stay.mp he).1 with hold | rfl
    · exact le_trans (h.past e hold) (le_trans (le_of_lt hclock) hnow)
    · exact hnow
  · refine List.forall_mem_cons.mpr ⟨hnow, fun c hc => ?_⟩
    exact le_trans (h.takenPast c hc) (le_trans (le_of_lt hclock) hnow)
  · rw [hstay] at he
    exact hknown e (mem_stay.mp he).1
  · rw [hstay] at he
    rcases List.mem_cons.mp hc with rfl | hc
    · exact hholds
    · rcases (hmem c.entry).mp (mem_stay.mp he).1 with hold | hsame
      · have hsame := hcontent c.entry hold
        rw [Snapshot.entry_name] at hsame
        show holds f c.name (a.content c.name) = some c.db
        rw [hsame]
        exact h.content c hc hold
      · have htime : c.mtime = b.mtime := congrArg DirEntry.mtime hsame
        exact absurd (htime ▸ hclock) (not_lt.mpr (h.takenPast c hc))
  · rw [hstay]
    obtain ⟨hnewest, hage⟩ := List.mem_filter.mp hc
    refine stays_of_promised horder hnamed hknown hnewest hage ((hmem _).mpr ?_)
    rcases mem_newest_cons hnewest with rfl | hnewest
    · exact .inr rfl
    · have hbefore : s.pruned ≤ now :=
        le_trans h.pruned (le_trans (le_of_lt hclock) hnow)
      exact .inl (h.held c (List.mem_filter.mpr ⟨hnewest, withinAge_earlier hbefore hage⟩))

/-- **One event** keeps what is promised. -/
theorem guarded_step {e : Event Db} (h : Guarded f policy s) (hs : Step f policy s e s') :
    Guarded f policy s' := by
  unfold Step at hs
  cases e with
  | write db =>
      cases hs
      exact ⟨h.past, h.pruned, h.order, h.takenPast, h.named, h.known, h.content, h.held⟩
  | backup stamp mtime now compress label =>
      simp only [exec] at hs
      split at hs
      · rename_i hc
        obtain ⟨hclock, hnow, hraw, hgz⟩ := hc
        cases hlive : s.archive.live with
        | none =>
            rw [hlive] at hs
            cases hs
            exact h
        | some db =>
            obtain ⟨a, ha, -, hentries, hholds, hcontent⟩ :=
              backupDatabase_spec (f := f) mtime compress hlive hraw hgz
            rw [hlive, ha] at hs
            cases hs
            exact guarded_backup (b := ⟨_, mtime, db⟩) h hclock hnow
              (isBackup_backupName compress label stamp) hentries hholds hcontent
      · cases hs
  | restore name now =>
      simp only [exec] at hs
      split at hs
      · rename_i hclock
        cases hs
        exact guarded_restore h hclock
      · cases hs

end Event

/-! ## 6. Every run -/

/-- Nothing is taken yet, and the files there are older than the clock. -/
structure System.Started {Db Bytes : Type} (s : System Db Bytes) : Prop where
  taken : s.taken = []
  past : ∀ e ∈ s.archive.dir.entries, e.mtime ≤ s.clock
  pruned : s.pruned ≤ s.clock

/-- **EVERY BACKUP THE POLICY PROMISES CAN BE RESTORED**: after any commits, backups and restores in
    order of time, each of the newest backups within the age limit makes the database live that it
    was taken of, and the restore adds no file to the directory and takes no backup from it. -/
theorem recoverable_run {Db Bytes : Type} {f : Format Db Bytes} {policy : Policy}
    {s₀ s : System Db Bytes} {es : List (Event Db)} (h0 : s₀.Started)
    (h : Run (Step f policy) s₀ es s) {b : Snapshot Db} (hb : b ∈ promised policy s) (now : Time) :
    (restoreDatabase f s.archive b.name now).2 = true ∧
      (restoreDatabase f s.archive b.name now).1.live = some b.db ∧
      (∀ e ∈ (restoreDatabase f s.archive b.name now).1.dir.entries, e ∈ s.archive.dir.entries) ∧
      ∀ e ∈ s.archive.dir.entries, isBackup e.name = true →
        e ∈ (restoreDatabase f s.archive b.name now).1.dir.entries ∧
          (restoreDatabase f s.archive b.name now).1.content e.name = s.archive.content e.name := by
  have hnone : ∀ b : Snapshot Db, b ∉ s₀.taken := by simp [h0.taken]
  have hstart : Guarded f policy s₀ := by
    refine ⟨h0.past, h0.pruned, ?_, fun b hb => absurd hb (hnone b),
      fun b hb => absurd hb (hnone b), fun e _ _ => .inr fun b hb => absurd hb (hnone b),
      fun b hb => absurd hb (hnone b),
      fun b hb => absurd (mem_taken_of_promised hb).2 (hnone b)⟩
    rw [h0.taken]
    exact List.Pairwise.nil
  have hg : Guarded f policy s := h.invariant hstart fun _ _ _ hg hs => guarded_step hg hs
  have hheld := hg.held b hb
  have hhas : s.archive.dir.has b.name = true :=
    List.any_eq_true.mpr ⟨b.entry, hheld, beq_iff_eq.mpr rfl⟩
  have hholds := hg.content b (mem_taken_of_promised hb).2 hheld
  obtain ⟨hdone, hlive, hfiles⟩ := restoreDatabase_holds now hhas hholds
  exact ⟨hdone, hlive, hfiles, (restoreDatabase_dir b.name now).1⟩

/-- Databases that are numbers; a file is marked by what has made it. -/
def smallFormat : Format Nat (List Nat) where
  image db := [0, db]
  load
    | [0, db] => some db
    | _ => none
  gzip bytes := 1 :: bytes
  gunzip
    | 1 :: bytes => some bytes
    | _ => none
  unpacked _ := []
  load_image _ := rfl
  gunzip_gzip _ := rfl

def smallSystem : System Nat (List Nat) where
  archive := ⟨some 7, ⟨true, [], List.nodup_nil, nofun, fun _ => rfl⟩, fun _ => []⟩
  clock := 0
  pruned := 0
  taken := []

/-- A backup of database 7, a commit of database 9, and a backup that is not compressed. -/
def smallEvents : List (Event Nat) :=
  [.backup ⟨2026, 1, 2, 3, 0, 0, 5⟩ (seconds 10) (seconds 11) true (some ⟨['c'], by decide⟩),
    .write 9, .backup ⟨2026, 1, 3, 3, 0, 0, 5⟩ (seconds 20) (seconds 21) false none]

/-- The first backup is still promised, and brings back database 7. -/
theorem recoverable_run_small : ∃ s : System Nat (List Nat), s.archive.live = some 9 ∧
    ∃ b ∈ promised ⟨"backups", 30, 2⟩ s,
      (restoreDatabase smallFormat s.archive b.name (seconds 30)).1.live = some 7 := by
  have h : (execAll (exec smallFormat ⟨"backups", 30, 2⟩) smallSystem smallEvents).any (fun s =>
      decide (s.archive.live = some 9) &&
        (promised ⟨"backups", 30, 2⟩ s).any fun b => decide (b.db = 7)) = true := by decide +kernel
  obtain ⟨s, hr, hp⟩ := exists_run_of_execAll h
  obtain ⟨hlive, hany⟩ := (Bool.and_eq_true _ _).mp hp
  obtain ⟨b, hb, hdb⟩ := List.any_eq_true.mp hany
  have hrestored := (recoverable_run
    ⟨rfl, fun _ he => absurd he List.not_mem_nil, le_refl _⟩ hr hb (seconds 30)).2.1
  rw [of_decide_eq_true hdb] at hrestored
  exact ⟨s, of_decide_eq_true hlive, b, hb, hrestored⟩

end RetroBridge.Maintenance
