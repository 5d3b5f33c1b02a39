/-
  File:      RetroBridge/Maintenance/Backup.lean
  Subject:   WHAT PRUNING LEAVES OF THE BACKUPS (retrobridge/backup.py: `prune_backups`), where
             every `os.remove` succeeds.

  The backups are listed newest first; the age rule removes from that list and rebuilds it, and the
  count rule removes what is behind the first `retention_count` of the rest.

  * `Directory` -- the entries of a directory, no name twice;
  * `isBackup` -- `BACKUP_FILENAME_PATTERN.match(name)`;
  * `pruneBackups` -- the function: the paths it returns, and the entries left;
  * `pruneBackups_eq` -- the two rules, as a cut of the list of entries;
  * `Retained` -- the policy: only backups go, each is returned once, and of those within the age
    limit the newest stay;
  * `pruneBackups_retained` -- **the policy is kept**, whatever the directory, the clock and the two
    limits.
-/
import RetroBridge.Models

namespace RetroBridge.Maintenance

/-! ## 1. The directory and the function -/

/-- An entry of the backup directory with its modification time. -/
structure DirEntry where
  name : String
  mtime : Time
  deriving DecidableEq

/-- **A directory** as `os.listdir` lists it: names without a slash, none twice, and none where
    there is no directory. -/
structure Directory where
  isDir : Bool
  entries : List DirEntry
  nodup : (entries.map DirEntry.name).Nodup
  plain : ∀ e ∈ entries, e.name.toList.head? ≠ some '/'
  absent : isDir = false → entries = []

/-- `os.path.join(directory, name)`. -/
def join (directory name : String) : String :=
  if name.toList.head? = some '/' then name
  else if directory = "" ∨ directory.toList.getLast? = some '/' then directory ++ name
  else directory ++ "/" ++ name

/-- What `$` leaves: it matches at the end, and before a line end there. -/
def beforeEnd (cs : List Char) : List Char :=
  if cs.getLast? = some '\n' then cs.dropLast else cs

/-- **`BACKUP_FILENAME_PATTERN.match(name)`**, of `retrobridge_.*\.db(\.gz)?$`. -/
def isBackup (name : String) : Bool :=
  let cs := beforeEnd name.toList
  let rest := cs.drop "retrobridge_".length
  "retrobridge_".toList.isPrefixOf cs && !rest.contains '\n' &&
    (".db".toList.isSuffixOf rest || ".db.gz".toList.isSuffixOf rest)

/-- `os.remove(path)`. -/
def osRemove (directory : String) (entries : List DirEntry) (path : String) : List DirEntry :=
  entries.filter fun e => join directory e.name ≠ path

/-- The loop of the age rule: the paths it removes, and `kept`. -/
def ageLoop (cutoff : Time) : List (Time × String) → List String × List (Time × String)
  | [] => ([], [])
  | (mtime, path) :: backups =>
    let rest := ageLoop cutoff backups
    if mtime < cutoff then (path :: rest.1, rest.2) else (rest.1, (mtime, path) :: rest.2)

/-- `removed` and `backups` behind the age rule. -/
def ageRule (now : Time) (retentionDays : Int) (backups : List (Time × String)) :
    List String × List (Time × String) :=
  if 0 < retentionDays then ageLoop (now - seconds (retentionDays * 86400)) backups
  else ([], backups)

/-- What the count rule removes. -/
def countRule (retentionCount : Int) (backups : List (Time × String)) : List String :=
  if 0 < retentionCount ∧ retentionCount < backups.length then
    (backups.drop retentionCount.toNat).map Prod.snd
  else []

/-- `backups.sort(key=lambda x: x[0], reverse=True)`, which is stable. -/
def newestFirst (backups : List (Time × String)) : List (Time × String) :=
  backups.mergeSort fun x y => decide (y.1 ≤ x.1)

/-- **`prune_backups`**: the paths it returns and the entries it leaves. -/
def pruneBackups (directory : String) (d : Directory) (now : Time)
    (retentionDays retentionCount : Int) : List String × List DirEntry :=
  if d.isDir = false then ([], d.entries)
  else
    let backups := newestFirst <|
      (d.entries.filter fun e => isBackup e.name).map fun e => (e.mtime, join directory e.name)
    let aged := ageRule now retentionDays backups
    let removed := aged.1 ++ countRule retentionCount aged.2
    (removed, removed.foldl (osRemove directory) d.entries)

/-! ## 2. The policy -/

/-- Not older than the limit; without a limit nothing is. -/
def withinAge (now : Time) (retentionDays : Int) (e : DirEntry) : Bool :=
  decide (retentionDays ≤ 0) || decide (now - seconds (retentionDays * 86400) ≤ e.mtime)

/-- The backups within the age limit. -/
def recent (d : Directory) (now : Time) (retentionDays : Int) : List DirEntry :=
  d.entries.filter fun e => isBackup e.name && withinAge now retentionDays e

/-- **The retention policy**, of the paths returned and the entries left. -/
structure Retained (directory : String) (d : Directory) (now : Time)
    (retentionDays retentionCount : Int) (removed : List String) (left : List DirEntry) : Prop where
  sublist : left.Sublist d.entries
  only : ∀ e ∈ d.entries, e ∉ left → isBackup e.name = true
  once : removed.Nodup
  returned : ∀ path, path ∈ removed ↔ ∃ e ∈ d.entries, e ∉ left ∧ path = join directory e.name
  within : ∀ e ∈ left, isBackup e.name = true → withinAge now retentionDays e = true
  number : (left.filter fun e => isBackup e.name).length =
    if 0 < retentionCount then min retentionCount.toNat (recent d now retentionDays).length
    else (recent d now retentionDays).length
  newest : ∀ e ∈ recent d now retentionDays, e ∉ left → ∀ e' ∈ left, isBackup e'.name = true →
    e.mtime ≤ e'.mtime

/-! ## 3. The two rules, on the entries -/

variable {d : Directory} {directory : String} {now : Time} {retentionDays retentionCount : Int}

/-- The backups of a directory, the newest first. -/
def sorted (d : Directory) : List DirEntry :=
  (d.entries.filter fun e => isBackup e.name).mergeSort fun x y => decide (y.mtime ≤ x.mtime)

/-- The backups within the age limit, the newest first. -/
def young (d : Directory) (now : Time) (retentionDays : Int) : List DirEntry :=
  (sorted d).filter (withinAge now retentionDays)

/-- What the count rule leaves of them. -/
def kept (d : Directory) (now : Time) (retentionDays retentionCount : Int) : List DirEntry :=
  if 0 < retentionCount then (young d now retentionDays).take retentionCount.toNat
  else young d now retentionDays

/-- What it removes. -/
def dropped (d : Directory) (now : Time) (retentionDays retentionCount : Int) : List DirEntry :=
  if 0 < retentionCount then (young d now retentionDays).drop retentionCount.toNat else []

/-- What the two rules remove. -/
def gone (d : Directory) (now : Time) (retentionDays retentionCount : Int) : List DirEntry :=
  (sorted d).filter (fun e => !withinAge now retentionDays e) ++
    dropped d now retentionDays retentionCount

/-- What they leave. -/
def stay (d : Directory) (now : Time) (retentionDays retentionCount : Int) : List DirEntry :=
  d.entries.filter fun e => decide (e ∉ gone d now retentionDays retentionCount)

theorem mem_sorted {e : DirEntry} : e ∈ sorted d ↔ e ∈ d.entries ∧ isBackup e.name = true :=
  List.mem_mergeSort.trans List.mem_filter

theorem mem_young {e : DirEntry} :
    e ∈ young d now retentionDays ↔ e ∈ recent d now retentionDays := by
  unfold young recent
  rw [List.mem_filter, mem_sorted, List.mem_filter, Bool.and_eq_true, and_assoc]

theorem kept_append_dropped :
    kept d now retentionDays retentionCount ++ dropped d now retentionDays retentionCount =
      young d now retentionDays := by
  unfold kept dropped
  split
  · exact List.take_append_drop _ _
  · exact List.append_nil _

theorem ageRule_map (es : List DirEntry) :
    ageRule now retentionDays (es.map fun e => (e.mtime, join directory e.name)) =
      ((es.filter fun e => !withinAge now retentionDays e).map fun e => join directory e.name,
        (es.filter (withinAge now retentionDays)).map fun e =>
          (e.mtime, join directory e.name)) := by
  unfold ageRule
  by_cases hdays : 0 < retentionDays
  · have hwithin : ∀ e : DirEntry, withinAge now retentionDays e =
        decide (now - seconds (retentionDays * 86400) ≤ e.mtime) := by
      intro e
      rw [withinAge, decide_eq_false (Int.not_le.mpr hdays), Bool.false_or]
    rw [if_pos hdays]
    induction es with
    | nil => rfl
    | cons e es ih =>
        rw [List.map_cons, ageLoop, ih, List.filter_cons, List.filter_cons, hwithin]
        by_cases hold : e.mtime < now - seconds (retentionDays * 86400)
        · rw [if_pos hold, decide_eq_false (Int.not_le.mpr hold)]
          rfl
        · rw [if_neg hold, decide_eq_true (Int.not_lt.mp hold)]
          rfl
  · have hwithin : ∀ e : DirEntry, withinAge now retentionDays e = true := by
      intro e
      rw [withinAge, decide_eq_true (Int.not_lt.mp hdays), Bool.true_or]
    rw [if_neg hdays, List.filter_eq_self.mpr fun e _ => hwithin e,
      List.filter_eq_nil_iff.mpr fun e _ => by rw [hwithin e]; exact Bool.false_ne_true]
    rfl

theorem countRule_map (es : List DirEntry) :
    countRule retentionCount (es.map fun e => (e.mtime, join directory e.name)) =
      (if 0 < retentionCount then es.drop retentionCount.toNat else []).map
        fun e => join directory e.name := by
  unfold countRule
  rw [List.length_map]
  by_cases hcount : 0 < retentionCount
  · rw [if_pos hcount]
    by_cases hmore : retentionCount < es.length
    · rw [if_pos ⟨hcount, hmore⟩, ← List.map_drop, List.map_map]
      rfl
    · rw [if_neg fun h => hmore h.2, List.drop_eq_nil_of_le (by omega)]
      rfl
  · rw [if_neg hcount, if_neg fun h => hcount h.1]
    rfl

theorem newestFirst_map (es : List DirEntry) :
    newestFirst (es.map fun e => (e.mtime, join directory e.name)) =
      (es.mergeSort fun x y => decide (y.mtime ≤ x.mtime)).map
        fun e => (e.mtime, join directory e.name) := by
  refine Eq.symm (List.map_mergeSort ?_)
  intros
  rfl

theorem foldl_osRemove (paths : List String) : ∀ entries : List DirEntry,
    paths.foldl (osRemove directory) entries =
      entries.filter fun e => decide (join directory e.name ∉ paths) := by
  induction paths with
  | nil => exact fun entries => (List.filter_eq_self.mpr fun _ _ => rfl).symm
  | cons path paths ih =>
      intro entries
      rw [List.foldl_cons, ih, osRemove, List.filter_filter]
      refine List.filter_congr fun e _ => ?_
      rw [← Bool.decide_and]
      refine decide_eq_decide.mpr ?_
      rw [List.mem_cons, not_or, and_comm]

/-- Two entries of a directory have two paths. -/
theorem join_inj {e e' : DirEntry} (he : e ∈ d.entries) (he' : e' ∈ d.entries)
    (h : join directory e.name = join directory e'.name) : e = e' := by
  refine List.inj_on_of_nodup_map d.nodup he he' ?_
  unfold join at h
  rw [if_neg (d.plain e he), if_neg (d.plain e' he')] at h
  split at h
  · exact (String.append_right_inj _).mp h
  · exact (String.append_right_inj _).mp h

theorem mem_gone {e : DirEntry} : e ∈ gone d now retentionDays retentionCount ↔
    (e ∈ sorted d ∧ withinAge now retentionDays e = false) ∨
      e ∈ dropped d now retentionDays retentionCount := by
  unfold gone
  rw [List.mem_append, List.mem_filter, Bool.not_eq_true']

theorem mem_young_iff {e : DirEntry} : e ∈ young d now retentionDays ↔
    e ∈ kept d now retentionDays retentionCount ∨
      e ∈ dropped d now retentionDays retentionCount := by
  rw [← List.mem_append, kept_append_dropped]

theorem mem_sorted_of_gone {e : DirEntry} (h : e ∈ gone d now retentionDays retentionCount) :
    e ∈ sorted d := by
  rcases mem_gone.mp h with hold | hdropped
  · exact hold.1
  · exact (List.mem_filter.mp (mem_young_iff.mpr (.inr hdropped))).1

/-- **The two rules**: what is returned are the paths of the entries that are gone. -/
theorem pruneBackups_eq : pruneBackups directory d now retentionDays retentionCount =
    ((gone d now retentionDays retentionCount).map fun e => join directory e.name,
      stay d now retentionDays retentionCount) := by
  by_cases hexists : d.isDir = false
  · have hgone : gone d now retentionDays retentionCount = [] := by
      refine List.eq_nil_iff_forall_not_mem.mpr fun e he => ?_
      have hmem := (mem_sorted.mp (mem_sorted_of_gone he)).1
      rw [d.absent hexists] at hmem
      exact absurd hmem List.not_mem_nil
    rw [pruneBackups, if_pos hexists, stay, hgone, d.absent hexists]
    rfl
  have hremoved : (pruneBackups directory d now retentionDays retentionCount).1 =
      (gone d now retentionDays retentionCount).map fun e => join directory e.name := by
    rw [pruneBackups, if_neg hexists, gone, List.map_append]
    simp only [newestFirst_map, ageRule_map, countRule_map]
    rfl
  have hleft : (pruneBackups directory d now retentionDays retentionCount).2 =
      (pruneBackups directory d now retentionDays retentionCount).1.foldl (osRemove directory)
        d.entries := by
    rw [pruneBackups, if_neg hexists]
  refine Prod.ext hremoved ?_
  rw [hleft, hremoved, foldl_osRemove]
  refine List.filter_congr fun e he => decide_eq_decide.mpr (not_congr ?_)
  constructor
  · intro hmem
    obtain ⟨e', he', heq⟩ := List.mem_map.mp hmem
    exact join_inj (mem_sorted.mp (mem_sorted_of_gone he')).1 he heq ▸ he'
  · exact fun hmem => List.mem_map_of_mem hmem

/-! ## 4. The policy is kept -/

theorem nodup_entries (d : Directory) : d.entries.Nodup := d.nodup.of_map _

theorem nodup_sorted (d : Directory) : (sorted d).Nodup :=
  (List.mergeSort_perm _ _).nodup_iff.mpr ((nodup_entries d).filter _)

/-- The count rule cuts a list without repetitions. -/
theorem nodup_cut : (kept d now retentionDays retentionCount ++
    dropped d now retentionDays retentionCount).Nodup := by
  rw [kept_append_dropped]
  exact (nodup_sorted d).filter _

/-- No entry is removed by both rules, and none by one rule twice. -/
theorem nodup_gone : (gone d now retentionDays retentionCount).Nodup := by
  refine List.nodup_append.mpr ⟨(nodup_sorted d).filter _, (List.nodup_append.mp nodup_cut).2.1, ?_⟩
  rintro e hold _ hdropped rfl
  have hyoung := (List.mem_filter.mp (mem_young_iff.mpr (.inr hdropped))).2
  have hold := (List.mem_filter.mp hold).2
  rw [hyoung] at hold
  cases hold

/-- **The backups that stay** are those within the age limit that the rules leave. -/
theorem mem_kept {e : DirEntry} : e ∈ kept d now retentionDays retentionCount ↔
    e ∈ recent d now retentionDays ∧ e ∉ gone d now retentionDays retentionCount := by
  rw [← mem_young, mem_gone, mem_young_iff]
  constructor
  · intro hkept
    refine ⟨.inl hkept, fun hgone => ?_⟩
    rcases hgone with hold | hdropped
    · have hwithin := (List.mem_filter.mp (mem_young_iff.mpr (.inl hkept))).2
      exact Bool.false_ne_true (hold.2.symm.trans hwithin)
    · exact (List.nodup_append.mp nodup_cut).2.2 e hkept e hdropped rfl
  · rintro ⟨hkept | hdropped, hgone⟩
    · exact hkept
    · exact absurd (.inr hdropped) hgone

/-- **What the count rule removes is not newer than what it leaves.** -/
theorem dropped_le_kept {e e' : DirEntry} (he : e ∈ dropped d now retentionDays retentionCount)
    (he' : e' ∈ kept d now retentionDays retentionCount) : e.mtime ≤ e'.mtime := by
  have hsorted : (sorted d).Pairwise fun x y => decide (y.mtime ≤ x.mtime) = true := by
    refine List.pairwise_mergeSort (fun x y z hxy hyz => ?_) (fun x y => ?_) _
    · exact decide_eq_true (Int.le_trans (of_decide_eq_true hyz) (of_decide_eq_true hxy))
    · rw [Bool.or_eq_true, decide_eq_true_eq, decide_eq_true_eq]
      exact Int.le_total y.mtime x.mtime
  have hcut := hsorted.filter (withinAge now retentionDays)
  change (young d now retentionDays).Pairwise _ at hcut
  rw [← @kept_append_dropped d now retentionDays retentionCount, List.pairwise_append] at hcut
  exact of_decide_eq_true (hcut.2.2 e' he' e he)

theorem length_kept : (kept d now retentionDays retentionCount).length =
    if 0 < retentionCount then min retentionCount.toNat (recent d now retentionDays).length
    else (recent d now retentionDays).length := by
  have hlength : (young d now retentionDays).length = (recent d now retentionDays).length := by
    refine List.Perm.length_eq ((List.perm_ext_iff_of_nodup ?_ ?_).mpr fun _ => mem_young)
    · exact (nodup_sorted d).filter _
    · exact (nodup_entries d).filter _
  unfold kept
  split
  · rw [List.length_take, hlength]
  · exact hlength

theorem mem_stay {e : DirEntry} : e ∈ stay d now retentionDays retentionCount ↔
    e ∈ d.entries ∧ e ∉ gone d now retentionDays retentionCount := by
  rw [stay, List.mem_filter, decide_eq_true_eq]

/-- An entry that does not stay is gone. -/
theorem gone_of_not_stay {e : DirEntry} (he : e ∈ d.entries)
    (h : e ∉ stay d now retentionDays retentionCount) :
    e ∈ gone d now retentionDays retentionCount := by
  by_contra hstays
  exact h (mem_stay.mpr ⟨he, hstays⟩)

/-- **The backups among the entries that stay** are those the count rule leaves. -/
theorem mem_kept_iff {e : DirEntry} : e ∈ kept d now retentionDays retentionCount ↔
    e ∈ stay d now retentionDays retentionCount ∧ isBackup e.name = true := by
  rw [mem_kept, mem_stay]
  constructor
  · rintro ⟨hrecent, hstays⟩
    obtain ⟨hmem, hboth⟩ := List.mem_filter.mp hrecent
    exact ⟨⟨hmem, hstays⟩, (Bool.and_eq_true_iff.mp hboth).1⟩
  · rintro ⟨⟨hmem, hstays⟩, hbackup⟩
    have hsorted : e ∈ sorted d := mem_sorted.mpr ⟨hmem, hbackup⟩
    refine ⟨mem_young.mp (List.mem_filter.mpr ⟨hsorted, ?_⟩), hstays⟩
    by_contra hold
    exact hstays (mem_gone.mpr (.inl ⟨hsorted, Bool.eq_false_iff.mpr hold⟩))

/-- A backup within the age limit goes by the count rule. -/
theorem dropped_of_gone {e : DirEntry} (he : e ∈ recent d now retentionDays)
    (h : e ∈ gone d now retentionDays retentionCount) :
    e ∈ dropped d now retentionDays retentionCount := by
  refine (mem_gone.mp h).resolve_left fun hold => ?_
  have hwithin := (List.mem_filter.mp (mem_young.mpr he)).2
  exact absurd (hold.2.symm.trans hwithin) Bool.false_ne_true

/-- **Pruning keeps the retention policy.** -/
theorem pruneBackups_retained (directory : String) (d : Directory) (now : Time)
    (retentionDays retentionCount : Int) :
    Retained directory d now retentionDays retentionCount
      (pruneBackups directory d now retentionDays retentionCount).1
      (pruneBackups directory d now retentionDays retentionCount).2 := by
  rw [pruneBackups_eq]
  have hentry : ∀ {e : DirEntry}, e ∈ gone d now retentionDays retentionCount →
      e ∈ d.entries ∧ isBackup e.name = true := fun he => mem_sorted.mp (mem_sorted_of_gone he)
  refine ⟨List.filter_sublist, ?_, ?_, ?_, ?_, ?_, ?_⟩
  · exact fun e he hremoved => (hentry (gone_of_not_stay he hremoved)).2
  · refine nodup_gone.map_on fun e he e' he' heq => ?_
    exact join_inj (hentry he).1 (hentry he').1 heq
  · intro path
    rw [List.mem_map]
    constructor
    · rintro ⟨e, he, rfl⟩
      exact ⟨e, (hentry he).1, fun hstays => (mem_stay.mp hstays).2 he, rfl⟩
    · rintro ⟨e, he, hremoved, rfl⟩
      exact ⟨e, gone_of_not_stay he hremoved, rfl⟩
  · intro e he hbackup
    have hrecent := (List.mem_filter.mp (mem_kept.mp (mem_kept_iff.mpr ⟨he, hbackup⟩)).1).2
    exact (Bool.and_eq_true_iff.mp hrecent).2
  · rw [← length_kept]
    refine List.Perm.length_eq ((List.perm_ext_iff_of_nodup ?_ ?_).mpr fun e => ?_)
    · exact ((nodup_entries d).filter _).filter _
    · exact (List.nodup_append.mp nodup_cut).1
    · rw [List.mem_filter]
      exact mem_kept_iff.symm
  · intro e he hremoved e' he' hbackup
    have hgone := gone_of_not_stay (List.mem_filter.mp he).1 hremoved
    exact dropped_le_kept (dropped_of_gone he hgone) (mem_kept_iff.mpr ⟨he', hbackup⟩)

end RetroBridge.Maintenance
