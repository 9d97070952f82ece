/-
# Controller.Backup — periodic backups and their retention

A cycle of the backup loop writes `controller-<time>.db` with `VACUUM INTO` and then
removes all but the `keep` greatest of the files named `controller-*.db`. The age of a
backup is read off its name. For years of four digits the names of backups sort as they
were written; a file of another origin that fits the pattern may sort above them.

`retention_iff` says that the loop keeps its promises in all cycles of a run exactly if,
at each cycle, fewer than `keep` files of the directory sort above the new backup.
-/
import Tailroute.Theory.Retention
import Tailroute.Theory.Table
import Tailroute.Theory.Transition
import Tailroute.Common.Rfc3339

namespace Tailroute.Controller.Backup

open Tailroute.Theory Tailroute.Theory.TextOrder Tailroute.Common

set_option autoImplicit false

/-! ## The backup directory -/

/-- The name of a directory entry: a text, or bytes that are not UTF-8. -/
inductive FileName where
  | utf8 (name : Text)
  | other (bytes : List UInt8)
deriving DecidableEq

abbrev Directory := Table FileName (List UInt8)

/-- A database file; `VACUUM INTO` never writes an empty one. -/
structure Snapshot where
  bytes : List UInt8
  nonempty : bytes ≠ []

/-- chrono's `%Y%m%dT%H%M%SZ`. -/
def stamp (t : Int) : Text :=
  yearText (Instant.year t) ++ (decimal 2 (Instant.month t) ++ (decimal 2 (Instant.day t) ++ 'T' ::
    (decimal 2 (Instant.hour t) ++ (decimal 2 (Instant.minute t) ++
      (decimal 2 (Instant.second t) ++ ['Z'])))))

/-- The pattern of backup names, before and after the time. -/
def nameStart : Text := "controller-".toList

def nameEnd : Text := ".db".toList

def backupName (t : Int) : Text := nameStart ++ (stamp t ++ nameEnd)

example : backupName 0 = "controller-19700101T000000Z.db".toList := by decide

/-- `VACUUM INTO`: the file must not exist or be empty. -/
def vacuumInto (dir : Directory) (name : Text) (snapshot : Snapshot) : Option Directory :=
  match dir.find? (.utf8 name) with
  | none => some (dir.upsert (.utf8 name) snapshot.bytes)
  | some content => if content = [] then some (dir.upsert (.utf8 name) snapshot.bytes) else none

/-- `Storage::backup_to_dir` at an instant. -/
def backupToDir (dir : Directory) (now : Int) (snapshot : Snapshot) : Option Directory :=
  vacuumInto dir (backupName now) snapshot

/-- The pattern of `prune_old_backups`. -/
def isBackup (name : Text) : Bool :=
  nameStart.isPrefixOf name && nameEnd.isSuffixOf name

def FileName.backup? : FileName → Option Text
  | utf8 name => if isBackup name then some name else none
  | other _ => none

/-- The names that fit the pattern, in directory order. -/
def backups (dir : Directory) : List Text := dir.keys.filterMap FileName.backup?

def removeFile (dir : Directory) (name : Text) : Directory :=
  dir.deleteWhere fun file _ => decide (file = .utf8 name)

def pruneOldBackups (dir : Directory) (keep : Nat) : Directory :=
  ((Retention.newestFirst (backups dir)).drop keep).foldl removeFile dir

/-- A turn of `run_backup_loop` whose backup succeeds. -/
def backupCycle (keep : Nat) (dir : Directory) (now : Int) (snapshot : Snapshot) :
    Option Directory :=
  (backupToDir dir now snapshot).map fun dir =>
    if 0 < keep then pruneOldBackups dir keep else dir

/-! ## What one cycle keeps -/

theorem mem_backups {dir : Directory} {name : Text} :
    name ∈ backups dir ↔ .utf8 name ∈ dir.keys ∧ isBackup name = true := by
  rw [backups, List.mem_filterMap]
  constructor
  · rintro ⟨file, listed, fits⟩
    cases file with
    | utf8 other =>
        simp only [FileName.backup?, Option.ite_none_right_eq_some] at fits
        obtain ⟨fits, same⟩ := fits
        cases same
        exact ⟨listed, fits⟩
    | other bytes => cases fits
  · rintro ⟨listed, fits⟩
    exact ⟨.utf8 name, listed, if_pos fits⟩

theorem backups_nodup (dir : Directory) : (backups dir).Nodup := by
  refine dir.keys_nodup.filterMap ?_
  intro file file' name fits fits'
  cases file with
  | utf8 one =>
      cases file' with
      | utf8 two =>
          simp only [FileName.backup?, Option.mem_def, Option.ite_none_right_eq_some] at fits fits'
          rw [Option.some.inj fits.2, Option.some.inj fits'.2]
      | other _ => cases fits'
  | other _ => cases fits

theorem find?_foldl_removeFile (names : List Text) (dir : Directory) (file : FileName) :
    (names.foldl removeFile dir).find? file =
      if file ∈ names.map FileName.utf8 then none else dir.find? file := by
  induction names generalizing dir with
  | nil => rfl
  | cons name rest ih =>
      rw [List.foldl_cons, ih, removeFile, Table.find?_deleteWhere]
      by_cases later : file ∈ rest.map FileName.utf8
      · simp [later]
      · by_cases here : file = .utf8 name
        · subst here
          cases dir.find? (.utf8 name) <;> simp
        · cases dir.find? file <;> simp [later, here]

/-- The number of backups in the directory that sort above a name. -/
def newer (dir : Directory) (name : Text) : Nat := Retention.above (backups dir) name

theorem find?_pruneOldBackups_of_old {dir : Directory} {keep : Nat} {name : Text}
    (listed : name ∈ backups dir) (old : keep ≤ newer dir name) :
    (pruneOldBackups dir keep).find? (.utf8 name) = none := by
  rw [pruneOldBackups, find?_foldl_removeFile, if_pos]
  refine List.mem_map_of_mem ?_
  exact (Retention.mem_drop_newestFirst (backups_nodup dir) keep name).mpr ⟨listed, old⟩

/-- A file that does not fit the pattern, or is among the `keep` newest that do, stays. -/
theorem find?_pruneOldBackups_of_kept {dir : Directory} {keep : Nat} {file : FileName}
    (kept : ∀ name, file = .utf8 name → name ∈ backups dir → newer dir name < keep) :
    (pruneOldBackups dir keep).find? file = dir.find? file := by
  rw [pruneOldBackups, find?_foldl_removeFile, if_neg]
  intro removed
  obtain ⟨name, dropped, rfl⟩ := List.mem_map.mp removed
  obtain ⟨listed, old⟩ :=
    (Retention.mem_drop_newestFirst (backups_nodup dir) keep name).mp dropped
  exact absurd (kept name rfl listed) (Nat.not_lt.mpr old)

theorem mem_backups_pruneOldBackups {dir : Directory} {keep : Nat} {name : Text} :
    name ∈ backups (pruneOldBackups dir keep) ↔ name ∈ backups dir ∧ newer dir name < keep := by
  simp only [mem_backups, Table.mem_keys_iff]
  by_cases listed : name ∈ backups dir
  · by_cases few : newer dir name < keep
    · rw [find?_pruneOldBackups_of_kept fun other same _ => by cases same; exact few]
      simp only [few, and_true]
    · rw [find?_pruneOldBackups_of_old listed (Nat.not_lt.mp few)]
      simp [few]
  · rw [find?_pruneOldBackups_of_kept fun other same fits => by cases same; exact absurd fits listed]
    rw [mem_backups, Table.mem_keys_iff] at listed
    exact iff_of_false listed fun both => listed both.1

theorem length_backups_pruneOldBackups (dir : Directory) (keep : Nat) :
    (backups (pruneOldBackups dir keep)).length ≤ keep := by
  have kept : backups (pruneOldBackups dir keep) ⊆
      (backups dir).filter fun name => decide (Retention.above (backups dir) name < keep) := by
    intro name listed
    obtain ⟨listed, few⟩ := mem_backups_pruneOldBackups.mp listed
    exact List.mem_filter.mpr ⟨listed, decide_eq_true few⟩
  exact (List.subperm_of_subset (backups_nodup _) kept).length_le.trans
    (Retention.length_filter_above_lt (backups_nodup dir) keep)

/-! ## The names of backups -/

theorem isBackup_backupName (t : Int) : isBackup (backupName t) = true := by
  have starts : nameStart <+: backupName t := List.prefix_append nameStart _
  have ends : nameEnd <:+ backupName t :=
    (List.suffix_append (stamp t) nameEnd).trans (List.suffix_append nameStart _)
  rw [isBackup, List.isPrefixOf_iff_prefix.mpr starts, List.isSuffixOf_iff_suffix.mpr ends]
  rfl

theorem stamp_fourDigit {t : Int} (four : Instant.FourDigitYear t) :
    stamp t = decimal 4 (Instant.year t).toNat ++ (decimal 2 (Instant.month t) ++
      (decimal 2 (Instant.day t) ++ 'T' :: (decimal 2 (Instant.hour t) ++
        (decimal 2 (Instant.minute t) ++ (decimal 2 (Instant.second t) ++ ['Z']))))) := by
  rw [stamp, yearText, if_pos (show 0 ≤ Instant.year t ∧ Instant.year t ≤ 9999 from four)]

/-- The names of two seconds sort as the seconds do. -/
theorem backupName_lt {s t : Int} (hs : Instant.FourDigitYear s) (ht : Instant.FourDigitYear t)
    (below : Instant.seconds s < Instant.seconds t) : backupName s < backupName t := by
  have later : s < t := by
    simp only [Instant.seconds, nanosPerSecond] at below
    omega
  -- the seconds differ, so the names are never compared behind them
  have letter : Orders (fun _ _ : Int => False) fun _ => ['Z'] := fun _ _ never => never.elim
  have ordered := fields_orders letter [] []
  rw [backupName, backupName, stamp_fourDigit hs, stamp_fourDigit ht]
  exact List.append_left_lt
    (ordered ⟨hs, ht, later, fun same _ => absurd same (ne_of_lt below)⟩ nameEnd nameEnd)

theorem backupName_congr {s t : Int} (same : Instant.seconds s = Instant.seconds t) :
    backupName s = backupName t := by
  simp only [backupName, stamp, Instant.year, Instant.month, Instant.day, Instant.hour,
    Instant.minute, Instant.second, Instant.date, Instant.secondOfDay, same]

/-! ## One cycle -/

section Cycle

variable {dir dir' : Directory} {keep : Nat} {now : Int} {snapshot : Snapshot}

theorem backupToDir_eq_some :
    backupToDir dir now snapshot = some dir' ↔
      (∀ content, dir.find? (.utf8 (backupName now)) = some content → content = []) ∧
        dir' = dir.upsert (.utf8 (backupName now)) snapshot.bytes := by
  rw [backupToDir, vacuumInto]
  cases found : dir.find? (.utf8 (backupName now)) with
  | none => simp [eq_comm]
  | some content => simp [eq_comm]

theorem mem_backups_upsert {name other : Text} (fits : isBackup name = true) :
    other ∈ backups (dir.upsert (.utf8 name) snapshot.bytes) ↔ other = name ∨ other ∈ backups dir := by
  simp only [mem_backups, Table.mem_keys_iff, Table.find?_upsert, FileName.utf8.injEq]
  by_cases same : other = name
  · subst same
    simp [fits]
  · simp [same]

/-- Writing a file does not change how many sort above it. -/
theorem newer_upsert {name : Text} (fits : isBackup name = true) :
    newer (dir.upsert (.utf8 name) snapshot.bytes) name = newer dir name := by
  refine Retention.above_eq_of_mem (backups_nodup _) (backups_nodup _) fun other greater => ?_
  rw [mem_backups_upsert fits, or_iff_right (ne_of_gt greater)]

/-- A cycle writes its file, and keeps of the backups those with fewer than `keep` above. -/
theorem mem_backups_of_cycle (positive : 0 < keep)
    (ran : backupCycle keep dir now snapshot = some dir') (name : Text) :
    name ∈ backups dir' ↔ (name = backupName now ∨ name ∈ backups dir) ∧
      newer (dir.upsert (.utf8 (backupName now)) snapshot.bytes) name < keep := by
  obtain ⟨written, wrote, rfl⟩ := Option.map_eq_some_iff.mp ran
  obtain ⟨-, rfl⟩ := backupToDir_eq_some.mp wrote
  rw [if_pos positive, mem_backups_pruneOldBackups, mem_backups_upsert (isBackup_backupName now)]

/-- The new backup survives its own cycle exactly if fewer than `keep` sort above it. -/
theorem written_mem_iff (positive : 0 < keep)
    (ran : backupCycle keep dir now snapshot = some dir') :
    backupName now ∈ backups dir' ↔ newer dir (backupName now) < keep := by
  rw [mem_backups_of_cycle positive ran, newer_upsert (isBackup_backupName now)]
  exact and_iff_right (Or.inl rfl)

/-- Files that do not fit the pattern are left alone. -/
theorem find?_of_cycle (positive : 0 < keep)
    (ran : backupCycle keep dir now snapshot = some dir') {file : FileName}
    (unfit : file.backup? = none) : dir'.find? file = dir.find? file := by
  obtain ⟨written, wrote, rfl⟩ := Option.map_eq_some_iff.mp ran
  obtain ⟨-, rfl⟩ := backupToDir_eq_some.mp wrote
  rw [if_pos positive, find?_pruneOldBackups_of_kept, Table.find?_upsert, if_neg]
  · rintro rfl
    rw [FileName.backup?, if_pos (isBackup_backupName now)] at unfit
    cases unfit
  · rintro name rfl listed
    rw [FileName.backup?, if_pos (mem_backups.mp listed).2] at unfit
    cases unfit

theorem written_content (positive : 0 < keep)
    (ran : backupCycle keep dir now snapshot = some dir')
    (few : newer dir (backupName now) < keep) :
    dir'.find? (.utf8 (backupName now)) = some snapshot.bytes := by
  obtain ⟨written, wrote, rfl⟩ := Option.map_eq_some_iff.mp ran
  obtain ⟨-, rfl⟩ := backupToDir_eq_some.mp wrote
  rw [if_pos positive, find?_pruneOldBackups_of_kept, Table.find?_upsert, if_pos rfl]
  rintro name same -
  cases same
  rw [newer_upsert (isBackup_backupName now)]
  exact few

end Cycle

/-! ## Runs of the loop -/

structure Cycle where
  time : Int
  snapshot : Snapshot

/-- The directory, and the times of the backups the loop has written, newest first. -/
structure State where
  directory : Directory
  written : List Int

/-- A successful cycle at a later time. -/
def step (keep : Nat) (s : State) (c : Cycle) : Option State :=
  if s.written.head?.all fun last => decide (last < c.time) then
    (backupCycle keep s.directory c.time c.snapshot).map fun dir => ⟨dir, c.time :: s.written⟩
  else none

/-- The loop starts on a directory with any content. -/
def State.init (start : Directory) : State := ⟨start, []⟩

/-- The backup written at `t` is there. -/
def Holds (dir : Directory) (t : Int) : Prop := FileName.utf8 (backupName t) ∈ dir.keys

instance (dir : Directory) (t : Int) : Decidable (Holds dir t) :=
  inferInstanceAs (Decidable (_ ∈ _))

/-- What retention promises after each cycle. -/
structure Retained (keep : Nat) (start : Directory) (s : State) : Prop where
  newest : ∀ t, s.written.head? = some t → Holds s.directory t
  /-- With a backup of the loop, every later one is still there. -/
  recent : s.written.Pairwise fun later earlier => Holds s.directory earlier → Holds s.directory later
  bounded : s.written ≠ [] → (backups s.directory).length ≤ keep
  others : ∀ file, file.backup? = none → s.directory.find? file = start.find? file

/-- What a run keeps besides: the seconds of the backups increase, and the last one has
content, so that no second is used twice. -/
structure Dated (s : State) : Prop where
  years : ∀ t ∈ s.written, Instant.FourDigitYear t
  seconds : s.written.Pairwise fun later earlier => Instant.seconds earlier < Instant.seconds later
  content : ∀ t, s.written.head? = some t →
    ∃ content, s.directory.find? (.utf8 (backupName t)) = some content ∧ content ≠ []

theorem holds_iff {dir : Directory} {t : Int} : Holds dir t ↔ backupName t ∈ backups dir := by
  rw [mem_backups, isBackup_backupName]
  exact (and_iff_left rfl).symm

section Step

variable {keep : Nat} {s s' : State} {c : Cycle}

theorem step_eq_some (taken : step keep s c = some s') :
    (∀ last, s.written.head? = some last → last < c.time) ∧
      backupCycle keep s.directory c.time c.snapshot = some s'.directory ∧
      s'.written = c.time :: s.written := by
  obtain ⟨later, taken⟩ := Option.ite_none_right_eq_some.mp taken
  obtain ⟨dir, ran, rfl⟩ := Option.map_eq_some_iff.mp taken
  refine ⟨fun last newest => ?_, ran, rfl⟩
  rw [newest] at later
  exact of_decide_eq_true later

/-- A cycle that succeeds is not in the second of the last one. -/
theorem Dated.seconds_lt (dated : Dated s) (taken : step keep s c = some s') :
    ∀ t ∈ s.written, Instant.seconds t < Instant.seconds c.time := by
  obtain ⟨later, ran, -⟩ := step_eq_some taken
  obtain ⟨_, wrote, -⟩ := Option.map_eq_some_iff.mp ran
  obtain ⟨free, -⟩ := backupToDir_eq_some.mp wrote
  have last : ∀ last, s.written.head? = some last → Instant.seconds last < Instant.seconds c.time := by
    intro last newest
    have order : Instant.seconds last ≤ Instant.seconds c.time :=
      Int.ediv_le_ediv (by decide) (later last newest).le
    refine lt_of_le_of_ne order fun same => ?_
    obtain ⟨content, found, filled⟩ := dated.content last newest
    rw [backupName_congr same] at found
    exact filled (free content found)
  have sorted := dated.seconds
  cases written : s.written with
  | nil => simp
  | cons newest rest =>
      rw [written] at last sorted
      have newestBelow := last newest rfl
      intro t listed
      rcases List.mem_cons.mp listed with rfl | listed
      · exact newestBelow
      · exact ((List.pairwise_cons.mp sorted).1 t listed).trans newestBelow

theorem Dated.step (positive : 0 < keep) (dated : Dated s) (year : Instant.FourDigitYear c.time)
    (few : newer s.directory (backupName c.time) < keep) (taken : step keep s c = some s') :
    Dated s' := by
  have below := dated.seconds_lt taken
  obtain ⟨-, ran, written⟩ := step_eq_some taken
  constructor
  · rw [written]
    exact List.forall_mem_cons.mpr ⟨year, dated.years⟩
  · rw [written]
    exact List.pairwise_cons.mpr ⟨below, dated.seconds⟩
  · intro t newest
    rw [written] at newest
    cases newest
    exact ⟨_, written_content positive ran few, c.snapshot.nonempty⟩

theorem Retained.step (positive : 0 < keep) {start : Directory} (retained : Retained keep start s)
    (dated : Dated s) (dated' : Dated s') (few : newer s.directory (backupName c.time) < keep)
    (taken : Backup.step keep s c = some s') : Retained keep start s' := by
  obtain ⟨-, ran, written⟩ := step_eq_some taken
  have newest : Holds s'.directory c.time := holds_iff.mpr ((written_mem_iff positive ran).mpr few)
  constructor
  · intro t first
    rw [written] at first
    cases first
    exact newest
  · rw [written, List.pairwise_cons]
    refine ⟨fun _ _ _ => newest, ?_⟩
    have year : Instant.FourDigitYear c.time := dated'.years _ (by rw [written]; simp)
    refine (dated.seconds.and retained.recent).imp_of_mem ?_
    rintro later earlier listed listed' ⟨order, recent⟩ holds
    have names := backupName_lt (dated.years _ listed') (dated.years _ listed) order
    have old := backupName_lt (dated.years _ listed') year (dated.seconds_lt taken _ listed')
    -- the earlier one was there before the cycle, and more files sort above it
    obtain ⟨before, kept⟩ := (mem_backups_of_cycle positive ran _).mp (holds_iff.mp holds)
    have before := holds_iff.mpr (before.resolve_left old.ne)
    refine holds_iff.mpr ((mem_backups_of_cycle positive ran _).mpr ⟨Or.inr ?_, ?_⟩)
    · exact holds_iff.mp (recent before)
    · exact lt_of_le_of_lt (Retention.above_anti _ names.le) kept
  · intro _
    obtain ⟨dir, -, same⟩ := Option.map_eq_some_iff.mp ran
    rw [← same, if_pos positive]
    exact length_backups_pruneOldBackups dir keep
  · intro file unfit
    rw [find?_of_cycle positive ran unfit]
    exact retained.others file unfit

end Step

/-- Before every cycle of the run, fewer than `keep` backups sort above the new one. -/
def AlwaysFew (keep : Nat) (start : Directory) (cycles : List Cycle) : Prop :=
  ∀ past c s, past ++ [c] <+: cycles → Transition.run (step keep) (.init start) past = some s →
    newer s.directory (backupName c.time) < keep

theorem retained_of_alwaysFew {keep : Nat} (positive : 0 < keep) {start : Directory}
    {cycles : List Cycle} (years : ∀ c ∈ cycles, Instant.FourDigitYear c.time)
    (few : AlwaysFew keep start cycles) (past : List Cycle) (earlier : past <+: cycles) (s : State)
    (ran : Transition.run (step keep) (.init start) past = some s) :
    Dated s ∧ Retained keep start s := by
  -- the run is taken apart at its last cycle
  induction past using List.reverseRecOn generalizing s with
  | nil =>
      cases ran
      exact ⟨⟨nofun, .nil, nofun⟩, ⟨nofun, .nil, fun none => absurd rfl none, fun _ _ => rfl⟩⟩
  | append_singleton past c ih =>
      have listed : c ∈ cycles := earlier.subset (List.mem_append_right past (List.mem_singleton_self c))
      rw [Transition.run_append] at ran
      obtain ⟨mid, reached, last⟩ := Option.bind_eq_some_iff.mp ran
      obtain ⟨s', taken, done⟩ := Option.bind_eq_some_iff.mp last
      cases done
      obtain ⟨dated, retained⟩ := ih ((List.prefix_append past [c]).trans earlier) mid reached
      have fewHere := few past c mid earlier reached
      have dated' := dated.step positive (years c listed) fewHere taken
      exact ⟨dated', retained.step positive dated dated' fewHere taken⟩

/-- **When retention keeps the newest backups.** In a run of cycles in years of four
digits, all promises hold after each cycle exactly if, before each cycle, fewer than
`keep` files that fit the pattern sort above the name of the new backup. -/
theorem retention_iff (keep : Nat) (positive : 0 < keep) (start : Directory) (cycles : List Cycle)
    (years : ∀ c ∈ cycles, Instant.FourDigitYear c.time) (s : State)
    (ran : Transition.run (step keep) (.init start) cycles = some s) :
    (∀ past s', past <+: cycles → Transition.run (step keep) (.init start) past = some s' →
      Retained keep start s') ↔ AlwaysFew keep start cycles := by
  constructor
  · intro retained past c mid earlier reached
    obtain ⟨s', ranOn⟩ := Transition.run_of_prefix earlier ran
    have kept := retained _ s' earlier ranOn
    rw [Transition.run_append, reached, Option.bind_some] at ranOn
    obtain ⟨last, taken, done⟩ := Option.bind_eq_some_iff.mp ranOn
    cases done
    obtain ⟨-, cycled, written⟩ := step_eq_some taken
    have holds := kept.newest c.time (by rw [written]; rfl)
    exact (written_mem_iff positive cycled).mp (holds_iff.mp holds)
  · intro few past s' earlier reached
    exact (retained_of_alwaysFew positive years few past earlier s' reached).2

/-- A directory with one file. -/
def oneFile (name : Text) : Directory := Table.empty.upsert (.utf8 name) [83]

def cycleAt (seconds : Int) : Cycle := ⟨seconds * nanosPerSecond, ⟨[83, 81, 76], by decide⟩⟩

/-- Two cycles an hour apart: the second backup replaces the first. -/
theorem retention_iff_hourly :
    ∃ s, Transition.run (step 1) (.init (oneFile "notes.txt".toList)) [cycleAt 0, cycleAt 3600] =
        some s ∧ Retained 1 (oneFile "notes.txt".toList) s := by
  have runs : (Transition.run (step 1) (.init (oneFile "notes.txt".toList))
      [cycleAt 0, cycleAt 3600]).isSome = true := by decide +kernel
  obtain ⟨s, ran⟩ := Option.isSome_iff_exists.mp runs
  refine ⟨s, ran, (retention_iff 1 (by decide) _ [cycleAt 0, cycleAt 3600] (by decide +kernel) s
    ran).mpr ?_ _ s List.prefix_rfl ran⟩
  intro past c mid earlier reached
  rcases past with _ | ⟨first, _ | ⟨second, rest⟩⟩
  · obtain ⟨rfl, -⟩ := List.cons_prefix_cons.mp earlier
    cases reached
    decide +kernel
  · obtain ⟨rfl, later⟩ := List.cons_prefix_cons.mp earlier
    obtain ⟨rfl, -⟩ := List.cons_prefix_cons.mp later
    have few : (Transition.run (step 1) (.init (oneFile "notes.txt".toList)) [cycleAt 0]).all
        (fun s => decide (newer s.directory (backupName (cycleAt 3600).time) < 1)) = true := by
      decide +kernel
    rw [reached] at few
    exact of_decide_eq_true few
  · have short := earlier.length_le
    simp at short

/-- **A file of another origin is kept in place of the backup just written.** -/
theorem manual_copy_evicts_backup :
    ∃ s, Transition.run (step 1) (.init (oneFile "controller-manual.db".toList)) [cycleAt 0] =
        some s ∧ s.written = [0] ∧ ¬Holds s.directory 0 :=
  Transition.exists_run (fun s : State => s.written = [0] ∧ ¬Holds s.directory 0) _ (by decide +kernel)

end Tailroute.Controller.Backup
