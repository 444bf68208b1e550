import Mathlib.Data.List.Nodup
import Mathlib.Data.List.TakeWhile
import Mathlib.Tactic.MkIffOfInductiveProp
import QueryLint.Cli.Source
import QueryLint.Proofs.Keyed

/-!
The files of SQL in a directory.

A directory hands out its entries in an order of its own. Main statement: which files of it are
taken, and in which order, does not depend on that. They are the entries that a path leads to as files
and that have the extension `sql`, in strictly ascending order of their paths.
-/

namespace QueryLint.Cli

/-! ### Paths to the entries of a directory -/

/-- A name that an entry of a directory can have. -/
@[mk_iff]
structure UsableName (name : String) : Prop where
  nonempty : name ≠ ""
  not_itself : name ≠ "."
  not_parent : name ≠ ".."
  no_slash : '/' ∉ name.toList
  short : name.utf8ByteSize ≤ longestName

instance (name : String) : Decidable (UsableName name) :=
  decidable_of_iff _ (usableName_iff name).symm

/-- The entries of a directory have usable names, each a name of its own. -/
@[mk_iff]
structure ProperListing (entries : List (String × Entry)) : Prop where
  distinct : (entries.map (·.1)).Nodup
  usable : ∀ entry ∈ entries, UsableName entry.1

instance (entries : List (String × Entry)) : Decidable (ProperListing entries) :=
  decidable_of_iff _ (properListing_iff entries).symm

theorem endsWith_slash_iff (path : String) :
    path.endsWith "/" = true ↔ ∃ front, path.toList = front ++ ['/'] := by
  change path.toSlice.endsWith "/" = true ↔ _
  rw [String.Slice.endsWith_string_iff, String.copy_toSlice]
  exact exists_congr fun front => eq_comm

theorem startsWith_slash_append (path tail : String) (nonempty : path ≠ "") :
    (path ++ tail).startsWith "/" = path.startsWith "/" := by
  rw [Bool.eq_iff_iff, String.startsWith_string_iff, String.startsWith_string_iff,
    String.toList_append]
  cases shape : path.toList with
  | nil => exact absurd (String.toList_eq_nil_iff.mp shape) nonempty
  | cons first rest => simp

/-- A slash divides the names of a path. -/
theorem pathNames_of_slash {path : String} {front back : List Char}
    (shape : path.toList = front ++ '/' :: back) :
    pathNames path = pathNames (String.ofList front) ++ pathNames (String.ofList back) := by
  simp only [pathNames, shape, List.splitOn_append_cons_self, List.map_append, List.filter_append,
    String.toList_ofList]

theorem UsableName.pathNames {name : String} (usable : UsableName name) :
    pathNames name = [name] := by
  rw [Cli.pathNames, List.splitOn_eq_singleton usable.no_slash]
  simp [usable.nonempty]

/-- All entries of a directory have the same path up to the slash before their name. -/
theorem exists_joinPath (directory : String) :
    ∃ front : List Char, (∀ name, (joinPath directory name).toList = front ++ '/' :: name.toList) ∧
      pathNames (String.ofList front) = pathNames directory := by
  by_cases ends : directory.endsWith "/" = true
  · obtain ⟨front, shape⟩ := (endsWith_slash_iff directory).mp ends
    refine ⟨front, ?_, ?_⟩
    · intro name
      simp [joinPath, ends, shape]
    · rw [pathNames_of_slash shape]
      simp [pathNames]
  · refine ⟨directory.toList, ?_, by rw [String.ofList_toList]⟩
    intro name
    simp [joinPath, ends]

theorem pathNames_joinPath (directory : String) {name : String} (usable : UsableName name) :
    pathNames (joinPath directory name) = pathNames directory ++ [name] := by
  obtain ⟨front, joined, names⟩ := exists_joinPath directory
  rw [pathNames_of_slash (joined name), names, String.ofList_toList, usable.pathNames]

theorem pathSteps_joinPath (directory : String) {name : String} (usable : UsableName name) :
    pathSteps (joinPath directory name) = pathNames directory ++ [name] := by
  have open_ended : ¬(joinPath directory name).endsWith "/" = true := by
    intro ends
    obtain ⟨front, joined, -⟩ := exists_joinPath directory
    obtain ⟨other, shape⟩ := (endsWith_slash_iff _).mp ends
    have named : name.toList ≠ [] := by
      intro empty
      exact usable.nonempty (String.toList_eq_nil_iff.mp empty)
    rw [joined] at shape
    have last := congrArg List.getLast? shape
    rw [List.getLast?_concat, List.getLast?_append_of_ne_nil _ (List.cons_ne_nil _ _),
      List.getLast?_cons_of_ne_nil named] at last
    exact usable.no_slash (List.mem_of_getLast? last)
  rw [pathSteps, pathNames_joinPath directory usable, if_neg open_ended, List.append_nil]

namespace Entry

theorem find?_append (entry : Entry) (names more : List String) :
    entry.find? (names ++ more) = (entry.find? names).bind (find? more) := by
  induction names generalizing entry with
  | nil => rfl
  | cons name names ih =>
    cases entry with
    | file content => rfl
    | broken cause => rfl
    | directory entries fault =>
      simp only [List.cons_append, find?]
      cases entries.lookup name with
      | none => rfl
      | some inner => exact ih inner

end Entry

namespace FileTree

variable (tree : FileTree)

theorem start_joinPath (directory name : String) (nonempty : directory ≠ "") :
    tree.start (joinPath directory name) = tree.start directory := by
  have same : (joinPath directory name).startsWith "/" = directory.startsWith "/" := by
    rw [joinPath]
    split
    · exact startsWith_slash_append directory name nonempty
    · rw [String.append_assoc]
      exact startsWith_slash_append directory _ nonempty
  rw [start, start, same]

/-- Steps are followed one after another. -/
theorem follow_append (place first second : List String) :
    tree.follow place (first ++ second) =
      tree.follow place first >>= fun reached => tree.follow reached second := by
  induction first generalizing place with
  | nil => rfl
  | cons step rest ih =>
    rw [List.cons_append, follow, follow]
    split
    · rfl
    · rfl
    · rfl
    · split
      · exact ih place
      · split
        · exact ih place.dropLast
        · split
          · rfl
          · split
            · exact ih (place ++ [step])
            · rfl

theorem entry_eq_ok_iff (path : String) (entry : Entry) :
    tree.entry path = .ok entry ↔ pathFault? path = none ∧
      ∃ place, tree.follow (tree.start path) (pathSteps path) = .ok place ∧
        tree.root.find? place = some entry := by
  rw [FileTree.entry, resolve]
  cases pathFault? path with
  | some fault => simp [bind, Except.bind]
  | none =>
    cases tree.follow (tree.start path) (pathSteps path) with
    | error cause => simp [bind, Except.bind]
    | ok place =>
      cases found : tree.root.find? place with
      | none => simp [bind, Except.bind, found]
      | some other => simp [bind, Except.bind, pure, Except.pure, found]

theorem listing?_eq_ok_iff (path : String) (entries : List (String × Entry)) :
    tree.listing? path = some (.ok entries) ↔ tree.entry path = .ok (.directory entries none) := by
  rw [listing?]
  split
  next others same => simp [same]
  next others fault same => simp [same]
  next other _ => simpa using fun same => other entries same

variable {tree} {path : String} {entries : List (String × Entry)}

/-- A directory is listed if its path can be followed to it. -/
theorem listing?_of_follow (place : List String) (sound : pathFault? path = none)
    (followed : tree.follow (tree.start path) (pathSteps path) = .ok place)
    (found : tree.root.find? place = some (.directory entries none)) :
    tree.listing? path = some (.ok entries) := by
  rw [listing?_eq_ok_iff, entry_eq_ok_iff]
  exact ⟨sound, place, followed, found⟩

/-- The names on the path of a directory lead to it, with or without a slash behind them. -/
theorem exists_place_of_listing? (listed : tree.listing? path = some (.ok entries)) :
    ∃ place, tree.follow (tree.start path) (pathNames path) = .ok place ∧
      tree.root.find? place = some (.directory entries none) := by
  rw [listing?_eq_ok_iff, entry_eq_ok_iff] at listed
  obtain ⟨-, place, followed, found⟩ := listed
  rw [pathSteps] at followed
  split at followed
  · rw [follow_append] at followed
    cases reached : tree.follow (tree.start path) (pathNames path) with
    | error cause =>
      rw [reached] at followed
      cases followed
    | ok other =>
      -- The step to the directory itself fails anywhere but in a directory.
      rw [reached] at followed
      simp only [bind, Except.bind, follow] at followed
      split at followed
      · cases followed
      · cases followed
      · cases followed
      · simp only [if_pos] at followed
        cases followed
        exact ⟨place, rfl, found⟩
  · rw [List.append_nil] at followed
    exact ⟨place, followed, found⟩

theorem ne_empty_of_listing? (listed : tree.listing? path = some (.ok entries)) : path ≠ "" := by
  rintro rfl
  rw [listing?_eq_ok_iff, entry_eq_ok_iff] at listed
  have fault : pathFault? "" = some .notFound := by decide +kernel
  rw [fault] at listed
  cases listed.1

/-- The path of an entry leads to it, unless it cannot be followed at all. -/
theorem entry_joinPath (listed : tree.listing? path = some (.ok entries)) {name : String}
    (usable : UsableName name) (entry : Entry) :
    tree.entry (joinPath path name) = .ok entry ↔
      pathFault? (joinPath path name) = none ∧ entries.lookup name = some entry := by
  obtain ⟨place, followed, found⟩ := exists_place_of_listing? listed
  have inside : tree.root.find? (place ++ [name]) = entries.lookup name := by
    rw [Entry.find?_append, found]
    simp only [Option.bind_some, Entry.find?]
    cases entries.lookup name <;> rfl
  rw [entry_eq_ok_iff, tree.start_joinPath path name (ne_empty_of_listing? listed),
    pathSteps_joinPath path usable, follow_append, followed]
  simp only [bind, Except.bind, follow, found, if_neg usable.not_itself, if_neg usable.not_parent,
    if_neg (Nat.not_lt.mpr usable.short)]
  apply and_congr_right
  intro _
  constructor
  · intro reached
    obtain ⟨other, stepped, found'⟩ := reached
    split at stepped
    · cases stepped
      exact inside.symm.trans found'
    · cases stepped
  · intro held
    refine ⟨place ++ [name], ?_, inside.trans held⟩
    rw [held]
    rfl

end FileTree

/-! ### The extension of a name -/

/-- Something stands before the last full stop of a name and the letters of `sql` behind it, each in
either case. -/
def HasSqlExtension (name : String) : Prop :=
  ∃ stem letters : List Char, stem ≠ [] ∧ name.toList = stem ++ '.' :: letters ∧
    letters.map Char.toLower = "sql".toList

theorem extension?_of_stop {name : String} {stem letters : List Char}
    (shape : name.toList = stem ++ '.' :: letters) (last : '.' ∉ letters) :
    extension? name = if stem = [] then none else some (String.ofList letters) := by
  have passed : ∀ c ∈ letters.reverse, decide (c ≠ '.') = true := by
    intro c member
    exact decide_eq_true fun same => last (same ▸ List.mem_reverse.mp member)
  have reversed : name.toList.reverse = letters.reverse ++ '.' :: stem.reverse := by
    rw [shape]
    simp
  have dropped : name.toList.reverse.dropWhile (· ≠ '.') = '.' :: stem.reverse := by
    rw [reversed, List.dropWhile_append_of_pos passed]
    exact List.dropWhile_cons_of_neg (by decide)
  have taken : name.toList.reverse.takeWhile (· ≠ '.') = letters.reverse := by
    rw [reversed, List.takeWhile_append_of_pos passed, List.takeWhile_cons_of_neg (by decide),
      List.append_nil]
  rw [extension?]
  simp only [dropped, taken, List.reverse_reverse]
  cases behind : stem.reverse with
  | nil => simp [List.reverse_eq_nil_iff.mp behind]
  | cons c rest =>
    have some : stem ≠ [] := by
      rintro rfl
      cases behind
    simp [some]

theorem extension?_eq_some_iff (name extension : String) :
    extension? name = some extension ↔ ∃ stem : List Char, stem ≠ [] ∧
      name.toList = stem ++ '.' :: extension.toList ∧ '.' ∉ extension.toList := by
  constructor
  · intro found
    by_cases stopped : '.' ∈ name.toList
    · obtain ⟨before, after, reversed, last⟩ :=
        List.eq_append_cons_of_mem (List.mem_reverse.mpr stopped)
      have shape : name.toList = after.reverse ++ '.' :: before.reverse := by
        rw [← List.reverse_reverse name.toList, reversed]
        simp
      have absent : '.' ∉ before.reverse := by simpa using last
      rw [extension?_of_stop shape absent] at found
      split at found
      next => cases found
      next some =>
        cases found
        rw [String.toList_ofList]
        exact ⟨after.reverse, some, shape, absent⟩
    · have passed : name.toList.reverse.dropWhile (· ≠ '.') = [] := by
        rw [List.dropWhile_eq_nil_iff]
        intro c member
        exact decide_eq_true fun same => stopped (same ▸ List.mem_reverse.mp member)
      rw [extension?] at found
      simp only [passed] at found
      cases found
  · intro split
    obtain ⟨stem, some, shape, last⟩ := split
    rw [extension?_of_stop shape last, if_neg some, String.ofList_toList]

theorem isSqlName_iff (name : String) : isSqlName name = true ↔ HasSqlExtension name := by
  have lowered : "sql".toList.map Char.toLower = "sql".toList := by decide
  rw [isSqlName]
  constructor
  · intro named
    split at named
    next extension found =>
      obtain ⟨stem, some, shape, -⟩ := (extension?_eq_some_iff name extension).mp found
      rw [Text.eqIgnoringAsciiCase, beq_iff_eq, lowered] at named
      exact ⟨stem, extension.toList, some, shape, named⟩
    next => cases named
  · intro named
    obtain ⟨stem, letters, some, shape, spelt⟩ := named
    have last : '.' ∉ letters := by
      intro member
      have point := List.mem_map_of_mem (f := Char.toLower) member
      rw [spelt] at point
      exact absurd point (by decide)
    have found : extension? name = Option.some (String.ofList letters) := by
      rw [extension?_eq_some_iff, String.toList_ofList]
      exact ⟨stem, some, shape, last⟩
    rw [found]
    simp only [Text.eqIgnoringAsciiCase, String.toList_ofList, spelt, lowered, BEq.rfl]

example : ¬HasSqlExtension ".sql" ∧ HasSqlExtension "a.b.sQl" := by
  simp only [← isSqlName_iff]
  decide

/-! ### Files in order -/

theorem mem_sqlFiles_iff (path : String) (entries : List (String × Entry)) (name : String)
    (content : Content) :
    (name, content) ∈ sqlFiles path entries ↔
      (name, .file content) ∈ entries ∧ HasSqlExtension name ∧
        pathFault? (joinPath path name) = none := by
  rw [sqlFiles, List.mem_mergeSort, List.mem_filterMap, ← isSqlName_iff]
  constructor
  · intro held
    obtain ⟨⟨other, entry⟩, member, taken⟩ := held
    cases entry with
    | directory entries fault => cases taken
    | broken cause => cases taken
    | file content =>
      rw [sqlFile?] at taken
      split at taken
      next sound =>
        cases taken
        exact ⟨member, sound⟩
      next => cases taken
  · intro held
    obtain ⟨member, sound⟩ := held
    exact ⟨_, member, if_pos sound⟩

/-- The names are in ascending order. -/
theorem pairwise_sqlFiles (path : String) (entries : List (String × Entry)) :
    (sqlFiles path entries).Pairwise fun left right => left.1 ≤ right.1 := by
  have sorted : (sqlFiles path entries).Pairwise fun left right => decide (left.1 ≤ right.1) := by
    apply List.pairwise_mergeSort
    · intro first second third
      simpa only [decide_eq_true_eq] using String.le_trans
    · intro first second
      simpa only [Bool.or_eq_true, decide_eq_true_eq] using String.le_total first.1 second.1
  simpa only [decide_eq_true_eq] using sorted

theorem fst_of_sqlFile? {path : String} {entry : String × Entry} {file : String × Content}
    (taken : sqlFile? path entry = some file) : file.1 = entry.1 := by
  obtain ⟨name, entry⟩ := entry
  cases entry with
  | directory entries fault => cases taken
  | broken cause => cases taken
  | file content =>
    rw [sqlFile?] at taken
    split at taken
    · cases taken
      rfl
    · cases taken

/-- Only one arrangement of the files of SQL has their names in strictly ascending order. -/
theorem sqlFiles_eq_of_ascending {path : String} {entries : List (String × Entry)}
    {files : List (String × Content)} (taken : files.Perm (entries.filterMap (sqlFile? path)))
    (ascending : files.Pairwise fun left right => left.1 < right.1) :
    sqlFiles path entries = files := by
  have permuted : (sqlFiles path entries).Perm files :=
    (List.mergeSort_perm _ _).trans taken.symm
  have distinct : (files.map (·.1)).Nodup :=
    List.pairwise_map.mpr (ascending.imp fun before => String.ne_of_lt before)
  have ordered : files.Pairwise fun left right => left.1 ≤ right.1 :=
    ascending.imp fun before => String.not_lt.mp (String.lt_asymm before)
  apply permuted.eq_of_pairwise _ (pairwise_sqlFiles path entries) ordered
  intro left right member memberOther before after
  exact List.inj_on_of_nodup_map distinct (permuted.mem_iff.mp member) memberOther
    (String.le_antisymm before after)

section Distinct

variable (path : String) {entries others : List (String × Entry)}

theorem nodup_sqlFiles (distinct : (entries.map (·.1)).Nodup) :
    ((sqlFiles path entries).map (·.1)).Nodup := by
  have unsorted : ((entries.filterMap (sqlFile? path)).map (·.1)).Nodup := by
    rw [List.Nodup, List.pairwise_map] at distinct ⊢
    apply distinct.filterMap (sqlFile? path)
    intro first second differ file taken other takenOther
    rw [fst_of_sqlFile? taken, fst_of_sqlFile? takenOther]
    exact differ
  exact ((List.mergeSort_perm _ _).map _).nodup_iff.mpr unsorted

theorem ascending_sqlFiles (distinct : (entries.map (·.1)).Nodup) :
    (sqlFiles path entries).Pairwise fun left right => left.1 < right.1 := by
  have differ := List.pairwise_map.mp (nodup_sqlFiles path distinct)
  apply (pairwise_sqlFiles path entries).imp₂ _ differ
  intro left right ordered apart
  rw [← String.not_le]
  exact fun reversed => apart (String.le_antisymm ordered reversed)

/-- Sorting leaves nothing of the order in which the entries came. -/
theorem sqlFiles_perm (distinct : (entries.map (·.1)).Nodup) (same : others.Perm entries) :
    sqlFiles path others = sqlFiles path entries :=
  sqlFiles_eq_of_ascending ((List.mergeSort_perm _ _).trans (same.filterMap _).symm)
    (ascending_sqlFiles path distinct)

end Distinct

/-- The paths of the files of SQL in the directory at a path. -/
def sqlPaths (path : String) (entries : List (String × Entry)) : List String :=
  (sqlFiles path entries).map fun file => joinPath path file.1

theorem joinPath_lt (path : String) {first second : String} (ordered : first < second) :
    joinPath path first < joinPath path second := by
  obtain ⟨front, joined, -⟩ := exists_joinPath path
  change (joinPath path first).toList < (joinPath path second).toList
  rw [joined, joined]
  exact List.append_left_lt (List.cons_lt_cons_self.mpr ordered)

theorem pathNames_joinPath_lt (path : String) {first second : String} (usable : UsableName first)
    (usableOther : UsableName second) (ordered : first < second) :
    pathNames (joinPath path first) < pathNames (joinPath path second) := by
  rw [pathNames_joinPath path usable, pathNames_joinPath path usableOther]
  exact List.append_left_lt (List.cons_lt_cons_iff.mpr (.inl ordered))

/-- Paths in ascending order, as texts and name by name. -/
def PathBefore (left right : String) : Prop := left < right ∧ pathNames left < pathNames right

theorem ascending_sqlPaths (path : String) {entries : List (String × Entry)}
    (proper : ProperListing entries) : (sqlPaths path entries).Pairwise PathBefore := by
  have usable (file : String × Content) (member : file ∈ sqlFiles path entries) :
      UsableName file.1 :=
    proper.usable _ ((mem_sqlFiles_iff path entries file.1 file.2).mp member).1
  rw [sqlPaths, List.pairwise_map]
  apply (ascending_sqlFiles path proper.distinct).imp_of_mem
  intro left right member memberOther ordered
  exact ⟨joinPath_lt path ordered,
    pathNames_joinPath_lt path (usable left member) (usable right memberOther) ordered⟩

section Listed

variable {tree : FileTree} {path : String} {entries : List (String × Entry)}

/-- A file of SQL in a directory is what its path leads to. -/
theorem entry_of_mem_sqlFiles (listed : tree.listing? path = some (.ok entries))
    (proper : ProperListing entries) {file : String × Content}
    (member : file ∈ sqlFiles path entries) :
    tree.entry (joinPath path file.1) = .ok (.file file.2) := by
  obtain ⟨present, -, sound⟩ := (mem_sqlFiles_iff path entries file.1 file.2).mp member
  have found := (lookup_eq_some_iff_mem proper.distinct file.1 _).mpr present
  exact (FileTree.entry_joinPath listed (proper.usable _ present) _).mpr ⟨sound, found⟩

/-- A path is among them just if it leads to a file and the name has the extension. -/
theorem mem_sqlPaths_iff (listed : tree.listing? path = some (.ok entries))
    (proper : ProperListing entries) (file : String) :
    file ∈ sqlPaths path entries ↔ ∃ name ∈ entries.map (·.1), file = joinPath path name ∧
      HasSqlExtension name ∧ ∃ content, tree.entry file = .ok (.file content) := by
  rw [sqlPaths, List.mem_map]
  constructor
  · intro held
    obtain ⟨⟨name, content⟩, member, rfl⟩ := held
    obtain ⟨present, named, -⟩ := (mem_sqlFiles_iff path entries name content).mp member
    exact ⟨name, List.mem_map_of_mem present, rfl, named, content,
      entry_of_mem_sqlFiles listed proper member⟩
  · intro held
    obtain ⟨name, member, rfl, named, content, leads⟩ := held
    obtain ⟨⟨_, entry⟩, present, rfl⟩ := List.mem_map.mp member
    obtain ⟨sound, found⟩ := (FileTree.entry_joinPath listed (proper.usable _ present) _).mp leads
    have held := (lookup_eq_some_iff_mem proper.distinct _ _).mp found
    exact ⟨(_, content), (mem_sqlFiles_iff path entries _ content).mpr ⟨held, named, sound⟩, rfl⟩

theorem readInput_of_listing (listed : tree.listing? path = some (.ok entries)) (stdin : Content) :
    readInput tree stdin [path] = readDirectory path entries := by
  have some : ¬[path].isEmpty = true := Bool.false_ne_true
  rw [readInput, if_neg some, List.mapM_cons, List.mapM_nil, readPath, listed]
  simp only
  cases readDirectory path entries with
  | error cause => rfl
  | ok sources => exact congrArg Except.ok (List.append_nil sources)

end Listed

/-- However a directory orders its entries, its files of SQL are the same: those that their paths
lead to and that have the extension, in strictly ascending order. What is read of the directory is
then the same too. -/
theorem sqlFiles_of_reordered (tree other : FileTree) (path : String)
    (entries reordered : List (String × Entry)) (listed : tree.listing? path = some (.ok entries))
    (proper : ProperListing entries) (listedOther : other.listing? path = some (.ok reordered))
    (same : reordered.Perm entries) :
    sqlFiles path reordered = sqlFiles path entries ∧
      (∀ file, file ∈ sqlPaths path reordered ↔ ∃ name ∈ entries.map (·.1),
        file = joinPath path name ∧ HasSqlExtension name ∧
          ∃ content, tree.entry file = .ok (.file content)) ∧
      (sqlPaths path reordered).Pairwise PathBefore ∧
      ∀ stdin, readInput other stdin [path] = readInput tree stdin [path] := by
  have files := sqlFiles_perm path proper.distinct same
  have paths : sqlPaths path reordered = sqlPaths path entries := by rw [sqlPaths, sqlPaths, files]
  refine ⟨files, ?_, ?_, ?_⟩
  · rw [paths]
    exact mem_sqlPaths_iff listed proper
  · rw [paths]
    exact ascending_sqlPaths path proper
  · intro stdin
    rw [readInput_of_listing listed, readInput_of_listing listedOther, readDirectory, readDirectory,
      files]

/-- Of a file in capitals, one in small letters, a directory with the extension and a name that is
the extension alone, the two files are taken. -/
theorem sqlFiles_of_reordered_mixed :
    let content : Content := .ok .empty
    let entries : List (String × Entry) :=
      [("b.sql", .file content), ("c.sql", .directory [] none), (".sql", .file content),
        ("a.SQL", .file content)]
    let tree : FileTree := ⟨.directory [("d", .directory entries none)] none, []⟩
    let other : FileTree := ⟨.directory [("d", .directory entries.reverse none)] none, []⟩
    tree.listing? "d/" = some (.ok entries) ∧ ProperListing entries ∧
      other.listing? "d/" = some (.ok entries.reverse) ∧ entries.reverse.Perm entries ∧
      sqlFiles "d/" entries.reverse = sqlFiles "d/" entries ∧
      sqlPaths "d/" entries.reverse = ["d/a.SQL", "d/b.sql"] ∧
      readInput other content ["d/"] = readInput tree content ["d/"] := by
  intro content entries tree other
  have listed : tree.listing? "d/" = some (.ok entries) :=
    FileTree.listing?_of_follow ["d"] (by decide +kernel) (by decide +kernel) rfl
  have listedOther : other.listing? "d/" = some (.ok entries.reverse) :=
    FileTree.listing?_of_follow ["d"] (by decide +kernel) (by decide +kernel) rfl
  have proper : ProperListing entries := by decide
  have same : entries.reverse.Perm entries := List.reverse_perm entries
  obtain ⟨files, -, -, read⟩ :=
    sqlFiles_of_reordered tree other "d/" entries entries.reverse listed proper listedOther same
  have taken : entries.reverse.filterMap (sqlFile? "d/") =
      [("a.SQL", content), ("b.sql", content)] := by decide +kernel
  have sorted : sqlFiles "d/" entries.reverse = [("a.SQL", content), ("b.sql", content)] :=
    sqlFiles_eq_of_ascending (.of_eq taken.symm) (by decide +kernel)
  have paths : sqlPaths "d/" entries.reverse = ["d/a.SQL", "d/b.sql"] := by
    rw [sqlPaths, sorted]
    decide +kernel
  exact ⟨listed, proper, listedOther, same, files, paths, read content⟩

end QueryLint.Cli
