import ArchAudit.Proofs.ScanReports

/-!
# The scripts of a directory

A search collects the build scripts below a directory that are neither ignored nor hidden behind a
directory that is left out.  Each is collected once, in the order of the paths name by name.  The
order in which directories list their entries has no part in the result, since it changes nothing at
any place of the tree.
-/

namespace ArchAudit

/-! ## Paths in ascending order -/

namespace Path

theorem compareNames_eq_lt_iff {first second : List Char} :
    compareNames first second = .lt ↔ first < second := by
  induction first generalizing second with
  | nil =>
      cases second with
      | nil => simp [compareNames]
      | cons b bs => simp [compareNames]
  | cons a as inductionHypothesis =>
      cases second with
      | nil => simp [compareNames]
      | cons b bs =>
          rw [compareNames_cons_eq_lt_iff, List.cons_lt_cons_iff, inductionHypothesis,
            Char.toNat_inj]
          rfl

/-- One of two different paths stands before the other if its first different name does. -/
theorem lt_of_le
    {first second : List String}
    (ordered : le first second = true)
    (different : first ≠ second) :
    first < second := by
  induction first generalizing second with
  | nil =>
      cases second with
      | nil => exact (different rfl).elim
      | cons b bs => exact List.nil_lt_cons b bs
  | cons a as inductionHypothesis =>
      cases second with
      | nil => simp [le] at ordered
      | cons b bs =>
          rw [le] at ordered
          rw [List.cons_lt_cons_iff]
          cases order : compareNames a.toList b.toList with
          | lt => exact .inl (String.lt_iff.mpr (compareNames_eq_lt_iff.mp order))
          | gt => simp [order] at ordered
          | eq =>
              have same : a = b := String.toList_inj.mp (compareNames_eq_iff.mp order)
              subst same
              simp only [order] at ordered
              exact .inr ⟨rfl, inductionHypothesis ordered fun sameRest =>
                different (congrArg (a :: ·) sameRest)⟩

theorem below_injective
    {path : String} {first second : List String}
    (firstNonempty : first ≠ [])
    (secondNonempty : second ≠ [])
    (firstNamed : ∀ name ∈ first, Directory.IsEntryName name)
    (secondNamed : ∀ name ∈ second, Directory.IsEntryName name)
    (same : below path first = below path second) :
    first = second := by
  have sameNames : ofNames first = ofNames second := by
    unfold below at same
    split at same
    · exact (String.append_right_inj _).mp same
    · exact (String.append_right_inj _).mp same
  rw [← pieces_ofNames firstNonempty fun name member => (firstNamed name member).2, sameNames,
    pieces_ofNames secondNonempty fun name member => (secondNamed name member).2]

end Path

/-! ## The order of entries -/

namespace Directory

/-- A directory with one more entry in front. -/
def withEntry (name : String) (held : Entry) (others : Directory) : Directory :=
  match held with
  | .file content => file name content others
  | .folder entries => folder name entries others

/-- Directories that hold the same and list it in different orders, on any level. -/
inductive Reordered : Directory → Directory → Prop
  | empty :
      Reordered empty empty
  | file (name : String) (content : Source) {others reordered : Directory} :
      Reordered others reordered →
      Reordered (file name content others) (file name content reordered)
  | folder (name : String) {entries reorderedEntries others reordered : Directory} :
      Reordered entries reorderedEntries →
      Reordered others reordered →
      Reordered (folder name entries others) (folder name reorderedEntries reordered)
  | swap (first second : String) (firstHeld secondHeld : Entry) (others : Directory) :
      Reordered
        (withEntry first firstHeld (withEntry second secondHeld others))
        (withEntry second secondHeld (withEntry first firstHeld others))
  | trans {first second third : Directory} :
      Reordered first second →
      Reordered second third →
      Reordered first third

theorem entry?_withEntry (name : String) (held : Entry) (others : Directory) (wanted : String) :
    entry? (withEntry name held others) wanted =
      if name = wanted then some held else others.entry? wanted := by
  cases held <;> rfl

theorem wellFormed_withEntry_iff {name : String} {held : Entry} {others : Directory} :
    (withEntry name held others).WellFormed ↔
      IsEntryName name ∧ others.entry? name = none ∧
        (∀ entries, held = .folder entries → entries.WellFormed) ∧ others.WellFormed := by
  cases held with
  | file content => simp [withEntry, WellFormed]
  | folder entries => simp [withEntry, WellFormed]

theorem entry?_eq_none_iff {directory : Directory} {name : String} :
    directory.entry? name = none ↔ directory.occupant [name] = .nothing := by
  rw [occupant, at?_singleton]
  cases directory.entry? name with
  | none => simp [Occupant.ofFound]
  | some held => cases held <;> simp [Occupant.ofFound]

/-- Whether two directories hold the same at every place. -/
def SamePlaces (first second : Directory) : Prop :=
  ∀ names, first.occupant names = second.occupant names

theorem SamePlaces.entry?_eq_none
    {first second : Directory} {name : String}
    (same : SamePlaces first second)
    (absent : first.entry? name = none) :
    second.entry? name = none := by
  rw [entry?_eq_none_iff, ← same [name]]
  exact entry?_eq_none_iff.mp absent

/-- What stands in front of the same entries can be the same file. -/
theorem SamePlaces.file
    {others reordered : Directory}
    (same : SamePlaces others reordered)
    (name : String) (content : Source) :
    SamePlaces (file name content others) (file name content reordered) := by
  intro names
  cases names with
  | nil => simp
  | cons first rest =>
      by_cases isHere : name = first
      · have found (behind : Directory) :
            entry? (Directory.file name content behind) first = some (.file content) :=
          if_pos isHere
        rw [occupant_cons_of_file (found others), occupant_cons_of_file (found reordered)]
      · have passed (behind : Directory) :
            entry? (Directory.file name content behind) first = behind.entry? first :=
          if_neg isHere
        rw [occupant_cons_of_entry?_eq (passed others),
          occupant_cons_of_entry?_eq (passed reordered)]
        exact same (first :: rest)

/-- What stands in front of the same entries can be directories that hold the same. -/
theorem SamePlaces.folder
    {entries reorderedEntries others reordered : Directory}
    (sameEntries : SamePlaces entries reorderedEntries)
    (same : SamePlaces others reordered)
    (name : String) :
    SamePlaces (folder name entries others) (folder name reorderedEntries reordered) := by
  intro names
  cases names with
  | nil => simp
  | cons first rest =>
      by_cases isHere : name = first
      · have found (held behind : Directory) :
            entry? (Directory.folder name held behind) first = some (.folder held) :=
          if_pos isHere
        rw [occupant_cons_of_folder (found entries others),
          occupant_cons_of_folder (found reorderedEntries reordered)]
        exact sameEntries rest
      · have passed (held behind : Directory) :
            entry? (Directory.folder name held behind) first = behind.entry? first :=
          if_neg isHere
        rw [occupant_cons_of_entry?_eq (passed entries others),
          occupant_cons_of_entry?_eq (passed reorderedEntries reordered)]
        exact same (first :: rest)

/-- The order of entries changes nothing at any place. -/
theorem Reordered.samePlaces
    {first second : Directory}
    (reordered : Reordered first second)
    (wellFormed : first.WellFormed) :
    second.WellFormed ∧ SamePlaces first second := by
  induction reordered with
  | empty => exact ⟨wellFormed, fun _ => rfl⟩
  | file name content _ inductionHypothesis =>
      obtain ⟨named, absent, othersWellFormed⟩ := wellFormed
      obtain ⟨reorderedWellFormed, same⟩ := inductionHypothesis othersWellFormed
      exact ⟨⟨named, same.entry?_eq_none absent, reorderedWellFormed⟩, same.file name content⟩
  | folder name _ _ entriesHypothesis othersHypothesis =>
      obtain ⟨named, absent, entriesWellFormed, othersWellFormed⟩ := wellFormed
      obtain ⟨reorderedEntriesWellFormed, sameEntries⟩ := entriesHypothesis entriesWellFormed
      obtain ⟨reorderedWellFormed, same⟩ := othersHypothesis othersWellFormed
      exact ⟨⟨named, same.entry?_eq_none absent, reorderedEntriesWellFormed, reorderedWellFormed⟩,
        sameEntries.folder same name⟩
  | swap first second firstHeld secondHeld others =>
      obtain ⟨firstNamed, firstAbsent, firstBelow, behindFirst⟩ :=
        wellFormed_withEntry_iff.mp wellFormed
      obtain ⟨secondNamed, secondAbsent, secondBelow, othersWellFormed⟩ :=
        wellFormed_withEntry_iff.mp behindFirst
      -- two entries of one directory have different names, so either may be met first
      have different : second ≠ first := by
        rintro rfl
        rw [entry?_withEntry, if_pos rfl] at firstAbsent
        cases firstAbsent
      rw [entry?_withEntry, if_neg different] at firstAbsent
      constructor
      · rw [wellFormed_withEntry_iff, wellFormed_withEntry_iff, entry?_withEntry,
          if_neg different.symm]
        exact ⟨secondNamed, secondAbsent, secondBelow, firstNamed, firstAbsent, firstBelow,
          othersWellFormed⟩
      · intro names
        cases names with
        | nil => simp
        | cons name rest =>
            apply occupant_cons_of_entry?_eq
            simp only [entry?_withEntry]
            by_cases isFirst : first = name
            · subst isFirst
              simp [different]
            · simp [isFirst]
  | trans _ _ firstHypothesis secondHypothesis =>
      obtain ⟨secondWellFormed, firstSame⟩ := firstHypothesis wellFormed
      obtain ⟨thirdWellFormed, secondSame⟩ := secondHypothesis secondWellFormed
      exact ⟨thirdWellFormed, fun names => (firstSame names).trans (secondSame names)⟩

theorem collect_of_reordered
    {first second : Directory}
    (wellFormed : first.WellFormed)
    (reordered : Reordered first second)
    (wanted : String → Bool) (recursive : Bool) (ignored : String → Bool) :
    collect wanted recursive ignored second = collect wanted recursive ignored first := by
  obtain ⟨secondWellFormed, same⟩ := reordered.samePlaces wellFormed
  have differ : DifferOnlyAt (fun _ => False) first second := fun names => .inl (same names)
  have kept :
      (collect wanted recursive ignored first).filter (fun _ => true) =
        (collect wanted recursive ignored second).filter (fun _ => true) :=
    filter_collect_of_differ wanted recursive ignored wellFormed secondWellFormed differ
      (fun _ => not_false) (fun _ _ => not_false)
  simpa using kept.symm

end Directory

/-! ## The collected scripts -/

namespace Run

/-- The names of the scripts below a directory that no test of a path tells to ignore. -/
def searchScripts
    (table : Table)
    (recursive : Bool)
    (ignores : List (String → Bool))
    (directory : Directory) :
    List (List String) :=
  directory.collect (fun name => (Scanner.find? table name).isSome) recursive
    fun relative => ignores.any fun ignore => ignore relative

/-- A script that a search below a directory has to find. -/
structure IsScript
    (recursive : Bool)
    (ignores : List (String → Bool))
    (directory : Directory)
    (names : List String) :
    Prop where
  isFile : ∃ content, directory.occupant names = .file content
  named : names.getLast? = some "CMakeLists.txt"
  reached :
    ∀ front, front ≠ [] → front <+: names → front ≠ names →
      front.getLast? ≠ some ".git" ∧
        ∀ content, directory.occupant (front ++ ["CMakeCache.txt"]) ≠ .file content
  kept : ∀ ignore ∈ ignores, ignore (Path.ofNames names) = false
  near : recursive = true ∨ names.length = 1

section Search

variable {directory : Directory} (wellFormed : directory.WellFormed)
variable (table : Table) (recursive : Bool) (ignores : List (String → Bool))

include wellFormed

theorem mem_searchScripts_iff (names : List String) :
    names ∈ searchScripts table recursive ignores directory ↔
      IsScript recursive ignores directory names := by
  have hidden (front : List String) :
      ¬ directory.IsHidden front ↔
        front.getLast? ≠ some ".git" ∧
          ∀ content, directory.occupant (front ++ ["CMakeCache.txt"]) ≠ .file content := by
    rw [Directory.IsHidden, not_or, not_exists]
    rfl
  rw [searchScripts, Directory.mem_collect_iff _ _ _ wellFormed, List.any_eq_false]
  constructor
  · rintro ⟨⟨isFile, ⟨last, isLast, accepted⟩, reached, near⟩, kept⟩
    have lastNamed : Directory.IsEntryName last := by
      obtain ⟨content, present⟩ := isFile
      exact wellFormed.named (by rw [present]; simp) last (List.mem_of_getLast? isLast)
    rw [isSome_find?_iff, fileName?_of_isEntryName lastNamed] at accepted
    cases accepted
    refine ⟨isFile, isLast, ?_, fun ignore member => by simpa using kept ignore member, near⟩
    intro front nonempty isFront notAll
    exact (hidden front).mp (reached front nonempty isFront notAll)
  · rintro ⟨isFile, named, reached, kept, near⟩
    refine ⟨⟨isFile, ⟨_, named, ?_⟩, ?_, near⟩, fun ignore member => by simp [kept ignore member]⟩
    · rw [isSome_find?_iff]
      rfl
    · intro front nonempty isFront notAll
      exact (hidden front).mpr (reached front nonempty isFront notAll)

theorem pairwise_searchScripts :
    (searchScripts table recursive ignores directory).Pairwise (· < ·) := by
  have sorted := Directory.sorted_collect (fun name => (Scanner.find? table name).isSome) recursive
    (fun relative => ignores.any fun ignore => ignore relative) directory
  have distinct := Directory.nodup_collect (fun name => (Scanner.find? table name).isSome) recursive
    (fun relative => ignores.any fun ignore => ignore relative) wellFormed
  exact (sorted.and distinct).imp fun ordered => Path.lt_of_le ordered.1 ordered.2

/-- Different scripts are reached by different paths. -/
theorem nodup_map_below (path : String) :
    ((searchScripts table recursive ignores directory).map (Path.below path)).Nodup := by
  have distinct : (searchScripts table recursive ignores directory).Nodup :=
    Directory.nodup_collect _ _ _ wellFormed
  have named :
      ∀ names ∈ searchScripts table recursive ignores directory,
        names ≠ [] ∧ ∀ name ∈ names, Directory.IsEntryName name := by
    intro names member
    obtain ⟨⟨content, present⟩, isLast, _⟩ :=
      (mem_searchScripts_iff wellFormed table recursive ignores names).mp member
    constructor
    · rintro rfl
      cases isLast
    · exact wellFormed.named (by rw [present]; simp)
  apply distinct.map_on
  intro first firstMember second secondMember same
  obtain ⟨firstNonempty, firstNamed⟩ := named first firstMember
  obtain ⟨secondNonempty, secondNamed⟩ := named second secondMember
  exact Path.below_injective firstNonempty secondNonempty firstNamed secondNamed same

end Search

theorem collectScripts_of_directory?
    {system : FileSystem} {path : String} {directory : Directory}
    (entered : system.directory? path = some directory)
    (table : Table) (recursive : Bool) (globs : List Glob) :
    collectScripts table system path recursive globs =
      ((searchScripts table recursive (globs.map Glob.isMatch) directory).map (scriptBelow path),
        []) := by
  have notFile : system.isFile path = false := by
    unfold FileSystem.directory? at entered
    unfold FileSystem.isFile
    split at entered
    · next found => rw [found]
    · cases entered
  simp only [collectScripts, notFile, entered, searchScripts, List.any_map]
  rfl

/-- The search below a directory finds the scripts that it has to find and nothing else, each once
and in ascending order, whatever the order of the entries.  For a path that leads to the directory
these are the scripts that are scanned, under different paths. -/
theorem scripts_collected_exactly
    {directory : Directory}
    (wellFormed : directory.WellFormed)
    (table : Table) (recursive : Bool) (ignores : List (String → Bool)) :
    (∀ names,
      names ∈ searchScripts table recursive ignores directory ↔
        IsScript recursive ignores directory names) ∧
      (searchScripts table recursive ignores directory).Nodup ∧
      (searchScripts table recursive ignores directory).Pairwise (· < ·) ∧
      (∀ other, Directory.Reordered directory other →
        searchScripts table recursive ignores other =
          searchScripts table recursive ignores directory) ∧
      ∀ system path globs,
        FileSystem.directory? system path = some directory →
          globs.map Glob.isMatch = ignores →
            collectScripts table system path recursive globs =
                ((searchScripts table recursive ignores directory).map (scriptBelow path), []) ∧
              ((collectScripts table system path recursive globs).1.map Script.path).Nodup := by
  refine ⟨mem_searchScripts_iff wellFormed table recursive ignores,
    Directory.nodup_collect _ _ _ wellFormed,
    pairwise_searchScripts wellFormed table recursive ignores, ?_, ?_⟩
  · intro other reordered
    exact Directory.collect_of_reordered wellFormed reordered _ _ _
  · rintro system path globs entered rfl
    have collected := collectScripts_of_directory? entered table recursive globs
    refine ⟨collected, ?_⟩
    rw [collected, List.map_map]
    exact nodup_map_below wellFormed table recursive (globs.map Glob.isMatch) path

/-- A directory with the name of a script, a build tree, version-control data, a directory with the
name of the cache file, and two directories whose order is not that of the joined paths. -/
def tangledEntries : Directory :=
  .folder "CMakeLists.txt" (.file "CMakeLists.txt" (.ofText "") .empty)
    (.folder "build"
      (.file "CMakeLists.txt" (.ofText "") (.file "CMakeCache.txt" (.ofText "") .empty))
      (.folder ".git" (.file "CMakeLists.txt" (.ofText "") .empty)
        (.folder "out"
          (.file "CMakeLists.txt" (.ofText "") (.folder "CMakeCache.txt" .empty .empty))
          .empty)))

def tangledTree : Directory :=
  .folder "a-b" (.file "CMakeLists.txt" (.ofText "") .empty)
    (.folder "a" (.file "CMakeLists.txt" (.ofText "") .empty) tangledEntries)

def swappedTree : Directory :=
  .folder "a" (.file "CMakeLists.txt" (.ofText "") .empty)
    (.folder "a-b" (.file "CMakeLists.txt" (.ofText "") .empty) tangledEntries)

/-- One pattern, which stands for one path. -/
def outGlob : Glob :=
  "out/CMakeLists.txt".toList.map .literal

/-- Four scripts of the tangled tree are to be found, one of them is ignored, and two are hidden. -/
theorem scripts_collected_exactly_tangled :
    tangledTree.WellFormed ∧
      searchScripts Scan.sampleTable true [outGlob.isMatch] tangledTree =
        [["CMakeLists.txt", "CMakeLists.txt"], ["a", "CMakeLists.txt"], ["a-b", "CMakeLists.txt"]] ∧
      IsScript true [outGlob.isMatch] tangledTree ["a", "CMakeLists.txt"] ∧
      ¬ IsScript true [outGlob.isMatch] tangledTree ["build", "CMakeLists.txt"] ∧
      searchScripts Scan.sampleTable true [outGlob.isMatch] swappedTree =
        searchScripts Scan.sampleTable true [outGlob.isMatch] tangledTree ∧
      collectScripts Scan.sampleTable ⟨.folder "w" tangledTree .empty, ["w"]⟩ "." true [outGlob] =
        ([⟨"./CMakeLists.txt/CMakeLists.txt", "CMakeLists.txt/CMakeLists.txt"⟩,
          ⟨"./a/CMakeLists.txt", "a/CMakeLists.txt"⟩,
          ⟨"./a-b/CMakeLists.txt", "a-b/CMakeLists.txt"⟩], []) := by
  have wellFormed : tangledTree.WellFormed := by decide
  obtain ⟨mem_iff, once, _, anyOrder, scanned⟩ :=
    scripts_collected_exactly wellFormed Scan.sampleTable true [outGlob.isMatch]
  have wanted :
      (tangledTree.wantedFiles
          (fun name => (Scanner.find? Scan.sampleTable name).isSome) true).filter
          (fun names => !List.any [outGlob.isMatch] fun ignore => ignore (Path.ofNames names)) =
        [["a-b", "CMakeLists.txt"], ["a", "CMakeLists.txt"],
          ["CMakeLists.txt", "CMakeLists.txt"]] := by
    decide +kernel
  have found :
      searchScripts Scan.sampleTable true [outGlob.isMatch] tangledTree =
        [["CMakeLists.txt", "CMakeLists.txt"], ["a", "CMakeLists.txt"],
          ["a-b", "CMakeLists.txt"]] := by
    have sorted := Directory.sorted_collect
      (fun name => (Scanner.find? Scan.sampleTable name).isSome) true
      (fun relative => List.any [outGlob.isMatch] fun ignore => ignore relative) tangledTree
    apply Path.eq_of_sorted_of_mem_iff sorted (by decide) once (by decide)
    intro names
    rw [Directory.collect, List.mem_mergeSort, wanted]
    exact List.mem_reverse.symm
  refine ⟨wellFormed, found, (mem_iff _).mp ?_, ?_, anyOrder swappedTree ?_, ?_⟩
  · simp [found]
  · intro isScript
    have member := (mem_iff _).mpr isScript
    simp [found] at member
  · exact .swap "a-b" "a" (.folder _) (.folder _) tangledEntries
  · rw [(scanned ⟨.folder "w" tangledTree .empty, ["w"]⟩ "." [outGlob] rfl rfl).1, found]
    decide +kernel

end Run

end ArchAudit
