import ArchAudit.Proofs.ScanReports

/-!
# Files do not influence each other

Two trees that differ in one file below the scanned directory are scanned with the same table, and
all other files are collected in the same order and read with the same result.  So the two reports
differ in the findings of that file only, and not at all if it is no script.
-/

namespace ArchAudit.Run

/-- The part of one item can be left out before members are chosen, if none of it is chosen. -/
theorem filter_flatMap_of_dropped
    {α β : Type} [DecidableEq α] {dropped : α} {part : α → List β} {keeps : β → Bool}
    (noneKept : ∀ member ∈ part dropped, keeps member = false)
    (items : List α) :
    (items.flatMap part).filter keeps =
      ((items.filter fun item => item ≠ dropped).flatMap part).filter keeps := by
  induction items with
  | nil => rfl
  | cons item others inductionHypothesis =>
      rw [List.flatMap_cons, List.filter_append, inductionHypothesis, List.filter_cons]
      by_cases same : item = dropped
      · subst same
        have nothingKept : (part item).filter keeps = [] := by
          rw [List.filter_eq_nil_iff]
          intro member isMember
          simp [noneKept member isMember]
        simp [nothingKept]
      · simp [same]

/-- Two trees that differ at one place below a directory.  A path leads to that directory in both, and
no build tree is marked or unmarked at the place. -/
structure DifferBelow
    (path : String)
    (base place : List String)
    (first second : FileSystem)
    (firstDirectory secondDirectory : Directory) :
    Prop where
  pathNonempty : path ≠ ""
  firstWellFormed : first.root.WellFormed
  secondWellFormed : second.root.WellFormed
  differ : FileSystem.DifferOnlyAt (· = base ++ place) first second
  firstResolved : first.resolve path = .ok base
  secondResolved : second.resolve path = .ok base
  firstEntered : first.root.at? base = some (.folder firstDirectory)
  secondEntered : second.root.at? base = some (.folder secondDirectory)
  notCache : place.getLast? ≠ some Directory.cacheName

namespace DifferBelow

section Scripts

variable {path : String} {base place : List String} {first second : FileSystem}
variable {firstDirectory secondDirectory : Directory}
variable (trees : DifferBelow path base place first second firstDirectory secondDirectory)

include trees

/-- In a script elsewhere the same is found in both trees. -/
theorem found_eq
    {names : List String}
    (nonempty : names ≠ [])
    (named : ∀ name ∈ names, Directory.IsEntryName name)
    (elsewhere : names ≠ place)
    (table : Table) :
    found table first (scriptBelow path names) = found table second (scriptBelow path names) := by
  apply found_of_read_eq
  apply FileSystem.read_of_avoids trees.differ
  intro last resolvedBelow atPlace
  have isBelow : last = base ++ names := by
    rcases resolvedBelow with inFirst | inSecond
    · exact FileSystem.resolve_below trees.pathNonempty trees.firstResolved nonempty named inFirst
    · exact FileSystem.resolve_below trees.pathNonempty trees.secondResolved nonempty named inSecond
  rw [isBelow] at atPlace
  exact elsewhere (List.append_cancel_left atPlace)

/-- The scripts elsewhere are the same, in the same order. -/
theorem filter_scriptNames_eq (table : Table) (recursive : Bool) (globs : List Glob) :
    (scriptNames table recursive globs firstDirectory).filter (fun names => names ≠ place) =
      (scriptNames table recursive globs secondDirectory).filter fun names => names ≠ place := by
  apply Directory.filter_collect_of_differ _ _ _
    (trees.firstWellFormed.at? trees.firstEntered)
    (trees.secondWellFormed.at? trees.secondEntered)
    (trees.differ.root.below trees.firstEntered trees.secondEntered)
  · intro front atPlace
    apply trees.notCache
    rw [← List.append_cancel_left atPlace, List.getLast?_concat]
  · intro names kept atPlace
    have elsewhere : names ≠ place := of_decide_eq_true kept
    exact elsewhere (List.append_cancel_left atPlace)

theorem flatMap_found_eq (table : Table) (recursive : Bool) (globs : List Glob) :
    ((scriptNames table recursive globs firstDirectory).filter
        (fun names => names ≠ place)).flatMap
      (fun names => found table first (scriptBelow path names)) =
    ((scriptNames table recursive globs secondDirectory).filter
        (fun names => names ≠ place)).flatMap
      (fun names => found table second (scriptBelow path names)) := by
  rw [← trees.filter_scriptNames_eq]
  apply List.flatMap_congr
  intro names member
  obtain ⟨isScript, isElsewhere⟩ := List.mem_filter.mp member
  obtain ⟨named, isLast⟩ :=
    isEntryName_of_mem_scriptNames (trees.firstWellFormed.at? trees.firstEntered) isScript
  have nonempty : names ≠ [] := by
    rintro rfl
    cases isLast
  exact trees.found_eq nonempty named (of_decide_eq_true isElsewhere) table

end Scripts

section Audits

variable {options : ScanOptions} {base place : List String} {first second : FileSystem}
variable {firstDirectory secondDirectory : Directory}
variable (trees :
  DifferBelow options.path base place first second firstDirectory secondDirectory)

include trees

theorem filter_audit_findings_eq
    {vocabulary : Vocabulary} {table : Table}
    (compiled : Table.compile vocabulary = .ok table)
    (globs : List Glob) (environment later : Environment) :
    (audit environment first options table globs).1.findings.filter
        (fun finding => finding.filePath ≠ Path.ofNames place) =
      (audit later second options table globs).1.findings.filter
        (fun finding => finding.filePath ≠ Path.ofNames place) := by
  -- all findings of the script at the place carry its path, so they are left out
  have leftOut (system : FileSystem) (scripts : List (List String)) :
      (scripts.flatMap fun names => found table system (scriptBelow options.path names)).filter
          (fun finding => finding.filePath ≠ Path.ofNames place) =
        ((scripts.filter fun names => names ≠ place).flatMap fun names =>
          found table system (scriptBelow options.path names)).filter
            (fun finding => finding.filePath ≠ Path.ofNames place) := by
    apply filter_flatMap_of_dropped
    intro finding member
    rw [filePath_of_mem_found compiled member]
    simp [scriptBelow]
  rw [audit_findings trees.firstResolved trees.firstEntered,
    audit_findings trees.secondResolved trees.secondEntered,
    FindingFilter.select, FindingFilter.select, List.filter_comm,
    List.filter_comm _ (filterOf options).wants, leftOut first, leftOut second,
    trees.flatMap_found_eq]

/-- A file that is no script is not collected in either tree. -/
theorem audit_eq_of_not_script
    (notScript : place.getLast? ≠ some Scanner.scriptName)
    (table : Table) (globs : List Glob) (environment later : Environment) :
    (audit environment first options table globs).1.findings =
        (audit later second options table globs).1.findings ∧
      (audit environment first options table globs).1.metadata.filesScanned =
        (audit later second options table globs).1.metadata.filesScanned := by
  have allElsewhere {directory : Directory} (wellFormed : directory.WellFormed) :
      (scriptNames table (!options.noRecursive) globs directory).filter
          (fun names => names ≠ place) =
        scriptNames table (!options.noRecursive) globs directory := by
    rw [List.filter_eq_self]
    intro names member
    have isLast := (isEntryName_of_mem_scriptNames wellFormed member).2
    apply decide_eq_true
    rintro rfl
    exact notScript isLast
  have firstAll := allElsewhere (trees.firstWellFormed.at? trees.firstEntered)
  have secondAll := allElsewhere (trees.secondWellFormed.at? trees.secondEntered)
  have sameNames := trees.filter_scriptNames_eq table (!options.noRecursive) globs
  have sameFound := trees.flatMap_found_eq table (!options.noRecursive) globs
  rw [firstAll, secondAll] at sameNames sameFound
  constructor
  · rw [audit_findings trees.firstResolved trees.firstEntered,
      audit_findings trees.secondResolved trees.secondEntered, sameFound]
  · rw [audit_filesScanned trees.firstResolved trees.firstEntered,
      audit_filesScanned trees.secondResolved trees.secondEntered, sameNames]

end Audits

end DifferBelow

/-- Two trees differ in one file below the scanned directory that is neither the mark of a build
tree nor the vocabulary: it was added, removed or rewritten.  Then a report is delivered on both or
on neither; the findings outside that file are the same, one by one; and if the file is no script,
all findings and the number of scanned files are the same. -/
theorem files_independent
    {arguments : List String} {options : ScanOptions}
    (parsed : Arguments.parse arguments = .ok (.scan options))
    {first second : FileSystem}
    (firstWellFormed : first.root.WellFormed)
    (secondWellFormed : second.root.WellFormed)
    {base place : List String}
    (resolved : first.resolve options.path = .ok base)
    (isFolder : first.root.occupant base = .folder)
    (differ : FileSystem.DifferOnlyAt (· = base ++ place) first second)
    (notCache : place.getLast? ≠ some Directory.cacheName)
    (notVocabulary : ∀ path, options.vocabulary = some path →
      FileSystem.Avoids (· = base ++ place) first second path)
    (environment later : Environment) :
    ((∃ made, Delivers environment first arguments made) ↔
        ∃ remade, Delivers later second arguments remade) ∧
      ∀ made remade,
        Delivers environment first arguments made →
        Delivers later second arguments remade →
          made.findings.filter (fun finding => finding.filePath ≠ Path.ofNames place) =
              remade.findings.filter (fun finding => finding.filePath ≠ Path.ofNames place) ∧
            (place.getLast? ≠ some Scanner.scriptName →
              made.findings = remade.findings ∧
                made.metadata.filesScanned = remade.metadata.filesScanned) := by
  have folderThere := differ.root.folder isFolder
  have resolvedThere := FileSystem.resolve_of_differ differ resolved
    (isFolder.trans folderThere.symm)
  obtain ⟨firstDirectory, firstEntered⟩ := Directory.occupant_eq_folder_iff.mp isFolder
  obtain ⟨secondDirectory, secondEntered⟩ := Directory.occupant_eq_folder_iff.mp folderThere
  have trees : DifferBelow options.path base place first second firstDirectory secondDirectory :=
    ⟨Arguments.path_nonempty_of_parse parsed, firstWellFormed, secondWellFormed, differ, resolved,
      resolvedThere, firstEntered, secondEntered, notCache⟩
  simp only [delivers_iff parsed]
  refine ⟨⟨?_, ?_⟩, ?_⟩
  · rintro ⟨made, reported⟩
    obtain ⟨_, table, globs, _, _, reportedThere⟩ :=
      reports_of_avoids differ notVocabulary reported
    exact ⟨_, reportedThere later⟩
  · rintro ⟨remade, reported⟩
    obtain ⟨_, table, globs, _, _, reportedThere⟩ :=
      reports_of_avoids differ.symm (fun path named => (notVocabulary path named).symm) reported
    exact ⟨_, reportedThere environment⟩
  · intro made remade reported reportedLater
    obtain ⟨vocabulary, table, globs, compiled, rfl, reportedThere⟩ :=
      reports_of_avoids differ notVocabulary reported
    rw [reportedThere later] at reportedLater
    cases reportedLater
    constructor
    · exact trees.filter_audit_findings_eq compiled globs environment later
    · intro notScript
      exact trees.audit_eq_of_not_script notScript table globs environment later

/-- A script loses its only finding, and the finding of the other script stays. -/
theorem files_independent_sample :
    ∃ made remade,
      Delivers ⟨false, none, "0"⟩ (sampleTree "find_package(MKL)\n")
          ["scan", ".", "--vocabulary", "/words.json"] made ∧
        Delivers ⟨false, none, "1"⟩ (sampleTree "") ["scan", ".", "--vocabulary", "/words.json"]
          remade ∧
        made.findings.map Finding.id = ["A001-CMakeLists.txt:2", "A001-lib/CMakeLists.txt:2"] ∧
        (remade.findings.filter fun finding =>
          finding.filePath ≠ Path.ofNames ["lib", "CMakeLists.txt"]).map Finding.id =
            ["A001-CMakeLists.txt:2"] := by
  have parsed :
      Arguments.parse ["scan", ".", "--vocabulary", "/words.json"] =
        .ok (.scan (sampleOptions .terminal none)) := by
    decide +kernel
  have differ :
      FileSystem.DifferOnlyAt (· = ["work"] ++ ["lib", "CMakeLists.txt"])
        (sampleTree "find_package(MKL)\n") (sampleTree "") := by
    have isFolder : (sampleTree "find_package(MKL)\n").root.occupant ["work", "lib"] = .folder :=
      rfl
    exact FileSystem.differOnlyAt_withFile isFolder Occupant.noConfusion (.ofText "")
  have notVocabulary :
      ∀ path, (sampleOptions .terminal none).vocabulary = some path →
        FileSystem.Avoids (· = ["work"] ++ ["lib", "CMakeLists.txt"])
          (sampleTree "find_package(MKL)\n") (sampleTree "") path := by
    rintro path ⟨⟩
    exact FileSystem.avoids_of_resolve (resolve_words_sampleTree _) (resolve_words_sampleTree _)
      (by simp)
  have delivered := (delivers_iff parsed).mpr
    (report_sampleTree ⟨false, none, "0"⟩ "find_package(MKL)\n" .terminal none)
  have deliveredLater := (delivers_iff parsed).mpr
    (report_sampleTree ⟨false, none, "1"⟩ "" .terminal none)
  have independent :=
    files_independent parsed (by decide +kernel) (by decide +kernel) rfl rfl differ (by decide)
      notVocabulary ⟨false, none, "0"⟩ ⟨false, none, "1"⟩
  have same := (independent.2 _ _ delivered deliveredLater).1
  have collected (script deeper : Source) :
      scriptNames Scan.sampleTable true []
          (.file "CMakeLists.txt" script
            (.folder "lib" (.file "CMakeLists.txt" deeper .empty) .empty)) =
        [["CMakeLists.txt"], ["lib", "CMakeLists.txt"]] := by
    cbv
  have findings :
      (audit ⟨false, none, "0"⟩ (sampleTree "find_package(MKL)\n") (sampleOptions .terminal none)
        Scan.sampleTable []).1.findings =
          (filterOf (sampleOptions .terminal none)).select
            ([["CMakeLists.txt"], ["lib", "CMakeLists.txt"]].flatMap fun names =>
              found Scan.sampleTable (sampleTree "find_package(MKL)\n")
                (scriptBelow "." names)) := by
    rw [← collected]
    exact audit_findings rfl rfl Scan.sampleTable []
  refine ⟨_, _, delivered, deliveredLater, ?_, ?_⟩
  · rw [findings]
    decide +kernel
  · rw [← same, findings]
    decide +kernel

end ArchAudit.Run
