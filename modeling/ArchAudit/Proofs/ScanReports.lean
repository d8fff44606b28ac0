import ArchAudit.Proofs.ArgumentChecks
import ArchAudit.Proofs.DirectoryWalk
import ArchAudit.Proofs.FileAccess
import ArchAudit.Proofs.FileScans
import ArchAudit.Proofs.FindingIds
import ArchAudit.Proofs.VocabularyReading

/-!
# Reports on a tree of files

A scan makes its report from the vocabulary and from the scripts below a directory, one after the
other.  What it finds in a script depends on what is read at the path of that script, and the
scripts are those that the walk collects.
-/

namespace ArchAudit

/-! ## Findings of one script -/

namespace Scan

theorem filePath_of_mem_ofLines
    {vocabulary : Vocabulary} {table : Table}
    (compiled : Table.compile vocabulary = .ok table)
    {filePath : String} {lines : List String} {finding : Finding}
    (member : finding ∈ ofLines table filePath lines) :
    finding.filePath = filePath := by
  rw [ofLines_of_compile compiled] at member
  rcases List.mem_append.mp member with early | late
  · obtain ⟨line, _, statementMember⟩ := List.mem_flatMap.mp early
    obtain ⟨issue, _, rfl⟩ := List.mem_map.mp statementMember
    rfl
  · obtain ⟨issue, _, rfl⟩ := List.mem_map.mp late
    rfl

end Scan

namespace Run

/-- What a script adds to the findings: nothing, if it is not read to its end. -/
def found (table : Table) (system : FileSystem) (script : Script) : List Finding :=
  match Scanner.find? table script.path with
  | none => []
  | some scanner =>
    if (scanner.attempt system script).2 = none then (scanner.attempt system script).1 else []

theorem find?_eq_some
    {table : Table} {path : String} {scanner : Scanner}
    (isFound : Scanner.find? table path = some scanner) :
    scanner = Scanner.cmake table := by
  have member := List.mem_of_find?_eq_some isFound
  rw [Scanner.all] at member
  exact List.mem_singleton.mp member

theorem scanScript_findings
    (table : Table) (system : FileSystem) (script : Script) (findings : List Finding) :
    (scanScript table system script findings).1 = findings ++ found table system script := by
  unfold scanScript found
  cases Scanner.find? table script.path with
  | none => simp
  | some scanner =>
      have scanned := scanner.scanFile_eq system script findings
      simp only [scanned]
      cases attempted : (scanner.attempt system script).2 with
      | none => simp
      | some failure => simp

theorem scanScripts_findings (table : Table) (system : FileSystem) (scripts : List Script) :
    (scanScripts table system scripts).1 = scripts.flatMap (found table system) := by
  have fromCollected :
      ∀ collected : List Finding × List LogEntry,
        (scripts.foldl
          (fun collected script =>
            let step := scanScript table system script collected.1
            (step.1, collected.2 ++ step.2))
          collected).1 = collected.1 ++ scripts.flatMap (found table system) := by
    induction scripts with
    | nil => simp
    | cons script others inductionHypothesis =>
        intro collected
        rw [List.flatMap_cons, ← List.append_assoc, ← scanScript_findings]
        exact inductionHypothesis _
  exact fromCollected ([], [])

/-- The findings of a script carry the path under which it is shown. -/
theorem filePath_of_mem_found
    {vocabulary : Vocabulary} {table : Table}
    (compiled : Table.compile vocabulary = .ok table)
    {system : FileSystem} {script : Script} {finding : Finding}
    (member : finding ∈ found table system script) :
    finding.filePath = script.shownPath := by
  unfold found at member
  split at member
  · cases member
  · next scanner isFound =>
      split at member
      · rw [find?_eq_some isFound, Scanner.attempt] at member
        split at member
        · cases member
        · next source _ =>
            have inFile :=
              (Scan.ofSource_findings_begin_ofLines compiled script.shownPath source).subset member
            exact Scan.filePath_of_mem_ofLines compiled inFile
      · cases member

/-- What is found in a script depends on what is read at its path. -/
theorem found_of_read_eq
    {first second : FileSystem} {script : Script}
    (same : (first.read script.path).toOption = (second.read script.path).toOption)
    (table : Table) :
    found table first script = found table second script := by
  rcases cases_of_toOption_eq same with
    ⟨source, firstRead, secondRead⟩ | ⟨_, _, firstRead, secondRead⟩
  · simp only [found, Scanner.attempt, firstRead, secondRead]
  · simp [found, Scanner.attempt, firstRead, secondRead]

/-! ## The report of a scan -/

/-- The report that a scan makes, or the error with which it breaks off. -/
def report
    (environment : Environment)
    (system : FileSystem)
    (options : ScanOptions) :
    Except RunError Report :=
  match loadVocabulary system options.vocabulary with
  | .error failure => .error failure
  | .ok vocabulary =>
    match compileTable vocabulary with
    | .error failure => .error failure
    | .ok table =>
      match compileGlobs options.ignore with
      | .error failure => .error failure
      | .ok globs => .ok (audit environment system options table globs).1

section Making

variable {environment : Environment} {system : FileSystem} {options : ScanOptions}

theorem compileTable_eq_ok_iff {vocabulary : Vocabulary} {table : Table} :
    compileTable vocabulary = .ok table ↔ Table.compile vocabulary = .ok table := by
  unfold compileTable
  cases Table.compile vocabulary with
  | error cause => simp
  | ok compiled => simp

theorem report_eq_ok_iff {made : Report} :
    report environment system options = .ok made ↔
      ∃ vocabulary table globs,
        loadVocabulary system options.vocabulary = .ok vocabulary ∧
          Table.compile vocabulary = .ok table ∧
          compileGlobs options.ignore = .ok globs ∧
          (audit environment system options table globs).1 = made := by
  constructor
  · intro reported
    unfold report at reported
    cases loaded : loadVocabulary system options.vocabulary with
    | error failure => simp [loaded] at reported
    | ok vocabulary =>
        cases tabled : compileTable vocabulary with
        | error failure => simp [loaded, tabled] at reported
        | ok table =>
            cases globbed : compileGlobs options.ignore with
            | error failure => simp [loaded, tabled, globbed] at reported
            | ok globs =>
                simp only [loaded, tabled, globbed, Except.ok.injEq] at reported
                exact ⟨vocabulary, table, globs, rfl, compileTable_eq_ok_iff.mp tabled, rfl,
                  reported⟩
  · rintro ⟨vocabulary, table, globs, loaded, compiled, globbed, rfl⟩
    simp only [report, loaded, compileTable_eq_ok_iff.mpr compiled, globbed]

/-- A report that is made is delivered. -/
theorem scan_of_report
    {made : Report}
    (reported : report environment system options = .ok made) :
    ∃ log, scan environment system options = deliver environment system options log made := by
  obtain ⟨vocabulary, table, globs, loaded, compiled, globbed, rfl⟩ :=
    report_eq_ok_iff.mp reported
  refine ⟨Journal.compile vocabulary Row.all
    ++ (audit environment system options table globs).2, ?_⟩
  simp only [scan, loaded, compileTable_eq_ok_iff.mpr compiled, globbed]

/-- An error leaves the file system as it is.  Only a head can have been printed before it. -/
theorem scan_of_error
    {failure : RunError}
    (broken : report environment system options = .error failure) :
    ∃ log stdout, (stdout = "" ∨ stdout = head environment options) ∧
      scan environment system options = failed environment system log stdout failure := by
  unfold report at broken
  cases loaded : loadVocabulary system options.vocabulary with
  | error cause =>
      simp only [loaded, Except.error.injEq] at broken
      subst broken
      refine ⟨[], "", .inl rfl, ?_⟩
      simp only [scan, loaded]
  | ok vocabulary =>
      cases tabled : compileTable vocabulary with
      | error cause =>
          simp only [loaded, tabled, Except.error.injEq] at broken
          subst broken
          refine ⟨Journal.compile vocabulary Row.all, "", .inl rfl, ?_⟩
          simp only [scan, loaded, tabled]
      | ok table =>
          cases globbed : compileGlobs options.ignore with
          | error cause =>
              simp only [loaded, tabled, globbed, Except.error.injEq] at broken
              subst broken
              refine ⟨Journal.compile vocabulary Row.all, head environment options, .inr rfl, ?_⟩
              simp only [scan, loaded, tabled, globbed]
          | ok globs => simp [loaded, tabled, globbed] at broken

end Making

/-- A command line asks for a scan that makes a report, and delivers that report. -/
def Delivers
    (environment : Environment)
    (system : FileSystem)
    (arguments : List String)
    (made : Report) :
    Prop :=
  ∃ options log,
    Arguments.parse arguments = .ok (.scan options) ∧
      report environment system options = .ok made ∧
      commandLine environment system arguments =
        (deliver environment system options log made).startedIn environment

theorem commandLine_of_command
    {arguments : List String} {asked : Command}
    (parsed : Arguments.parse arguments = .ok asked)
    (environment : Environment) (system : FileSystem) :
    commandLine environment system arguments =
      (command environment system asked).startedIn environment := by
  simp only [commandLine, parsed]

theorem delivers_iff
    {arguments : List String} {options : ScanOptions}
    (parsed : Arguments.parse arguments = .ok (.scan options))
    {environment : Environment} {system : FileSystem} {made : Report} :
    Delivers environment system arguments made ↔
      report environment system options = .ok made := by
  constructor
  · rintro ⟨parsedOptions, log, parsedThere, reported, _⟩
    rw [parsed] at parsedThere
    cases parsedThere
    exact reported
  · intro reported
    obtain ⟨log, delivered⟩ := scan_of_report reported
    refine ⟨options, log, parsed, reported, ?_⟩
    rw [commandLine_of_command parsed, command, delivered]

/-! ## Scripts below a directory -/

theorem fileName?_of_isEntryName
    {name : String}
    (named : Directory.IsEntryName name) :
    Path.fileName? name = some name := by
  obtain ⟨isName, slashless⟩ := named
  obtain ⟨notEmpty, notDot, notDots⟩ := FileSystem.isName_iff.mp isName
  have onePiece : Path.pieces name = [name] := by
    rw [Path.pieces, Text.splitText, Text.splitList_of_not_mem slashless]
    simp
  simp [Path.fileName?, Path.names, onePiece, notEmpty, notDot, notDots]

theorem isSome_find?_iff (table : Table) (path : String) :
    (Scanner.find? table path).isSome = true ↔ Path.fileName? path = some Scanner.scriptName := by
  simp [Scanner.find?, Scanner.all, Scanner.cmake]

/-- The script under a list of names below a directory. -/
def scriptBelow (path : String) (names : List String) : Script :=
  ⟨Path.below path names, Path.ofNames names⟩

/-- The names of the scripts below a directory. -/
def scriptNames
    (table : Table)
    (recursive : Bool)
    (globs : List Glob)
    (directory : Directory) :
    List (List String) :=
  directory.collect (fun name => (Scanner.find? table name).isSome) recursive
    fun relative => globs.any fun glob => glob.isMatch relative

theorem collectScripts_of_folder
    {system : FileSystem} {path : String} {base : List String} {directory : Directory}
    (resolved : system.resolve path = .ok base)
    (entered : system.root.at? base = some (.folder directory))
    (table : Table) (recursive : Bool) (globs : List Glob) :
    collectScripts table system path recursive globs =
      ((scriptNames table recursive globs directory).map (scriptBelow path), []) := by
  have looked : system.lookup path = .ok (.folder directory) := by
    simp only [FileSystem.lookup, resolved, entered]
  simp only [collectScripts, FileSystem.isFile, FileSystem.directory?, looked]
  rfl

theorem isEntryName_of_mem_scriptNames
    {directory : Directory}
    (wellFormed : directory.WellFormed)
    {table : Table} {recursive : Bool} {globs : List Glob} {names : List String}
    (member : names ∈ scriptNames table recursive globs directory) :
    (∀ name ∈ names, Directory.IsEntryName name) ∧ names.getLast? = some Scanner.scriptName := by
  obtain ⟨isWanted, _⟩ := (Directory.mem_collect_iff _ _ _ wellFormed names).mp member
  have named : ∀ name ∈ names, Directory.IsEntryName name := by
    apply wellFormed.named
    obtain ⟨content, isFile⟩ := isWanted.isFile
    rw [isFile]
    simp
  obtain ⟨last, isLast, accepted⟩ := isWanted.named
  have lastNamed := named last (List.mem_of_getLast? isLast)
  rw [isSome_find?_iff, fileName?_of_isEntryName lastNamed] at accepted
  cases accepted
  exact ⟨named, isLast⟩

section Audit

variable {environment : Environment} {system : FileSystem} {options : ScanOptions}
variable {base : List String} {directory : Directory}
variable (resolved : system.resolve options.path = .ok base)
variable (entered : system.root.at? base = some (.folder directory))
variable (table : Table) (globs : List Glob)

include resolved entered

theorem audit_findings :
    (audit environment system options table globs).1.findings =
      (filterOf options).select
        ((scriptNames table (!options.noRecursive) globs directory).flatMap fun names =>
          found table system (scriptBelow options.path names)) := by
  simp only [audit, collectScripts_of_folder resolved entered, scanScripts_findings,
    List.flatMap_map]
  rfl

theorem audit_filesScanned :
    (audit environment system options table globs).1.metadata.filesScanned =
      (scriptNames table (!options.noRecursive) globs directory).length := by
  simp only [audit, collectScripts_of_folder resolved entered, List.length_map]
  rfl

end Audit

/-! ## Files that may differ -/

theorem loadVocabulary_of_avoids
    {mayDiffer : List String → Prop} {first second : FileSystem} {source : Option String}
    (differ : FileSystem.DifferOnlyAt mayDiffer first second)
    (avoids : ∀ path, source = some path → FileSystem.Avoids mayDiffer first second path) :
    (loadVocabulary first source).toOption = (loadVocabulary second source).toOption := by
  cases source with
  | none => rfl
  | some path =>
      have same := FileSystem.read_of_avoids differ (avoids path rfl)
      rcases cases_of_toOption_eq same with
        ⟨content, firstRead, secondRead⟩ | ⟨_, _, firstRead, secondRead⟩
      · simp only [loadVocabulary, FileSystem.readText, firstRead, secondRead]
      · simp only [loadVocabulary, FileSystem.readText, firstRead, secondRead, Except.toOption]

/-- Where the vocabulary is the same, both reports are made with the same table. -/
theorem reports_of_avoids
    {mayDiffer : List String → Prop} {first second : FileSystem} {options : ScanOptions}
    (differ : FileSystem.DifferOnlyAt mayDiffer first second)
    (avoids : ∀ path, options.vocabulary = some path →
      FileSystem.Avoids mayDiffer first second path)
    {environment : Environment} {made : Report}
    (reported : report environment first options = .ok made) :
    ∃ vocabulary table globs,
      Table.compile vocabulary = .ok table ∧
        (audit environment first options table globs).1 = made ∧
        ∀ later, report later second options = .ok (audit later second options table globs).1 := by
  obtain ⟨vocabulary, table, globs, loaded, compiled, globbed, isMade⟩ :=
    report_eq_ok_iff.mp reported
  have loadedThere : loadVocabulary second options.vocabulary = .ok vocabulary := by
    rcases cases_of_toOption_eq (loadVocabulary_of_avoids differ avoids) with
      ⟨same, inFirst, inSecond⟩ | ⟨_, _, inFirst, _⟩
    · rw [loaded] at inFirst
      cases inFirst
      exact inSecond
    · rw [loaded] at inFirst
      cases inFirst
  refine ⟨vocabulary, table, globs, compiled, isMade, ?_⟩
  intro later
  exact report_eq_ok_iff.mpr ⟨vocabulary, table, globs, loadedThere, compiled, globbed, rfl⟩

/-! ## A tree to try the results on -/

/-- A vocabulary, and a directory with a script and another script in a directory below. -/
def sampleTree (script : String) : FileSystem where
  root :=
    .file "words.json" (.ofText Scan.sampleVocabulary.render)
      (.folder "work"
        (.file "CMakeLists.txt" (.ofText "find_package(MKL)\n")
          (.folder "lib" (.file "CMakeLists.txt" (.ofText script) .empty) .empty))
        .empty)
  workingDirectory := ["work"]

def sampleOptions (format : OutputFormat) (output : Option String) : ScanOptions where
  path := "."
  noRecursive := false
  format := format
  output := output
  severity := none
  exclude := []
  only := []
  vocabulary := some "/words.json"
  ignore := []

theorem resolve_words_sampleTree (script : String) :
    (sampleTree script).resolve "/words.json" = .ok ["words.json"] :=
  rfl

theorem report_sampleTree
    (environment : Environment) (script : String) (format : OutputFormat)
    (output : Option String) :
    report environment (sampleTree script) (sampleOptions format output) =
      .ok (audit environment (sampleTree script) (sampleOptions format output)
        Scan.sampleTable []).1 := by
  have saved :
      (sampleTree script).read "/words.json" = .ok (.ofText Scan.sampleVocabulary.render) := rfl
  have loaded :
      loadVocabulary (sampleTree script) (some "/words.json") = .ok Scan.sampleVocabulary := by
    rw [loadVocabulary, FileSystem.readText_of_read_ofText saved]
    exact parseVocabulary_render _ _
  exact report_eq_ok_iff.mpr ⟨_, _, [], loaded, Scan.compile_sampleVocabulary, rfl, rfl⟩

end Run

end ArchAudit
