import ArchAudit.Proofs.ScanReports

/-!
# What a run leaves behind

A run changes at most the file to which its report goes, and only if it succeeds.  Whether it
succeeds depends on the vocabulary, on the patterns of paths to ignore and on whether the report can
be written, and on no script.  A report for other programs goes either to its file or to the
standard output; a report for a terminal is printed even if a file is asked for.
-/

namespace ArchAudit

/-- The file with the vocabulary of a command, if one is named. -/
def Command.vocabulary? : Command → Option String
  | .scan options => options.vocabulary
  | .vocabulary path => path
  | .list => none
  | .version => none

theorem Outcome.exitCode_startedIn (environment : Environment) (outcome : Outcome) :
    (outcome.startedIn environment).exitCode = outcome.exitCode :=
  rfl

namespace Run

/-! ## Delivering a report -/

theorem renderReport?_eq_none_iff (made : Report) {format : OutputFormat} :
    renderReport? made format = none ↔ format = .terminal := by
  cases format with
  | terminal => simp [renderReport?]
  | json => simp [renderReport?]
  | markdown => simp [renderReport?]
  | github => simp [renderReport?]

theorem renderReport?_of_ne_terminal
    {format : OutputFormat}
    (forPrograms : format ≠ .terminal)
    (made : Report) :
    ∃ text, renderReport? made format = some text := by
  rw [← Option.isSome_iff_exists, ← Option.ne_none_iff_isSome]
  intro unrendered
  exact forPrograms ((renderReport?_eq_none_iff made).mp unrendered)

theorem head_of_ne_terminal
    {options : ScanOptions}
    (forPrograms : options.format ≠ .terminal)
    (environment : Environment) :
    head environment options = "" :=
  if_neg forPrograms

section Delivering

variable {environment : Environment} {system after : FileSystem} {options : ScanOptions}
variable {log : List LogEntry} {made : Report} {text path : String}

theorem deliver_of_terminal (onTerminal : options.format = .terminal) :
    deliver environment system options log made =
      succeeded environment system log
        (head environment options ++ terminalBody environment.coloured made) "" := by
  simp only [deliver, (renderReport?_eq_none_iff made).mpr onTerminal]

section ForPrograms

variable (forPrograms : options.format ≠ .terminal)
variable (rendered : renderReport? made options.format = some text)

include forPrograms rendered

theorem deliver_printed (unasked : options.output = none) :
    deliver environment system options log made =
      succeeded environment system log (ensureNewline text) "" := by
  simp only [deliver, rendered, unasked, head_of_ne_terminal forPrograms, String.empty_append]

theorem deliver_written
    (asked : options.output = some path)
    (written : system.write path (.ofText text) = .ok after) :
    deliver environment system options log made =
      succeeded environment after log "" (savedMessage environment.coloured path) := by
  simp only [deliver, rendered, asked, written, head_of_ne_terminal forPrograms]

theorem deliver_unwritten
    {cause : FileError}
    (asked : options.output = some path)
    (unwritten : system.write path (.ofText text) = .error cause) :
    deliver environment system options log made =
      failed environment system log "" (.write path cause) := by
  simp only [deliver, rendered, asked, unwritten, head_of_ne_terminal forPrograms]

end ForPrograms

end Delivering

/-! ## How a scan ends -/

/-- The ways in which a scan can end: no report is made, the report cannot be written, the report is
printed, or it is written to the file that was asked for. -/
inductive Ends
    (environment : Environment)
    (system : FileSystem)
    (options : ScanOptions) :
    Outcome → Prop
  | broken {log : List LogEntry} {stdout : String} {failure : RunError} :
      report environment system options = .error failure →
      stdout = "" ∨ stdout = head environment options →
      Ends environment system options (failed environment system log stdout failure)
  | refused {made : Report} {log : List LogEntry} {path : String} {failure : RunError} :
      report environment system options = .ok made →
      options.format ≠ .terminal →
      options.output = some path →
      (∀ names name, ¬ FileSystem.Writable system path names name) →
      Ends environment system options (failed environment system log "" failure)
  | printed {made : Report} {log : List LogEntry} {stdout : String} :
      report environment system options = .ok made →
      options.format = .terminal ∨ options.output = none →
      Ends environment system options (succeeded environment system log stdout "")
  | written
      {made : Report} {log : List LogEntry} {stderr path name : String} {names : List String}
      {content : Source} :
      report environment system options = .ok made →
      options.format ≠ .terminal →
      options.output = some path →
      FileSystem.Writable system path names name →
      Ends environment system options
        (succeeded environment (system.withFile names name content) log "" stderr)

/-- The report can be handed over: nothing stands in the way of the file, if one is written. -/
def CanDeliver (system : FileSystem) (options : ScanOptions) : Prop :=
  options.format = .terminal ∨
    ∀ path, options.output = some path → ∃ names name, FileSystem.Writable system path names name

section Ending

variable {environment : Environment} {system : FileSystem} {options : ScanOptions}

theorem ends_deliver
    {made : Report}
    (reported : report environment system options = .ok made)
    (log : List LogEntry) :
    Ends environment system options (deliver environment system options log made) := by
  by_cases onTerminal : options.format = .terminal
  · rw [deliver_of_terminal onTerminal]
    exact .printed reported (.inl onTerminal)
  · obtain ⟨text, rendered⟩ := renderReport?_of_ne_terminal onTerminal made
    cases asked : options.output with
    | none =>
        rw [deliver_printed onTerminal rendered asked]
        exact .printed reported (.inr asked)
    | some path =>
        cases written : system.write path (.ofText text) with
        | error cause =>
            rw [deliver_unwritten onTerminal rendered asked written]
            apply Ends.refused reported onTerminal asked
            intro names name writable
            rw [FileSystem.write_eq_ok_iff.mpr ⟨names, name, writable, rfl⟩] at written
            cases written
        | ok after =>
            obtain ⟨names, name, writable, rfl⟩ := FileSystem.write_eq_ok_iff.mp written
            rw [deliver_written onTerminal rendered asked written]
            exact .written reported onTerminal asked writable

theorem ends_scan
    (environment : Environment) (system : FileSystem) (options : ScanOptions) :
    Ends environment system options (scan environment system options) := by
  cases reported : report environment system options with
  | error failure =>
      obtain ⟨log, stdout, printed, isFailed⟩ := scan_of_error reported
      rw [isFailed]
      exact .broken reported printed
  | ok made =>
      obtain ⟨log, isDelivered⟩ := scan_of_report reported
      rw [isDelivered]
      exact ends_deliver reported log

theorem Ends.exitCode_le_one
    {outcome : Outcome}
    (ends : Ends environment system options outcome) :
    outcome.exitCode ≤ 1 := by
  cases ends with
  | broken _ _ => exact Nat.le_refl 1
  | refused _ _ _ _ => exact Nat.le_refl 1
  | printed _ _ => exact Nat.zero_le 1
  | written _ _ _ _ => exact Nat.zero_le 1

/-- A scan succeeds exactly if its report is made and can be handed over. -/
theorem Ends.exitCode_eq_zero_iff
    {outcome : Outcome}
    (ends : Ends environment system options outcome) :
    outcome.exitCode = 0 ↔
      (∃ made, report environment system options = .ok made) ∧ CanDeliver system options := by
  cases ends with
  | broken broken _ =>
      refine iff_of_false Nat.one_ne_zero ?_
      rintro ⟨⟨made, reported⟩, _⟩
      rw [broken] at reported
      cases reported
  | refused _ forPrograms asked unwritable =>
      refine iff_of_false Nat.one_ne_zero ?_
      rintro ⟨_, onTerminal | canWrite⟩
      · exact forPrograms onTerminal
      · obtain ⟨names, name, writable⟩ := canWrite _ asked
        exact unwritable names name writable
  | printed reported destination =>
      refine iff_of_true rfl ⟨⟨_, reported⟩, ?_⟩
      rcases destination with onTerminal | unasked
      · exact .inl onTerminal
      · right
        intro path asked
        rw [unasked] at asked
        cases asked
  | written reported _ asked writable =>
      refine iff_of_true rfl ⟨⟨_, reported⟩, .inr ?_⟩
      intro path askedAgain
      rw [asked] at askedAgain
      cases askedAgain
      exact ⟨_, _, writable⟩

end Ending

/-! ## Trees that differ in files other than the vocabulary -/

section TwoTrees

variable {mayDiffer : List String → Prop} {first second : FileSystem}
variable (differ : FileSystem.DifferOnlyAt mayDiffer first second)

include differ

theorem CanDeliver.of_differ
    {options : ScanOptions}
    (canDeliver : CanDeliver first options) :
    CanDeliver second options := by
  rcases canDeliver with onTerminal | canWrite
  · exact .inl onTerminal
  · right
    intro path asked
    obtain ⟨names, name, writable⟩ := canWrite path asked
    exact ⟨names, name, writable.of_differ differ⟩

theorem scan_succeeds_of_differ
    {options : ScanOptions}
    (avoids : ∀ path, options.vocabulary = some path →
      FileSystem.Avoids mayDiffer first second path)
    {environment : Environment}
    (success : (scan environment first options).exitCode = 0)
    (later : Environment) :
    (scan later second options).exitCode = 0 := by
  obtain ⟨⟨made, reported⟩, canDeliver⟩ :=
    (ends_scan environment first options).exitCode_eq_zero_iff.mp success
  obtain ⟨_, _, _, _, _, reportedThere⟩ := reports_of_avoids differ avoids reported
  exact (ends_scan later second options).exitCode_eq_zero_iff.mpr
    ⟨⟨_, reportedThere later⟩, CanDeliver.of_differ differ canDeliver⟩

theorem exitCode_command_of_differ
    {asked : Command}
    (avoids : ∀ path, asked.vocabulary? = some path →
      FileSystem.Avoids mayDiffer first second path)
    (environment later : Environment) :
    (command environment first asked).exitCode = (command later second asked).exitCode := by
  cases asked with
  | list => rfl
  | version => rfl
  | vocabulary source =>
      have sameLoaded :
          (loadVocabulary first source).toOption = (loadVocabulary second source).toOption :=
        loadVocabulary_of_avoids differ avoids
      rcases cases_of_toOption_eq sameLoaded with
        ⟨vocabulary, firstLoaded, secondLoaded⟩ | ⟨_, _, firstLoaded, secondLoaded⟩
      · simp only [command, printVocabulary, firstLoaded, secondLoaded, succeeded]
      · simp only [command, printVocabulary, firstLoaded, secondLoaded, failed]
  | scan options =>
      have avoidsThere : ∀ path, options.vocabulary = some path →
          FileSystem.Avoids mayDiffer second first path :=
        fun path named => (avoids path named).symm
      have sameSuccess :
          (scan environment first options).exitCode = 0 ↔
            (scan later second options).exitCode = 0 := by
        constructor
        · intro success
          exact scan_succeeds_of_differ differ avoids success later
        · intro success
          exact scan_succeeds_of_differ differ.symm avoidsThere success environment
      -- a scan exits with 0 or 1, so it is enough that both succeed or neither does
      have firstCode := (ends_scan environment first options).exitCode_le_one
      have secondCode := (ends_scan later second options).exitCode_le_one
      simp only [command]
      omega

end TwoTrees

/-! ## Runs of a command line -/

theorem commandLine_of_fault
    {arguments : List String} {failure : UsageError}
    (unparsed : Arguments.parse arguments = .error failure)
    (environment : Environment) (system : FileSystem) :
    commandLine environment system arguments =
      (usageOutcome system failure).startedIn environment := by
  simp only [commandLine, unparsed]

/-- A run is that of a scan, or it leaves the files alone. -/
theorem commandLine_cases
    (environment : Environment) (system : FileSystem) (arguments : List String) :
    ((∀ options, Arguments.parse arguments ≠ .ok (.scan options)) ∧
        (commandLine environment system arguments).files = system) ∨
      ∃ options outcome,
        Arguments.parse arguments = .ok (.scan options) ∧
          Ends environment system options outcome ∧
          commandLine environment system arguments = outcome.startedIn environment := by
  cases parsed : Arguments.parse arguments with
  | error failure =>
      refine .inl ⟨by simp, ?_⟩
      rw [commandLine_of_fault parsed]
      cases failure <;> rfl
  | ok asked =>
      rw [commandLine_of_command parsed]
      cases asked with
      | scan options => exact .inr ⟨options, _, rfl, ends_scan environment system options, rfl⟩
      | list => exact .inl ⟨by simp, rfl⟩
      | version => exact .inl ⟨by simp, rfl⟩
      | vocabulary source =>
          refine .inl ⟨by simp, ?_⟩
          simp only [command, printVocabulary]
          split <;> rfl

theorem exitCode_commandLine_of_differ
    {mayDiffer : List String → Prop} {first second : FileSystem}
    (differ : FileSystem.DifferOnlyAt mayDiffer first second)
    {arguments : List String}
    (avoids : ∀ asked path, Arguments.parse arguments = .ok asked →
      asked.vocabulary? = some path → FileSystem.Avoids mayDiffer first second path)
    (environment later : Environment) :
    (commandLine environment first arguments).exitCode =
      (commandLine later second arguments).exitCode := by
  cases parsed : Arguments.parse arguments with
  | error failure =>
      rw [commandLine_of_fault parsed, commandLine_of_fault parsed]
      cases failure <;> rfl
  | ok asked =>
      rw [commandLine_of_command parsed, commandLine_of_command parsed]
      exact exitCode_command_of_differ differ (fun path => avoids asked path parsed) environment
        later

/-- A run that fails leaves all files as they are, and a scan for other programs that fails prints
nothing.  A run that succeeds changes at most the file that was asked for.  And a file that is not
the vocabulary, so in particular a script, be it missing, unreadable or full of findings, has no
influence on whether a run fails. -/
theorem effects_confined_to_output_file
    (environment : Environment) (system : FileSystem) (arguments : List String) :
    ((commandLine environment system arguments).exitCode ≠ 0 →
        (commandLine environment system arguments).files = system ∧
          ∀ options, Arguments.parse arguments = .ok (.scan options) →
            options.format ≠ .terminal →
              (commandLine environment system arguments).stdout = "") ∧
      ((commandLine environment system arguments).exitCode = 0 →
        (commandLine environment system arguments).files = system ∨
          ∃ options path place content,
            Arguments.parse arguments = .ok (.scan options) ∧
              options.output = some path ∧
              (commandLine environment system arguments).files.resolve path = .ok place ∧
              (commandLine environment system arguments).files.root.occupant place =
                .file content ∧
              FileSystem.DifferOnlyAt (· = place) system
                (commandLine environment system arguments).files) ∧
      ∀ (mayDiffer : List String → Prop) (other : FileSystem) (later : Environment),
        FileSystem.DifferOnlyAt mayDiffer system other →
          (∀ asked path, Arguments.parse arguments = .ok asked →
            asked.vocabulary? = some path → FileSystem.Avoids mayDiffer system other path) →
            (commandLine environment system arguments).exitCode =
              (commandLine later other arguments).exitCode := by
  refine ⟨?_, ?_, ?_⟩
  · intro isFailure
    rcases commandLine_cases environment system arguments with
      ⟨noScan, unchanged⟩ | ⟨options, outcome, parsed, ends, isOutcome⟩
    · refine ⟨unchanged, ?_⟩
      intro options parsed
      exact (noScan options parsed).elim
    · rw [isOutcome] at isFailure ⊢
      cases ends with
      | printed _ _ => exact (isFailure rfl).elim
      | written _ _ _ _ => exact (isFailure rfl).elim
      | refused _ _ _ _ => exact ⟨rfl, fun _ _ _ => rfl⟩
      | broken _ printed =>
          refine ⟨rfl, ?_⟩
          intro parsedOptions parsedAgain forPrograms
          rw [parsed] at parsedAgain
          cases parsedAgain
          rw [head_of_ne_terminal forPrograms, or_self] at printed
          exact printed
  · intro isSuccess
    rcases commandLine_cases environment system arguments with
      ⟨_, unchanged⟩ | ⟨options, outcome, parsed, ends, isOutcome⟩
    · exact .inl unchanged
    · rw [isOutcome] at isSuccess ⊢
      cases ends with
      | broken _ _ => exact (Nat.one_ne_zero isSuccess).elim
      | refused _ _ _ _ => exact (Nat.one_ne_zero isSuccess).elim
      | printed _ _ => exact .inl rfl
      | written _ _ asked writable =>
          exact .inr ⟨options, _, _, _, parsed, asked, writable.resolve_withFile _,
            writable.occupant_withFile _, writable.differOnlyAt _⟩
  · intro mayDiffer other later differ avoids
    exact exitCode_commandLine_of_differ differ avoids environment later

theorem exitCode_sampleTree
    {arguments : List String} {format : OutputFormat}
    (parsed : Arguments.parse arguments = .ok (.scan (sampleOptions format (some "report"))))
    (environment : Environment) (script : String) :
    (commandLine environment (sampleTree script) arguments).exitCode = 0 := by
  have writable : FileSystem.Writable (sampleTree script) "report" ["work"] "report" :=
    ⟨by decide, ⟨[], rfl, rfl⟩, rfl, by decide, rfl, Occupant.noConfusion⟩
  have canDeliver : CanDeliver (sampleTree script) (sampleOptions format (some "report")) := by
    right
    rintro path ⟨⟩
    exact ⟨["work"], "report", writable⟩
  have reported := report_sampleTree environment script format (some "report")
  have success := (ends_scan environment _ _).exitCode_eq_zero_iff.mpr ⟨⟨_, reported⟩, canDeliver⟩
  rw [commandLine_of_command parsed, Outcome.exitCode_startedIn, command]
  exact success

/-- A run without its vocabulary, a run that writes its report, and the same run again with a script
that cannot be read. -/
theorem effects_confined_to_output_file_sample :
    (commandLine ⟨false, none, "0"⟩ (sampleTree "")
        ["scan", ".", "--vocabulary", "none", "--format", "json"]).stdout = "" ∧
      (commandLine ⟨false, none, "0"⟩ (sampleTree "")
        ["scan", ".", "--vocabulary", "none", "--format", "json"]).files = sampleTree "" ∧
      (∃ place, FileSystem.DifferOnlyAt (· = place) (sampleTree "")
        (commandLine ⟨false, none, "0"⟩ (sampleTree "")
          ["scan", ".", "--vocabulary", "/words.json", "-fjson", "-oreport"]).files) ∧
      (commandLine ⟨false, none, "1"⟩
        ((sampleTree "").withFile ["work", "lib"] "CMakeLists.txt" ⟨[], some .isDirectory⟩)
        ["scan", ".", "--vocabulary", "/words.json", "-fjson", "-oreport"]).exitCode = 0 := by
  have parsed :
      Arguments.parse ["scan", ".", "--vocabulary", "/words.json", "-fjson", "-oreport"] =
        .ok (.scan (sampleOptions .json (some "report"))) := by
    decide +kernel
  have success := exitCode_sampleTree parsed ⟨false, none, "0"⟩ ""
  have broken :=
    (effects_confined_to_output_file ⟨false, none, "0"⟩ (sampleTree "")
      ["scan", ".", "--vocabulary", "none", "--format", "json"]).1 (by decide +kernel)
  obtain ⟨_, changed, sameCode⟩ :=
    effects_confined_to_output_file ⟨false, none, "0"⟩ (sampleTree "")
      ["scan", ".", "--vocabulary", "/words.json", "-fjson", "-oreport"]
  refine ⟨?_, broken.1, ?_, ?_⟩
  · apply broken.2 { sampleOptions .json none with vocabulary := some "none" }
    · decide +kernel
    · simp [sampleOptions]
  · rcases changed success with unchanged | ⟨_, _, place, _, _, _, _, _, differ⟩
    · rw [unchanged]
      exact ⟨[], rfl, fun _ => .inl rfl⟩
    · exact ⟨place, differ⟩
  · rw [← sameCode (· = ["work", "lib"] ++ ["CMakeLists.txt"])]
    · exact success
    · exact FileSystem.differOnlyAt_withFile rfl Occupant.noConfusion _
    · intro asked path parsedAgain isVocabulary
      rw [parsed] at parsedAgain
      cases parsedAgain
      cases isVocabulary
      exact FileSystem.avoids_of_resolve (resolve_words_sampleTree "") rfl (by simp)

/-! ## Where the report goes -/

theorem head_ne_empty
    {options : ScanOptions}
    (onTerminal : options.format = .terminal)
    (environment : Environment) :
    head environment options ≠ "" := by
  rw [head, if_pos onTerminal]
  intro isEmpty
  have noCharacters := congrArg String.toList isEmpty
  simp [terminalHead] at noCharacters

/-- A scan that was asked to write its report to a file succeeds.  Then the same scan without a file
succeeds too.  What it prints is in the file, and nothing is printed instead, exactly if the report
is one for other programs.  A report for a terminal is printed all the same, and no file is
written. -/
theorem report_redirected_iff
    {arguments plain : List String} {options : ScanOptions} {path : String}
    (parsed : Arguments.parse arguments = .ok (.scan options))
    (asked : options.output = some path)
    (parsedPlain : Arguments.parse plain = .ok (.scan { options with output := none }))
    {environment : Environment} {system : FileSystem}
    (success : (commandLine environment system arguments).exitCode = 0) :
    (commandLine environment system plain).exitCode = 0 ∧
      ((∃ text,
          (commandLine environment system arguments).files.readText path = .ok text ∧
            (commandLine environment system plain).stdout = ensureNewline text ∧
            (commandLine environment system arguments).stdout = "") ↔
        options.format ≠ .terminal) ∧
      (options.format = .terminal →
        (commandLine environment system arguments).stdout =
            (commandLine environment system plain).stdout ∧
          (commandLine environment system arguments).files = system) := by
  rw [commandLine_of_command parsed] at success ⊢
  rw [commandLine_of_command parsedPlain]
  obtain ⟨⟨made, reported⟩, canDeliver⟩ :=
    (ends_scan environment system options).exitCode_eq_zero_iff.mp success
  -- the file plays no part before the report is handed over
  have reportedPlain : report environment system { options with output := none } = .ok made :=
    reported
  obtain ⟨log, delivered⟩ := scan_of_report reported
  obtain ⟨plainLog, deliveredPlain⟩ := scan_of_report reportedPlain
  simp only [command, delivered, deliveredPlain]
  by_cases onTerminal : options.format = .terminal
  · have onTerminalPlain : ({ options with output := none } : ScanOptions).format = .terminal :=
      onTerminal
    rw [deliver_of_terminal onTerminal, deliver_of_terminal onTerminalPlain]
    refine ⟨rfl, ?_, fun _ => ⟨rfl, rfl⟩⟩
    refine iff_of_false ?_ (not_not_intro onTerminal)
    rintro ⟨_, _, _, isEmpty⟩
    exact head_ne_empty onTerminal environment (String.append_eq_empty_iff.mp isEmpty).1
  · obtain ⟨text, rendered⟩ := renderReport?_of_ne_terminal onTerminal made
    obtain ⟨names, name, writable⟩ := (canDeliver.resolve_left onTerminal) path asked
    have written :
        system.write path (.ofText text) = .ok (system.withFile names name (.ofText text)) :=
      FileSystem.write_eq_ok_iff.mpr ⟨names, name, writable, rfl⟩
    have onNoTerminal : ({ options with output := none } : ScanOptions).format ≠ .terminal :=
      onTerminal
    have renderedPlain :
        renderReport? made ({ options with output := none } : ScanOptions).format = some text :=
      rendered
    rw [deliver_written onTerminal rendered asked written,
      deliver_printed onNoTerminal renderedPlain rfl]
    refine ⟨rfl, iff_of_true ?_ onTerminal, fun isTerminal => (onTerminal isTerminal).elim⟩
    have saved := writable.read_withFile (.ofText text)
    exact ⟨text, FileSystem.readText_of_read_ofText saved, rfl, rfl⟩

/-- A report for other programs is in the file that was asked for. -/
theorem report_redirected_iff_json :
    ∃ text,
      (commandLine ⟨false, none, "0"⟩ (sampleTree "")
          ["scan", ".", "--vocabulary", "/words.json", "-fjson", "-oreport"]).files.readText
            "report" = .ok text ∧
        (commandLine ⟨false, none, "0"⟩ (sampleTree "")
          ["scan", ".", "--vocabulary", "/words.json", "-fjson"]).stdout = ensureNewline text ∧
        (commandLine ⟨false, none, "0"⟩ (sampleTree "")
          ["scan", ".", "--vocabulary", "/words.json", "-fjson", "-oreport"]).stdout = "" := by
  have parsed :
      Arguments.parse ["scan", ".", "--vocabulary", "/words.json", "-fjson", "-oreport"] =
        .ok (.scan (sampleOptions .json (some "report"))) := by
    decide +kernel
  have parsedPlain :
      Arguments.parse ["scan", ".", "--vocabulary", "/words.json", "-fjson"] =
        .ok (.scan (sampleOptions .json none)) := by
    decide +kernel
  have success := exitCode_sampleTree parsed ⟨false, none, "0"⟩ ""
  have redirected := report_redirected_iff parsed rfl parsedPlain success
  exact redirected.2.1.mpr (by simp [sampleOptions])

/-- A run succeeds, and the file that was asked for does not exist: the report was one for a
terminal. -/
theorem terminal_report_not_redirected :
    (commandLine ⟨false, none, "0"⟩ (sampleTree "")
        ["scan", ".", "--vocabulary", "/words.json", "-oreport"]).exitCode = 0 ∧
      ¬ ∃ text,
        (commandLine ⟨false, none, "0"⟩ (sampleTree "")
          ["scan", ".", "--vocabulary", "/words.json", "-oreport"]).files.readText "report" =
            .ok text := by
  have parsed :
      Arguments.parse ["scan", ".", "--vocabulary", "/words.json", "-oreport"] =
        .ok (.scan (sampleOptions .terminal (some "report"))) := by
    decide +kernel
  have success := exitCode_sampleTree parsed ⟨false, none, "0"⟩ ""
  refine ⟨success, ?_⟩
  rcases commandLine_cases ⟨false, none, "0"⟩ (sampleTree "")
      ["scan", ".", "--vocabulary", "/words.json", "-oreport"] with
    ⟨noScan, _⟩ | ⟨options, outcome, parsedAgain, ends, isOutcome⟩
  · exact (noScan _ parsed).elim
  · rw [parsed] at parsedAgain
    cases parsedAgain
    rw [isOutcome] at success ⊢
    cases ends with
    | broken _ _ => exact (Nat.one_ne_zero success).elim
    | refused _ forPrograms _ _ => exact (forPrograms rfl).elim
    | written _ forPrograms _ _ => exact (forPrograms rfl).elim
    | printed _ _ =>
        rintro ⟨text, opened⟩
        have missing : (sampleTree "").readText "report" = .error .notFound := by
          decide +kernel
        have same := missing.symm.trans opened
        cases same

end Run

end ArchAudit
