import ArchAudit.Command.Arguments
import ArchAudit.Command.Error
import ArchAudit.Command.Filter
import ArchAudit.FileSystem.Walk
import ArchAudit.Log.Journal
import ArchAudit.Log.Setting
import ArchAudit.Report.Json
import ArchAudit.Report.Markdown
import ArchAudit.Report.Terminal
import ArchAudit.Report.Workflow
import ArchAudit.Scanner
import ArchAudit.Vocabulary.Printer
import ArchAudit.Vocabulary.Reader

/-!
# Running a command

A run takes the file system as it is and gives back what is printed, the exit code and the file
system as it is left.
-/

namespace ArchAudit

open Text

/-- What a run depends on besides its arguments and the files. -/
structure Environment where
  /-- Whether colours are shown. -/
  coloured : Bool
  /-- The setting that selects log messages. -/
  logSetting : Option String
  /-- Seconds since the start of 1970, as text. -/
  timestamp : String
deriving DecidableEq, Repr

/-- What a run leaves behind. -/
structure Outcome where
  exitCode : Nat
  stdout : String
  stderr : String
  files : FileSystem
deriving DecidableEq, Repr

namespace Environment

/-- The messages that are shown. -/
def shown (environment : Environment) (log : List LogEntry) : String :=
  (LogFilter.ofSetting environment.logSetting).1.render log

/-- The warnings about faults of the log setting. -/
def warnings (environment : Environment) : String :=
  String.join ((LogFilter.ofSetting environment.logSetting).2.map LogSettingFault.render)

end Environment

namespace Outcome

/-- A run that was started in an environment: the warnings about the environment come before
everything else. -/
def startedIn (environment : Environment) (outcome : Outcome) : Outcome :=
  { outcome with stderr := environment.warnings ++ outcome.stderr }

end Outcome

namespace Run

/-! ## Vocabulary and table -/

/-- Reads a vocabulary from its text. -/
def parseVocabulary (path text : String) : Except RunError Vocabulary :=
  match Vocabulary.parse text with
  | .ok vocabulary => .ok vocabulary
  | .error failure => .error (.vocabulary path (failure.message text.toList))

/-- The vocabulary of a file, or the built-in one if no file is named. -/
def loadVocabulary (system : FileSystem) : Option String → Except RunError Vocabulary
  | none => .ok .default
  | some path =>
    match system.readText path with
    | .error failure => .error (.read path failure)
    | .ok text => parseVocabulary path text

/-- The table for a vocabulary. -/
def compileTable (vocabulary : Vocabulary) : Except RunError Table :=
  match Table.compile vocabulary with
  | .ok table => .ok table
  | .error cause => .error (.pattern cause)

/-- The patterns of paths to ignore; the first malformed one is an error. -/
def compileGlobs : List String → Except RunError (List Glob)
  | [] => .ok []
  | pattern :: patterns =>
    match Glob.parse pattern with
    | .error cause => .error (.ignore pattern cause)
    | .ok glob =>
      match compileGlobs patterns with
      | .error failure => .error failure
      | .ok globs => .ok (glob :: globs)

/-! ## Collecting and scanning files -/

/-- A file to scan: the path that leads to it, and the path under which it is shown. -/
structure Script where
  path : String
  shownPath : String
deriving DecidableEq, Repr

/-- The warning about a file that no scanner handles. -/
def unrecognized (path : String) : LogEntry :=
  ⟨.warn, Log.commandTarget, path ++ " is not a recognized build script"⟩

/-- The scripts to scan.  A file is taken as it is named; a directory is searched, and what lies
below it is shown relative to it. -/
def collectScripts
    (table : Table)
    (system : FileSystem)
    (path : String)
    (recursive : Bool)
    (globs : List Glob) :
    List Script × List LogEntry :=
  if system.isFile path then
    if (Scanner.find? table path).isSome then ([⟨path, path⟩], [])
    else ([], [unrecognized path])
  else
    match system.directory? path with
    | none => ([], [])
    | some directory =>
      let files := directory.collect (fun name => (Scanner.find? table name).isSome) recursive
        fun relative => globs.any fun glob => glob.isMatch relative
      (files.map fun names => ⟨Path.below path names, Path.ofNames names⟩, [])

/-- Scans one script.  A script that cannot be read gives a warning and no findings. -/
def scanScript
    (table : Table)
    (system : FileSystem)
    (script : Script)
    (findings : List Finding) :
    List Finding × List LogEntry :=
  match Scanner.find? table script.path with
  | none => (findings, [])
  | some scanner =>
    match scanner.scanFile system script.path script.shownPath findings with
    | (findings, some failure) =>
      (findings,
        [⟨.warn, Log.commandTarget, (RunError.read script.path failure).message⟩])
    | (findings, none) =>
      (findings,
        match system.read script.path with
        | .ok source => Journal.file table script.shownPath source
        | .error _ => [])

/-- Scans scripts one after the other; each starts from nothing. -/
def scanScripts
    (table : Table)
    (system : FileSystem)
    (scripts : List Script) :
    List Finding × List LogEntry :=
  scripts.foldl
    (fun (findings, log) script =>
      let step := scanScript table system script findings
      (step.1, log ++ step.2))
    ([], [])

/-- The message about a place without scripts. -/
def noScripts (path : String) (scripts : List Script) : List LogEntry :=
  if scripts.isEmpty then
    [⟨.info, Log.commandTarget, "no build scripts found under " ++ path⟩]
  else []

/-- The warnings about identifiers that name no rule. -/
def unknownRules (filter : FindingFilter) : List LogEntry :=
  filter.unknownIds.map fun id => ⟨.warn, Log.commandTarget, "unknown rule ID '" ++ id ++ "'"⟩

/-- The findings that a scan is asked for. -/
def filterOf (options : ScanOptions) : FindingFilter :=
  ⟨options.severity, options.exclude, options.only⟩

/-- Collects, scans and filters: the report and the messages on the way. -/
def audit
    (environment : Environment)
    (system : FileSystem)
    (options : ScanOptions)
    (table : Table)
    (globs : List Glob) :
    Report × List LogEntry :=
  let (scripts, collecting) :=
    collectScripts table system options.path (!options.noRecursive) globs
  let (findings, scanning) := scanScripts table system scripts
  let filter := filterOf options
  (Report.ofFindings environment.timestamp (filter.select findings) options.path scripts.length,
    collecting ++ noScripts options.path scripts ++ scanning ++ unknownRules filter)

/-! ## Output -/

/-- The lettering at the head of a report on a terminal. -/
def banner : String :=
  "\n"
    ++ "    _             _          ____             _   _            _\n"
    ++ "   / \\   _ __ ___| |__      / ___|  ___ _ __ | |_(_)_ __   ___| |\n"
    ++ "  / _ \\ | '__/ __| '_ \\ ____\\___ \\ / _ \\ '_ \\| __| | '_ \\ / _ \\ |\n"
    ++ " / ___ \\| | | (__| | | |_____|__) |  __/ | | | |_| | | | |  __/ |\n"
    ++ "/_/   \\_\\_|  \\___|_| |_|    |____/ \\___|_| |_|\\__|_|_| |_|\\___|_|\n"
    ++ "\n"
    ++ "              AArch64 Portability Scanner for CMake\n"

/-- What is printed on a terminal before a scan. -/
def terminalHead (coloured : Bool) (path : String) : String :=
  (Style.boldColour .cyan).paint coloured banner ++ "\n"
    ++ (Style.boldColour .green).paint coloured "[*] Scanning:" ++ " "
    ++ (Style.colour .yellow).paint coloured path ++ "\n"

/-- What is printed before a scan. -/
def head (environment : Environment) (options : ScanOptions) : String :=
  if options.format = .terminal then terminalHead environment.coloured options.path else ""

/-- What is printed on a terminal after a scan. -/
def terminalBody (coloured : Bool) (report : Report) : String :=
  report.renderTerminal coloured ++ "\n"
    ++ (Style.colour .cyan).paint coloured (Report.ruler '=') ++ "\n"
    ++ report.renderSummary coloured

/-- The text of a report in a form for other programs. -/
def renderReport? (report : Report) : OutputFormat → Option String
  | .terminal => none
  | .json => some report.renderJson
  | .markdown => some report.renderMarkdown
  | .github => some report.renderAnnotations

/-- A text that ends in a newline, unless it is empty. -/
def ensureNewline (text : String) : String :=
  if text = "" ∨ text.toList.getLast? = some '\n' then text else text ++ "\n"

/-- The message about a report that was written to a file. -/
def savedMessage (coloured : Bool) (path : String) : String :=
  (Style.colour .green).paint coloured "[+] Report saved to:" ++ " "
    ++ (Style.colour .yellow).paint coloured path ++ "\n"

/-- A run that broke off after printing something. -/
def failed
    (environment : Environment)
    (system : FileSystem)
    (log : List LogEntry)
    (stdout : String)
    (error : RunError) :
    Outcome :=
  ⟨1, stdout, environment.shown log ++ error.render, system⟩

/-- A run that ended well. -/
def succeeded
    (environment : Environment)
    (system : FileSystem)
    (log : List LogEntry)
    (stdout stderr : String) :
    Outcome :=
  ⟨0, stdout, environment.shown log ++ stderr, system⟩

/-- Prints a report, or writes it to a file.  On a terminal a file is not asked for. -/
def deliver
    (environment : Environment)
    (system : FileSystem)
    (options : ScanOptions)
    (log : List LogEntry)
    (report : Report) :
    Outcome :=
  match renderReport? report options.format, options.output with
  | none, _ =>
    succeeded environment system log
      (head environment options ++ terminalBody environment.coloured report) ""
  | some text, none =>
    succeeded environment system log (head environment options ++ ensureNewline text) ""
  | some text, some path =>
    match system.write path (.ofText text) with
    | .error cause => failed environment system log (head environment options) (.write path cause)
    | .ok system =>
      succeeded environment system log (head environment options)
        (savedMessage environment.coloured path)

/-! ## Commands -/

/-- Scans the scripts at a path and reports on them. -/
def scan (environment : Environment) (system : FileSystem) (options : ScanOptions) : Outcome :=
  match loadVocabulary system options.vocabulary with
  | .error failure => failed environment system [] "" failure
  | .ok vocabulary =>
    let compiling := Journal.compile vocabulary Row.all
    match compileTable vocabulary with
    | .error failure => failed environment system compiling "" failure
    | .ok table =>
      match compileGlobs options.ignore with
      | .error failure =>
        failed environment system compiling (head environment options) failure
      | .ok globs =>
        let (report, log) := audit environment system options table globs
        deliver environment system options (compiling ++ log) report

/-- One rule of the catalogue. -/
def listRule (coloured : Bool) (rule : Rule) : String :=
  "  " ++ (Style.boldColour .cyan).paint coloured rule.id ++ " "
    ++ (Style.colour .white).paint coloured rule.name ++ " ["
    ++ (Style.colour .yellow).paint coloured rule.severity.name ++ "]\n"
    ++ "     " ++ Style.plainDimmed.paint coloured rule.description ++ "\n\n"

/-- The catalogue of rules. -/
def listRules (coloured : Bool) : String :=
  (Style.boldColour .green).paint coloured "[*] Available Portability Rules:" ++ "\n"
    ++ (Style.colour .cyan).paint coloured (Report.ruler '-') ++ "\n"
    ++ String.join (Rule.all.map (listRule coloured))

/-- Prints the vocabulary that a scan would use. -/
def printVocabulary
    (environment : Environment)
    (system : FileSystem)
    (path : Option String) :
    Outcome :=
  match loadVocabulary system path with
  | .error failure => failed environment system [] "" failure
  | .ok vocabulary => succeeded environment system [] vocabulary.render ""

/-- The line that tells the version. -/
def versionLine (coloured : Bool) : String :=
  (Style.colour .green).paint coloured "Arch-Sentinel version:" ++ " "
    ++ (Style.colour .yellow).paint coloured ArchAudit.version ++ "\n"

/-- Runs a command. -/
def command (environment : Environment) (system : FileSystem) : Command → Outcome
  | .scan options => scan environment system options
  | .list => succeeded environment system [] (listRules environment.coloured) ""
  | .vocabulary path => printVocabulary environment system path
  | .version => succeeded environment system [] (versionLine environment.coloured) ""

/-- The name of the program, or of one of its commands. -/
def programName : Option CommandName → String
  | none => "arch-sentinel"
  | some command => "arch-sentinel-" ++ command.name

/-- How the program is used. -/
def usage : String :=
  "Usage: arch-sentinel <COMMAND>\n\nCommands:\n  scan\n  list\n  vocabulary\n  version\n  help\n"

/-- The outcome of a command line that gives no command. -/
def usageOutcome (system : FileSystem) : UsageError → Outcome
  | .displayHelp => ⟨0, usage, "", system⟩
  | .displayVersion command =>
    ⟨0, programName command ++ " " ++ ArchAudit.version ++ "\n", "", system⟩
  | _ => ⟨2, "", usage, system⟩

/-- Runs a command line, without the name of the program. -/
def commandLine
    (environment : Environment)
    (system : FileSystem)
    (arguments : List String) :
    Outcome :=
  match Arguments.parse arguments with
  | .error failure => (usageOutcome system failure).startedIn environment
  | .ok parsed => (command environment system parsed).startedIn environment

end Run

end ArchAudit
