/-!
# Parameters

The options of the command line, and the errors of their use.
-/

namespace ArchAudit

/-- What can be given behind the name of a command. -/
inductive Parameter where
  | path
  | noRecursive
  | format
  | output
  | severity
  | exclude
  | only
  | vocabulary
  | ignore
deriving DecidableEq, Repr

namespace Parameter

/-- All parameters. -/
def all : List Parameter :=
  [path, noRecursive, format, output, severity, exclude, only, vocabulary, ignore]

/-- The long name of an option; the path has none. -/
def longName? : Parameter → Option String
  | path => none
  | noRecursive => some "no-recursive"
  | format => some "format"
  | output => some "output"
  | severity => some "severity"
  | exclude => some "exclude"
  | only => some "only"
  | vocabulary => some "vocabulary"
  | ignore => some "ignore"

/-- The letter of an option, if it has one. -/
def letter? : Parameter → Option Char
  | format => some 'f'
  | output => some 'o'
  | severity => some 's'
  | exclude => some 'x'
  | _ => none

/-- Whether an option takes a value. -/
def takesValue : Parameter → Bool
  | noRecursive => false
  | _ => true

/-- Whether a parameter can be given several times. -/
def isRepeatable : Parameter → Bool
  | exclude | only | ignore => true
  | _ => false

end Parameter

/-- The forms of a report. -/
inductive OutputFormat where
  | terminal
  | json
  | markdown
  | github
deriving DecidableEq, Repr

namespace OutputFormat

/-- All forms. -/
def all : List OutputFormat :=
  [terminal, json, markdown, github]

/-- The name of a form. -/
def name : OutputFormat → String
  | terminal => "terminal"
  | json => "json"
  | markdown => "markdown"
  | github => "github"

/-- The form with a given name. -/
def ofName? (name : String) : Option OutputFormat :=
  all.find? fun format => format.name == name

end OutputFormat

/-- The names of the commands. -/
inductive CommandName where
  | scan
  | list
  | vocabulary
  | version
deriving DecidableEq, Repr

namespace CommandName

/-- All commands. -/
def all : List CommandName :=
  [scan, list, vocabulary, version]

/-- A command as it is written. -/
def name : CommandName → String
  | scan => "scan"
  | list => "list"
  | vocabulary => "vocabulary"
  | version => "version"

/-- The command with a given name. -/
def ofName? (name : String) : Option CommandName :=
  all.find? fun command => command.name == name

/-- The parameters of a command. -/
def parameters : CommandName → List Parameter
  | scan => Parameter.all
  | list => []
  | vocabulary => [.vocabulary]
  | version => []

end CommandName

/-- Why a command line does not give a command. -/
inductive UsageError where
  /-- The user asks for help. -/
  | displayHelp
  /-- The user asks for the version, of the program or of one of its commands. -/
  | displayVersion (command : Option CommandName)
  | missingCommand
  | invalidSubcommand
  | unknownArgument
  | invalidValue
  | argumentConflict
  | tooManyValues
  | missingRequiredArgument
deriving DecidableEq, Repr

end ArchAudit
