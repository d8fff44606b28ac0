/-!
# Log lines

Messages about the progress of a run, each with a level and the part of the program that it comes
from.
-/

namespace ArchAudit

/-- How important a message is, from most to least. -/
inductive LogLevel where
  | error
  | warn
  | info
  | debug
  | trace
deriving DecidableEq, Repr

namespace LogLevel

/-- The place of a level in the order. -/
def rank : LogLevel → Nat
  | error => 1
  | warn => 2
  | info => 3
  | debug => 4
  | trace => 5

/-- The name of a level, padded to five characters. -/
def label : LogLevel → String
  | error => "ERROR"
  | warn => "WARN "
  | info => "INFO "
  | debug => "DEBUG"
  | trace => "TRACE"

/-- The name of a level in a setting. -/
def key : LogLevel → String
  | error => "error"
  | warn => "warn"
  | info => "info"
  | debug => "debug"
  | trace => "trace"

/-- All levels. -/
def all : List LogLevel :=
  [error, warn, info, debug, trace]

/-- The level with a given name in a setting. -/
def ofKey? (key : String) : Option LogLevel :=
  all.find? fun level => level.key == key

end LogLevel

/-- A message. -/
structure LogEntry where
  level : LogLevel
  /-- The part of the program that the message comes from. -/
  target : String
  message : String
deriving DecidableEq, Repr

namespace LogEntry

/-- A message with the lines behind the first indented. -/
def indentedMessage (entry : LogEntry) : String :=
  String.ofList (entry.message.toList.flatMap fun c =>
    if c = '\n' then ['\n', ' ', ' ', ' ', ' '] else [c])

/-- A message behind its level and its target. -/
def render (entry : LogEntry) : String :=
  "[" ++ entry.level.label ++ " " ++ entry.target ++ "] " ++ entry.indentedMessage ++ "\n"

end LogEntry

namespace Log

/-- The part of the program that runs a command. -/
def commandTarget : String :=
  "arch_sentinel"

/-- The part of the program that scans a file. -/
def scannerTarget : String :=
  "arch_sentinel::scanner::cmake"

/-- The part of the program that classifies statements. -/
def classifierTarget : String :=
  "arch_sentinel::rules::classifiers"

/-- The part of the program that joins continued lines. -/
def continuationTarget : String :=
  "arch_sentinel::parser::continuation"

end Log

end ArchAudit
