import ArchAudit.Command.Parameter
import ArchAudit.Text.Split

/-!
# Arguments

Reads the words of a command line from left to right.  A value that stands in a word of its own is
checked when the next option or the path begins, or at the end; a word that cannot be an argument
at all is refused at once.
-/

namespace ArchAudit

/-- The settings of a scan. -/
structure ScanOptions where
  path : String
  noRecursive : Bool
  format : OutputFormat
  output : Option String
  severity : Option String
  exclude : List String
  only : List String
  vocabulary : Option String
  ignore : List String
deriving DecidableEq, Repr

/-- What the user asks for. -/
inductive Command where
  | scan (options : ScanOptions)
  | list
  | vocabulary (path : Option String)
  | version
deriving DecidableEq, Repr

namespace Arguments

/-- The arguments that have been read. -/
structure Draft where
  /-- Checked arguments with their values, first one first. -/
  given : List (Parameter × String)
  /-- The last argument, if it is not checked yet, and its value, if it has one yet. -/
  pending : Option (Parameter × Option String)
deriving DecidableEq, Repr

namespace Draft

/-- Nothing has been read. -/
def empty : Draft :=
  ⟨[], none⟩

/-- The values given for a parameter. -/
def values (draft : Draft) (parameter : Parameter) : List String :=
  (draft.given.filter fun argument => argument.1 = parameter).map Prod.snd

/-- Whether a parameter has been given. -/
def has (draft : Draft) (parameter : Parameter) : Bool :=
  draft.given.any fun argument => argument.1 = parameter

end Draft

/-- Whether a value can be given for a parameter.  A format has to be a known one, and paths of
files must not be empty. -/
def isValidValue : Parameter → String → Bool
  | .format, value => (OutputFormat.ofName? value).isSome
  | .path, value => value ≠ ""
  | .output, value => value ≠ ""
  | .vocabulary, value => value ≠ ""
  | _, _ => true

/-- Adds an argument with its value, after the checks: most parameters can be given once only. -/
def add (draft : Draft) (parameter : Parameter) (value : String) : Except UsageError Draft :=
  if !parameter.isRepeatable && draft.has parameter then .error .argumentConflict
  else if !isValidValue parameter value then .error .invalidValue
  else .ok ⟨draft.given ++ [(parameter, value)], none⟩

/-- Checks the argument that is pending. -/
def settle (draft : Draft) : Except UsageError Draft :=
  match draft.pending with
  | none => .ok draft
  | some (_, none) => .error .invalidValue
  | some (parameter, some value) => add ⟨draft.given, none⟩ parameter value

/-- Settles what is pending and goes on. -/
def settleThen {α : Type} (draft : Draft) (next : Draft → Except UsageError α) :
    Except UsageError α :=
  match settle draft with
  | .error failure => .error failure
  | .ok settled => next settled

/-- Takes an option, with the value attached to it, if there is one. -/
def takeOption (draft : Draft) (parameter : Parameter) (attached : Option String) :
    Except UsageError Draft :=
  match parameter.takesValue, attached with
  | false, some _ => .error .tooManyValues
  | false, none => settleThen draft fun settled => add settled parameter ""
  | true, some value => settleThen draft fun settled => add settled parameter value
  | true, none =>
    settleThen draft fun settled => .ok { settled with pending := some (parameter, none) }

/-- Takes a word that is neither an option nor the value of one. -/
def takePositional (command : CommandName) (pathTaken : Bool) (draft : Draft) (word : String) :
    Except UsageError Draft :=
  if Parameter.path ∈ command.parameters ∧ !pathTaken then
    settleThen draft fun settled => .ok { settled with pending := some (.path, some word) }
  else .error .unknownArgument

/-- A word in the form of an option. -/
inductive OptionWord where
  /-- Two dashes, a name, and a value behind an equals sign, if there is one. -/
  | long (name : String) (attached : Option String)
  /-- A dash, a letter, and what follows the letter. -/
  | short (letter : Char) (rest : List Char)
deriving DecidableEq, Repr

/-- The part of a word in front of the first equals sign, and the part behind it, if there is
one. -/
def splitEquals (word : List Char) : List Char × Option (List Char) :=
  match word.dropWhile (· ≠ '=') with
  | [] => (word, none)
  | _ :: behind => (word.takeWhile (· ≠ '='), some behind)

/-- Reads a word in the form of an option; a single dash is an ordinary word. -/
def OptionWord.ofWord? (word : String) : Option OptionWord :=
  match word.toList with
  | '-' :: '-' :: rest =>
    let (name, attached) := splitEquals rest
    some (.long (String.ofList name) (attached.map String.ofList))
  | '-' :: letter :: rest => some (.short letter rest)
  | _ => none

/-- The value attached to a letter: one equals sign in front does not count. -/
def attachedToLetter : List Char → Option String
  | [] => none
  | '=' :: value => some (String.ofList value)
  | value => some (String.ofList value)

/-- The parameter of a command with a given long name. -/
def findLong? (command : CommandName) (name : String) : Option Parameter :=
  command.parameters.find? fun parameter => parameter.longName? = some name

/-- The parameter of a command with a given letter. -/
def findShort? (command : CommandName) (letter : Char) : Option Parameter :=
  command.parameters.find? fun parameter => parameter.letter? = some letter

/-- Asks for help or for the version, if an option does so. -/
def request? (command : Option CommandName) : OptionWord → Option UsageError
  | .long "help" none => some .displayHelp
  | .long "version" none => some (.displayVersion command)
  | .long "help" (some _) => some .tooManyValues
  | .long "version" (some _) => some .tooManyValues
  | .short 'h' _ => some .displayHelp
  | .short 'V' _ => some (.displayVersion command)
  | _ => none

/-- Takes an option of a command.  What is pending comes before a request for help or the
version. -/
def takeOptionWord (command : CommandName) (draft : Draft) (word : OptionWord) :
    Except UsageError Draft :=
  match request? (some command) word with
  | some .tooManyValues => .error .tooManyValues
  | some request => settleThen draft fun _ => .error request
  | none =>
    match word with
    | .long name attached =>
      match findLong? command name with
      | some parameter => takeOption draft parameter attached
      | none => .error .unknownArgument
    | .short letter rest =>
      match findShort? command letter with
      | some parameter => takeOption draft parameter (attachedToLetter rest)
      | none => .error .unknownArgument

/-- Whether the pending option still waits for its value. -/
def awaited? (draft : Draft) : Option Parameter :=
  match draft.pending with
  | some (parameter, none) => some parameter
  | _ => none

/-- Whether a path has been read, checked or not. -/
def pathTaken (draft : Draft) : Bool :=
  draft.has .path || draft.pending.any fun argument => argument.1 = .path

/-- Reads words behind two dashes: all of them are ordinary words. -/
def readTrailing (command : CommandName) : Draft → List String → Except UsageError Draft
  | draft, [] => settle draft
  | draft, word :: words =>
    match takePositional command (pathTaken draft) draft word with
    | .error failure => .error failure
    | .ok draft => readTrailing command draft words

/-- Reads the words behind the name of a command. -/
def readWords (command : CommandName) : Draft → List String → Except UsageError Draft
  | draft, [] => settle draft
  | draft, word :: words =>
    if word = "--" then readTrailing command draft words
    else
      let next : Except UsageError Draft :=
        match OptionWord.ofWord? word, awaited? draft with
        | some option, _ => takeOptionWord command draft option
        | none, some parameter => .ok { draft with pending := some (parameter, some word) }
        | none, none => takePositional command (pathTaken draft) draft word
      match next with
      | .error failure => .error failure
      | .ok draft => readWords command draft words

/-- The settings of a scan, if the path is there. -/
def scanOptions (draft : Draft) : Except UsageError ScanOptions :=
  match (draft.values .path).head? with
  | none => .error .missingRequiredArgument
  | some path =>
    .ok
      { path := path
        noRecursive := draft.has .noRecursive
        format := ((draft.values .format).head?.bind OutputFormat.ofName?).getD .terminal
        output := (draft.values .output).head?
        severity := (draft.values .severity).head?
        exclude := (draft.values .exclude).flatMap (Text.splitText ',')
        only := (draft.values .only).flatMap (Text.splitText ',')
        vocabulary := (draft.values .vocabulary).head?
        ignore := draft.values .ignore }

/-- The command for the arguments that have been read. -/
def toCommand (draft : Draft) : CommandName → Except UsageError Command
  | .scan =>
    match scanOptions draft with
    | .error failure => .error failure
    | .ok options => .ok (.scan options)
  | .list => .ok .list
  | .vocabulary => .ok (.vocabulary (draft.values .vocabulary).head?)
  | .version => .ok .version

/-- Reads the arguments of a command. -/
def parseCommand (command : CommandName) (words : List String) : Except UsageError Command :=
  match readWords command .empty words with
  | .error failure => .error failure
  | .ok draft => toCommand draft command

/-- Whether a word names a command, the request for help included. -/
def isCommandWord (word : String) : Bool :=
  (CommandName.ofName? word).isSome || word = "help"

/-- The outcome of asking for help: behind `help` can stand the name of one command. -/
def parseHelp : List String → UsageError
  | [] => .displayHelp
  | [word] => if isCommandWord word then .displayHelp else .invalidSubcommand
  | _ => .invalidSubcommand

/-- What is wrong with words behind two dashes when no command has been named: a command has to
stand in front of the dashes, and any other word is not a command. -/
def parseDashed : List String → UsageError
  | [] => .missingCommand
  | word :: _ => if isCommandWord word then .unknownArgument else .invalidSubcommand

/-- Reads a command line, without the name of the program. -/
def parse : List String → Except UsageError Command
  | [] => .error .missingCommand
  | word :: words =>
    if word = "--" then .error (parseDashed words)
    else
      match OptionWord.ofWord? word with
      | some option => .error ((request? none option).getD .unknownArgument)
      | none =>
        match CommandName.ofName? word with
        | some command => parseCommand command words
        | none => if word = "help" then .error (parseHelp words) else .error .invalidSubcommand

end Arguments

end ArchAudit
