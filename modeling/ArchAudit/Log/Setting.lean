import ArchAudit.Log.Basic
import ArchAudit.Regex.Parser
import ArchAudit.Text.Split

/-!
# Log settings

A setting selects the messages that are shown.  It is a list of parts between commas, each a level
for all targets, a target, or a target and its level; behind a slash can stand a regular expression
for the text of the messages.  The part with the longest name that a target starts with decides.
-/

namespace ArchAudit

/-- The least important level that is shown; `none` shows nothing. -/
abbrev LogThreshold :=
  Option LogLevel

namespace LogThreshold

/-- The threshold with a given name.  The case of letters does not matter. -/
def ofName? (name : String) : Option LogThreshold :=
  let key := name.map Char.toLower
  if key = "off" then some none else (LogLevel.ofKey? key).map some

/-- Whether messages of a level are shown. -/
def shows (threshold : LogThreshold) (level : LogLevel) : Bool :=
  threshold.any fun least => level.rank ≤ least.rank

end LogThreshold

/-- One part of a setting. -/
structure LogDirective where
  /-- The beginning of the names of the targets that the part is about. -/
  target : String
  threshold : LogThreshold
deriving DecidableEq, Repr

namespace LogDirective

/-- Whether the part is about a target. -/
def covers (directive : LogDirective) (target : String) : Bool :=
  directive.target.toList.isPrefixOf target.toList

/-- Reads one part of a setting.  A word that names no level is a target, and a target without a
level shows everything.  What cannot be read is given back. -/
def parse (part : String) : Except String LogDirective :=
  match Text.splitText '=' part with
  | [word] => .ok (((LogThreshold.ofName? word).map (⟨"", ·⟩)).getD ⟨word, some .trace⟩)
  | [target, level] =>
    let name := Text.trimmed level
    if name = "" then .ok ⟨target, some .trace⟩
    else
      match LogThreshold.ofName? name with
      | some threshold => .ok ⟨target, threshold⟩
      | none => .error name
  | _ => .error part

end LogDirective

/-- What is wrong with a setting. -/
inductive LogSettingFault where
  /-- The setting has more than one slash. -/
  | slashes (setting : String)
  /-- A part, or the level in it, cannot be read. -/
  | part (text : String)
  /-- The regular expression is malformed. -/
  | pattern (text : String) (cause : RegexError)
deriving DecidableEq, Repr

namespace LogSettingFault

/-- The warning about a fault, which is left out of the setting. -/
def render : LogSettingFault → String
  | slashes setting =>
    "warning: invalid logging spec '" ++ setting ++ "', ignoring it (too many '/'s)\n"
  | part text => "warning: invalid logging spec '" ++ text ++ "', ignoring it\n"
  | pattern text cause => "warning: invalid regex filter - " ++ cause.message text ++ "\n"

end LogSettingFault

/-- Which messages are shown. -/
structure LogFilter where
  directives : List LogDirective
  /-- What has to occur in the text of a message. -/
  pattern : Option Regex
deriving DecidableEq, Repr

namespace LogFilter

/-- The part that decides about a target: among those about it the one with the longest name, and of
several with names of that length the last. -/
def decisive? (filter : LogFilter) (target : String) : Option LogDirective :=
  (filter.directives.filter fun directive => directive.covers target).foldl
    (fun best directive =>
      match best with
      | none => some directive
      | some other =>
        if other.target.length ≤ directive.target.length then some directive else some other)
    none

/-- Whether a message is shown. -/
def shows (filter : LogFilter) (entry : LogEntry) : Bool :=
  (filter.decisive? entry.target).any (fun directive => directive.threshold.shows entry.level)
    && filter.pattern.all (fun regex => regex.isMatch entry.message)

/-- The messages that are shown, each with its level and target. -/
def render (filter : LogFilter) (entries : List LogEntry) : String :=
  String.join ((entries.filter filter.shows).map LogEntry.render)

/-- The filter of some parts; without parts, errors are shown. -/
def ofDirectives (directives : List LogDirective) (pattern : Option Regex) : LogFilter :=
  ⟨if directives.isEmpty then [⟨"", some .error⟩] else directives, pattern⟩

/-- The parts of a setting that are not blank, without the blanks around them. -/
def parts (text : String) : List String :=
  ((Text.splitText ',' text).map Text.trimmed).filter (· ≠ "")

/-- Reads the parts of a setting: those that can be read, and the faults of the others. -/
def readParts (parts : List String) : List LogDirective × List LogSettingFault :=
  (parts.filterMap fun part => (LogDirective.parse part).toOption,
    parts.filterMap fun part =>
      match LogDirective.parse part with
      | .ok _ => none
      | .error text => some (.part text))

/-- Reads a setting: the filter, and the faults that were left out of it. -/
def parse (setting : String) : LogFilter × List LogSettingFault :=
  match Text.splitText '/' setting with
  | [targets] =>
    let (directives, faults) := readParts (parts targets)
    (ofDirectives directives none, faults)
  | [targets, pattern] =>
    let (directives, faults) := readParts (parts targets)
    match Regex.parse pattern with
    | .ok regex => (ofDirectives directives (some regex), faults)
    | .error cause => (ofDirectives directives none, faults ++ [.pattern pattern cause])
  | _ => (ofDirectives [] none, [.slashes setting])

/-- The filter of a setting; warnings are shown if there is none. -/
def ofSetting (setting : Option String) : LogFilter × List LogSettingFault :=
  parse (setting.getD "warn")

end LogFilter

end ArchAudit
