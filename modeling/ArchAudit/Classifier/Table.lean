import ArchAudit.Classifier.Search
import ArchAudit.Classifier.Pattern
import ArchAudit.Evidence
import ArchAudit.LogicalLine

/-!
# The classifier table

A table is made once from a vocabulary and then applied to every statement.  A row without words
is left out.  What a row finds in a statement is a signal; signals can be reported at once, and
they can add to the evidence about the file.
-/

namespace ArchAudit

/-- A row together with the words it looks for, in the order in which they are tried. -/
structure Classifier where
  row : Row
  words : List String
deriving DecidableEq, Repr

/-- What a row found in a statement. -/
inductive Signal where
  | library (name : String)
  | buildOption (name : String)
  | tuning (vendor : Vendor) (flag : TuningFlag) (core : String)
  | otherCondition
  | aarch64Condition
deriving DecidableEq, Repr

namespace Signal

/-- The issue that a signal reports at once. -/
def issue? : Signal → Option Issue
  | library name => some (.archSpecificLibrary name)
  | buildOption name => some (.archSpecificBuildOption name)
  | tuning .neoverse flag core => some (.vendorTuningFlag .neoverse flag.name core)
  | tuning .ampereOne _ _ => none
  | otherCondition => none
  | aarch64Condition => none

end Signal

namespace Evidence

/-- Adds what a row found in a statement. -/
def note (line : LogicalLine) (evidence : Evidence) : Signal → Evidence
  | .library _ => evidence
  | .buildOption _ => evidence
  | .tuning vendor _ _ => evidence.markTuning vendor
  | .otherCondition => evidence.recordOtherCondition line.text
  | .aarch64Condition => evidence.markAarch64

end Evidence

namespace Classifier

/-- The commands that look up a library. -/
def lookupCommands : List (Unit × List Char) :=
  [((), "find_package(".toList), ((), "find_library(".toList)]

/-- The mark of a machine option. -/
def optionMark : List (Unit × List Char) :=
  [((), "-m".toList)]

/-- The flags that name a core to tune for. -/
def tuningLeads : List (TuningFlag × List Char) :=
  [(.cpu, TuningFlag.cpu.lead.toList), (.tune, TuningFlag.tune.lead.toList)]

/-- The variable that a branch on the processor looks at. -/
def processorVariable : List Char :=
  "CMAKE_SYSTEM_PROCESSOR".toList

/-- What a classifier finds in a text. -/
def signal? (classifier : Classifier) (text : String) : Option Signal :=
  let words := classifier.words.map String.toList
  match classifier.row with
  | .library =>
    (keywordHit? lookupCommands words text.toList).map fun hit => .library (String.ofList hit.2)
  | .buildOption =>
    (keywordHit? optionMark words text.toList).map fun hit => .buildOption (String.ofList hit.2)
  | .neoverseTuning =>
    (keywordHit? tuningLeads words text.toList).map fun hit =>
      .tuning .neoverse hit.1 (String.ofList hit.2)
  | .ampereOneTuning =>
    (keywordHit? tuningLeads words text.toList).map fun hit =>
      .tuning .ampereOne hit.1 (String.ofList hit.2)
  | .otherCondition =>
    if conditionHit processorVariable words text.toList then some .otherCondition else none
  | .aarch64Condition =>
    if conditionHit processorVariable words text.toList then some .aarch64Condition else none

/-- The text of the pattern that a classifier stands for. -/
def patternText (classifier : Classifier) : String :=
  (pattern classifier.row classifier.words).getD ""

/-- A classifier in words, for diagnosis. -/
def display (classifier : Classifier) : String :=
  "Classifier \x7b name: " ++ Text.quoted classifier.row.name
    ++ ", pattern: " ++ Text.quoted classifier.patternText ++ " \x7d"

end Classifier

/-- The words of a row do not fit into one pattern. -/
structure PatternTooLarge where
  row : Row
deriving DecidableEq, Repr

namespace PatternTooLarge

/-- The reason in words. -/
def reason (_ : PatternTooLarge) : String :=
  "Compiled regex exceeds size limit of " ++ toString Classifier.patternRoom ++ " bytes."

end PatternTooLarge

/-- The classifiers made from one vocabulary, in table order. -/
abbrev Table :=
  List Classifier

namespace Table

/-- The classifier of one row, if there are words for it. -/
def compileRow (vocabulary : Vocabulary) (row : Row) : Except PatternTooLarge (Option Classifier) :=
  let words := Classifier.orderedWords (vocabulary.words row.wordList)
  if words.isEmpty then .ok none
  else if Classifier.fits words then .ok (some ⟨row, words⟩)
  else .error ⟨row⟩

/-- The classifiers of the given rows. -/
def compileRows (vocabulary : Vocabulary) : List Row → Except PatternTooLarge Table
  | [] => .ok []
  | row :: rows =>
    match compileRow vocabulary row with
    | .error tooLarge => .error tooLarge
    | .ok classifier =>
      match compileRows vocabulary rows with
      | .error tooLarge => .error tooLarge
      | .ok others => .ok (classifier.toList ++ others)

/-- The table for a vocabulary.  The first row whose words do not fit is an error. -/
def compile (vocabulary : Vocabulary) : Except PatternTooLarge Table :=
  compileRows vocabulary Row.all

/-- What the rows find in a text, in table order. -/
def signals (table : Table) (text : String) : List Signal :=
  table.filterMap fun classifier => classifier.signal? text

/-- Applies every row to a statement: the evidence after it, and the issues to report at once. -/
def classify
    (table : Table)
    (line : LogicalLine)
    (evidence : Evidence) :
    Evidence × List Issue :=
  ((table.signals line.text).foldl (Evidence.note line) evidence,
    (table.signals line.text).filterMap Signal.issue?)

end Table

end ArchAudit
