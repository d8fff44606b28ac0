import ArchAudit.Vocabulary.Basic

/-!
# Rows of the classifier table

The table has six rows in a fixed order.  A row looks for the words of one list of the vocabulary
in one kind of surroundings.
-/

namespace ArchAudit

/-- The rows of the classifier table. -/
inductive Row where
  | library
  | buildOption
  | neoverseTuning
  | ampereOneTuning
  | otherCondition
  | aarch64Condition
deriving DecidableEq, Repr

namespace Row

/-- All rows in the order in which they are applied. -/
def all : List Row :=
  [library, buildOption, neoverseTuning, ampereOneTuning, otherCondition, aarch64Condition]

/-- The name of a row. -/
def name : Row → String
  | library => "arch-specific-library"
  | buildOption => "arch-specific-build-option"
  | neoverseTuning => "neoverse-tuning-flag"
  | ampereOneTuning => "ampereone-tuning-flag"
  | otherCondition => "other-arch-cpu-condition"
  | aarch64Condition => "aarch64-cpu-condition"

/-- The list whose words a row looks for. -/
def wordList : Row → WordList
  | library => .libraries
  | buildOption => .buildOptions
  | neoverseTuning => .neoverseCores
  | ampereOneTuning => .ampereOneCores
  | otherCondition => .otherProcessors
  | aarch64Condition => .aarch64Processors

/-- Whether a word has to end at a word boundary. -/
def wantsBoundary : Row → Bool
  | library | buildOption | neoverseTuning | ampereOneTuning => true
  | otherCondition | aarch64Condition => false

end Row

/-- The two flags that name a core to tune for. -/
inductive TuningFlag where
  | cpu
  | tune
deriving DecidableEq, Repr

namespace TuningFlag

/-- The name of a flag. -/
def name : TuningFlag → String
  | cpu => "cpu"
  | tune => "tune"

/-- The text in front of the name of the core. -/
def lead : TuningFlag → String
  | cpu => "-mcpu="
  | tune => "-mtune="

end TuningFlag

end ArchAudit
