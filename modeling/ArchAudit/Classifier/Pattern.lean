import ArchAudit.Classifier.Row
import ArchAudit.Text.Utf8
import ArchAudit.Text.Quoted

/-!
# Patterns

The words of a row in the order in which they are tried, and the text of the search pattern that a
row stands for.  Longer words come first, so that a word never hides a longer one that it begins;
characters with a meaning of their own in a pattern are escaped.
-/

namespace ArchAudit.Classifier

/-- The words that a row looks for: empty words are left out, and longer words, measured in bytes,
come first.  Words of the same length keep their order. -/
def orderedWords (words : List String) : List String :=
  (words.filter fun word => word ≠ "").mergeSort fun a b =>
    decide (Text.Utf8.size b.toList ≤ Text.Utf8.size a.toList)

/-- The characters with a meaning of their own in a pattern. -/
def metaCharacters : List Char :=
  ['\\', '.', '+', '*', '?', '(', ')', '|', '[', ']', '\x7b', '\x7d', '^', '$', '#', '&', '-', '~']

/-- A character as it stands in a pattern. -/
def escapeChar (c : Char) : List Char :=
  if c ∈ metaCharacters then ['\\', c] else [c]

/-- A word as it stands in a pattern. -/
def escapeWord (word : String) : String :=
  String.ofList (word.toList.flatMap escapeChar)

/-- One alternative of a pattern: a word, and the mark of a word boundary if one is wanted. -/
def alternative (wantsBoundary : Bool) (word : String) : String :=
  escapeWord word ++ if wantsBoundary then "\\b" else ""

/-- The alternatives of a pattern, or nothing if there is no word to look for. -/
def alternation (words : List String) (wantsBoundary : Bool) : Option String :=
  if (orderedWords words).isEmpty then none
  else some (String.intercalate "|" ((orderedWords words).map (alternative wantsBoundary)))

/-- The part of a row's pattern in front of its alternatives. -/
def patternLead : Row → String
  | .library => "(?:find_package|find_library)\\(("
  | .buildOption => "-m("
  | .neoverseTuning | .ampereOneTuning => "-m(cpu|tune)=("
  | .otherCondition | .aarch64Condition => "CMAKE_SYSTEM_PROCESSOR.*("

/-- The pattern of a row for a list of words, or nothing if there is no word to look for. -/
def pattern (row : Row) (words : List String) : Option String :=
  (alternation words row.wantsBoundary).map fun alternatives =>
    patternLead row ++ alternatives ++ ")"

/-- The room for one pattern, in bytes. -/
def patternRoom : Nat :=
  10485760

/-- The room that each byte of a word takes in a pattern. -/
def roomPerByte : Nat :=
  32

/-- Whether the words of a row fit into the room for one pattern. -/
def fits (words : List String) : Bool :=
  roomPerByte * Text.Utf8.size (words.flatMap String.toList) ≤ patternRoom

end ArchAudit.Classifier
