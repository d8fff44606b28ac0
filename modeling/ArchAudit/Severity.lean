import ArchAudit.Text.Style

/-!
# Severity levels

How much a finding matters, and the words, labels and badges that stand for a level in the
different kinds of report.
-/

namespace ArchAudit

/-- How much a finding matters, from least to most. -/
inductive Severity where
  | info
  | low
  | medium
  | high
deriving DecidableEq, Repr

namespace Severity

/-- The place of a level in the order. -/
def rank : Severity → Nat
  | info => 0
  | low => 1
  | medium => 2
  | high => 3

instance : LE Severity :=
  ⟨fun a b => a.rank ≤ b.rank⟩

instance (a b : Severity) : Decidable (a ≤ b) :=
  inferInstanceAs (Decidable (a.rank ≤ b.rank))

/-- All levels, least first. -/
def all : List Severity :=
  [info, low, medium, high]

/-- The name of a level in running text. -/
def name : Severity → String
  | info => "Info"
  | low => "Low"
  | medium => "Medium"
  | high => "High"

/-- The name of a level in structured data. -/
def key : Severity → String
  | info => "info"
  | low => "low"
  | medium => "medium"
  | high => "high"

/-- The level with a given name in structured data. -/
def ofKey? (key : String) : Option Severity :=
  all.find? fun severity => severity.key == key

/-- The level that a user asks for; any word that names no level asks for the least.  Letter case
does not matter.  No character outside ASCII has one of the letters of these names as its
lower-case form, so lower-casing the ASCII letters decides. -/
def ofText (text : String) : Severity :=
  (ofKey? (text.map Char.toLower)).getD info

/-- The name of a level in a workflow annotation. -/
def annotationLevel : Severity → String
  | info => "notice"
  | low => "notice"
  | medium => "warning"
  | high => "error"

/-- The badge of a level in a Markdown document. -/
def badge : Severity → String
  | info => "![Info](https://img.shields.io/badge/severity-INFO-lightgrey)"
  | low => "![Low](https://img.shields.io/badge/severity-LOW-blue)"
  | medium => "![Medium](https://img.shields.io/badge/severity-MEDIUM-yellow)"
  | high => "![High](https://img.shields.io/badge/severity-HIGH-orange)"

/-- The text of the label of a level on a terminal. -/
def labelText : Severity → String
  | info => "INFO"
  | low => "LOW"
  | medium => "MEDIUM"
  | high => "HIGH"

/-- The style of the label of a level on a terminal. -/
def labelStyle : Severity → Text.Style
  | info => ⟨false, false, some .brightWhite, some .black⟩
  | low => ⟨true, false, some .white, some .black⟩
  | medium => ⟨true, false, some .brightBlue, some .white⟩
  | high => ⟨true, false, some .yellow, some .black⟩

/-- The label of a level on a terminal. -/
def label (coloured : Bool) (severity : Severity) : String :=
  severity.labelStyle.paint coloured severity.labelText

/-- Levels in ascending order. -/
def sort (severities : List Severity) : List Severity :=
  severities.mergeSort fun a b => decide (a ≤ b)

end Severity

end ArchAudit
