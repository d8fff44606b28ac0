import ArchAudit.Json.Printer
import ArchAudit.Vocabulary.Basic

/-!
# Writing a vocabulary

A vocabulary is written as a JSON object with all six lists in their order.
-/

namespace ArchAudit.Vocabulary

/-- The vocabulary as a JSON value. -/
def toJson (vocabulary : Vocabulary) : Json.Value :=
  .object (WordList.all.map fun list => (list.key, .strings (vocabulary.words list)))

/-- The vocabulary as the text of a file. -/
def render (vocabulary : Vocabulary) : String :=
  vocabulary.toJson.indented ++ "\n"

end ArchAudit.Vocabulary
