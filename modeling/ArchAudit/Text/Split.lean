/-!
# Splitting at a character

Cuts a text at every occurrence of a separator.  Empty pieces are kept, so there is always one
piece more than there are separators.
-/

namespace ArchAudit.Text

/-- The pieces of a sequence between the separators. -/
def splitList (separator : Char) : List Char → List (List Char)
  | [] => [[]]
  | c :: rest =>
    if c = separator then [] :: splitList separator rest
    else
      match splitList separator rest with
      | [] => [[c]]
      | piece :: others => (c :: piece) :: others

/-- The pieces of a text between the separators. -/
def splitText (separator : Char) (text : String) : List String :=
  (splitList separator text.toList).map String.ofList

end ArchAudit.Text
