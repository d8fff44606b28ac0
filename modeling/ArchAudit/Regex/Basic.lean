import ArchAudit.Text.Blank
import ArchAudit.Text.Digit
import ArchAudit.Text.WordChar

/-!
# Regular expressions

Expressions over characters with conditions on the place of a match, and the search for a match
anywhere in a text.  The search reads the text once: at every place it holds what is still left to
match of the expressions that have been started, and it ends as soon as nothing has to follow.
-/

namespace ArchAudit

/-- A set of characters. -/
inductive CharSet where
  | range (first last : Char)
  | digit
  | blank
  | word
  | union (left right : CharSet)
  | inter (left right : CharSet)
  | complement (chars : CharSet)
  /-- The members of a set and the same ASCII letters in the other case. -/
  | caseless (chars : CharSet)
deriving DecidableEq, Repr

namespace CharSet

/-- Whether a character belongs to the set. -/
def contains : CharSet → Char → Bool
  | range first last, c => first ≤ c && c ≤ last
  | digit, c => Text.isDecimalDigit c
  | blank, c => Text.isBlank c
  | word, c => Text.isWordChar c
  | union left right, c => left.contains c || right.contains c
  | inter left right, c => left.contains c && right.contains c
  | complement chars, c => !chars.contains c
  | caseless chars, c =>
    chars.contains c || chars.contains c.toLower || chars.contains c.toUpper

/-- The set of one character. -/
def single (c : Char) : CharSet :=
  range c c

/-- The set without members. -/
def nothing : CharSet :=
  inter word (complement word)

/-- The members of one set that are not in another. -/
def difference (left right : CharSet) : CharSet :=
  inter left (complement right)

/-- The members of exactly one of two sets. -/
def symmetricDifference (left right : CharSet) : CharSet :=
  union (difference left right) (difference right left)

/-- Every character. -/
def anything : CharSet :=
  union word (complement word)

/-- Every character but the newline. -/
def notNewline : CharSet :=
  complement (single '\n')

end CharSet

/-- A condition on the place between two characters. -/
inductive Anchor where
  | textStart
  | textEnd
  | lineStart
  | lineEnd
  | boundary
  | noBoundary
  | wordStart
  | wordEnd
deriving DecidableEq, Repr

namespace Anchor

/-- Whether the condition holds between two neighbours; an end of the text has no neighbour. -/
def holds (before after : Option Char) : Anchor → Bool
  | textStart => before.isNone
  | textEnd => after.isNone
  | lineStart => before.isNone || before = some '\n'
  | lineEnd => after.isNone || after = some '\n'
  | boundary => Text.isBoundary before after
  | noBoundary => !Text.isBoundary before after
  | wordStart => !before.any Text.isWordChar && after.any Text.isWordChar
  | wordEnd => before.any Text.isWordChar && !after.any Text.isWordChar

end Anchor

/-- A regular expression. -/
inductive Regex where
  | empty
  | oneOf (set : CharSet)
  | anchor (condition : Anchor)
  | seq (first second : Regex)
  | alt (left right : Regex)
  /-- At least and, if there is a bound, at most so many matches one after the other. -/
  | repeated (body : Regex) (least : Nat) (most : Option Nat)
deriving DecidableEq, Repr

namespace Regex

/-- One expression behind another. -/
def andThen (first second : Regex) : Regex :=
  if first = empty then second else seq first second

/-- Expressions one behind the other. -/
def seqAll (parts : List Regex) : Regex :=
  parts.foldr andThen empty

/-- The choice between a first expression and others. -/
def altAll (first : Regex) (others : List Regex) : Regex :=
  others.foldl alt first

/-- Whether an expression matches the empty text at a place. -/
def matchesEmpty (before after : Option Char) : Regex → Bool
  | empty => true
  | oneOf _ => false
  | anchor condition => condition.holds before after
  | seq first second => first.matchesEmpty before after && second.matchesEmpty before after
  | alt left right => left.matchesEmpty before after || right.matchesEmpty before after
  | repeated body least _ => least = 0 || body.matchesEmpty before after

/-- What can be left to match of an expression behind a character.  If the body of a repetition
matches the empty text in front of the character, all matches that still have to follow can do
so. -/
def derivatives (before : Option Char) (c : Char) : Regex → List Regex
  | empty => []
  | oneOf set => if set.contains c then [empty] else []
  | anchor _ => []
  | seq first second =>
    (first.derivatives before c).map (fun rest => andThen rest second)
      ++ (if first.matchesEmpty before (some c) then second.derivatives before c else [])
  | alt left right => left.derivatives before c ++ right.derivatives before c
  | repeated body least most =>
    if most = some 0 then []
    else
      let others :=
        repeated body (if body.matchesEmpty before (some c) then 0 else least - 1)
          (most.map (· - 1))
      (body.derivatives before c).map fun rest => andThen rest others

/-- Whether one of the started expressions ends, or the given expression matches, at this place or
further on. -/
def search (regex : Regex) : Option Char → List Regex → List Char → Bool
  | before, started, [] => (regex :: started).any (matchesEmpty before none)
  | before, started, c :: text =>
    (regex :: started).any (matchesEmpty before (some c))
      || search regex (some c)
        ((regex :: started).flatMap (derivatives before c)).eraseDups text

/-- Whether an expression matches somewhere in a text. -/
def isMatch (regex : Regex) (text : String) : Bool :=
  regex.search none [] text.toList

end Regex

end ArchAudit
