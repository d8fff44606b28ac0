import ArchAudit.Text.WordChar

/-!
# Searching a statement

Two ways to look for the words of a vocabulary in a statement.  `keywordHit?` looks for a word right
behind a keyword, leftmost place first and longer words before shorter ones, with a word boundary
behind the word.  `reachesWord` looks for a word anywhere behind a keyword on the same line.
-/

namespace ArchAudit.Classifier

/-- What follows a word at the front of a text. -/
def after? : List Char → List Char → Option (List Char)
  | [], text => some text
  | _ :: _, [] => none
  | c :: word, d :: text => if c = d then after? word text else none

/-- A word stands at the front of a text exactly if the text is the word and the rest. -/
theorem after?_eq_some_iff (word : List Char) :
    ∀ text rest : List Char, after? word text = some rest ↔ text = word ++ rest := by
  induction word with
  | nil => simp [after?]
  | cons c word ih =>
    intro text rest
    cases text with
    | nil => simp [after?]
    | cons d text =>
      by_cases same : c = d
      · simp [after?, same, ih]
      · simp [after?, same, Ne.symm same]

/-- Whether a word stands at the front of a text and ends at a word boundary. -/
def endsAtBoundary (word text : List Char) : Bool :=
  (after? word text).any fun rest => Text.isBoundary word.getLast? rest.head?

/-- The first of the words that stands at the front of a text and ends at a word boundary. -/
def wordAt? (words : List (List Char)) (text : List Char) : Option (List Char) :=
  words.find? fun word => endsAtBoundary word text

/-- A keyword at the front of a text with a word right behind it.  Keywords are tried in order;
each carries a tag that says which of them was found. -/
def keywordAt?
    {κ : Type}
    (keywords : List (κ × List Char))
    (words : List (List Char))
    (text : List Char) :
    Option (κ × List Char) :=
  keywords.findSome? fun keyword =>
    (after? keyword.2 text).bind fun rest =>
      (wordAt? words rest).map fun word => (keyword.1, word)

/-- The leftmost place at which a keyword stands with a word right behind it. -/
def keywordHit?
    {κ : Type}
    (keywords : List (κ × List Char))
    (words : List (List Char)) :
    List Char → Option (κ × List Char)
  | [] => keywordAt? keywords words []
  | c :: rest =>
    match keywordAt? keywords words (c :: rest) with
    | some hit => some hit
    | none => keywordHit? keywords words rest

/-- Whether one of the words begins somewhere in a text, before or at its first newline. -/
def reachesWord (words : List (List Char)) : List Char → Bool
  | [] => words.any fun word => (after? word []).isSome
  | c :: rest =>
    words.any (fun word => (after? word (c :: rest)).isSome)
      || (c != '\n' && reachesWord words rest)

/-- Whether a keyword stands somewhere in a text with one of the words behind it and no newline
between the two. -/
def conditionHit (keyword : List Char) (words : List (List Char)) : List Char → Bool
  | [] => (after? keyword []).any (reachesWord words)
  | c :: rest =>
    (after? keyword (c :: rest)).any (reachesWord words) || conditionHit keyword words rest

end ArchAudit.Classifier
