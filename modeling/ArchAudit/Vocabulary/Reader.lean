import ArchAudit.Json.Skip
import ArchAudit.Vocabulary.Basic

/-!
# Reading a vocabulary

A vocabulary file is a JSON object whose fields replace the lists of the same names.  Lists that
are not named keep their built-in words, and fields of other names are ignored.  The lists can also
be given in their written order as the items of an array.
-/

namespace ArchAudit.Vocabulary

open Json

/-! ## Values of the wrong type -/

/-- Refuses a value that is not of the expected type.  A value without structure is read first, so
that the failure can show it and stands behind it. -/
def refuse {α : Type} (expected : String) : List Char → Except Failure α
  | [] => failAt .endInValue []
  | c :: text =>
    let wrong (found : Found) (rest : List Char) : Except Failure α :=
      failBefore (.invalidType found expected) rest
    if c = 'n' then (readLetters ['u', 'l', 'l'] text).bind fun rest => wrong .null rest
    else if c = 't' then
      (readLetters ['r', 'u', 'e'] text).bind fun rest => wrong (.bool true) rest
    else if c = 'f' then
      (readLetters ['a', 'l', 's', 'e'] text).bind fun rest => wrong (.bool false) rest
    else if c = '-' then (readNumber true text).bind fun (n, rest) => wrong (.number n) rest
    else if c.isDigit then
      (readNumber false (c :: text)).bind fun (n, rest) => wrong (.number n) rest
    else if c = '"' then (readString [] text).bind fun (s, rest) => wrong (.string s) rest
    else if c = '[' then wrong .sequence (c :: text)
    else if c = '\x7b' then wrong .map (c :: text)
    else failAt .expectedValue (c :: text)

/-! ## Lists of words -/

/-- Reads one word. -/
def readWord (text : List Char) : Result String :=
  match skipSpaces text with
  | '"' :: rest => readString [] rest
  | other => refuse "a string" other

/-- What stands between two items of a list: `true` if another item follows, `false` at the closing
bracket, which stays unread. -/
def readListGap (isFirst : Bool) (text : List Char) : Result Bool :=
  match skipSpaces text with
  | [] => failAt .endInList []
  | c :: rest =>
    if c = ']' then .ok (false, c :: rest)
    else if isFirst then .ok (true, c :: rest)
    else if c = ',' then
      match skipSpaces rest with
      | [] => failAt .endInValue []
      | d :: others =>
        if d = ']' then failAt .trailingComma (d :: others) else .ok (true, d :: others)
    else failAt .expectedListCommaOrEnd (c :: rest)

/-- Reads words up to the closing bracket.  The length of the text bounds their number. -/
def readWordsFrom : Nat → List String → List Char → Result (List String)
  | 0, _, text => failAt .endInList text
  | bound + 1, words, text =>
    match readListGap words.isEmpty text with
    | .error failure => .error failure
    | .ok (false, rest) => .ok (words.reverse, rest.drop 1)
    | .ok (true, rest) =>
      match readWord rest with
      | .error failure => .error failure
      | .ok (word, rest) => readWordsFrom bound (word :: words) rest

/-- Reads a list of words. -/
def readWords (text : List Char) : Result (List String) :=
  match skipSpaces text with
  | '[' :: rest => readWordsFrom (text.length + 1) [] rest
  | other => refuse "a sequence" other

/-! ## The whole file -/

/-- The lists that have been read so far. -/
abbrev Overrides :=
  List (WordList × List String)

/-- The built-in words with the lists that were read in their place. -/
def ofOverrides (overrides : Overrides) : Vocabulary :=
  ofLists fun list => (overrides.lookup list).getD (default.words list)

/-- What stands between two fields: `true` if a key follows, `false` at the closing bracket, which
stays unread. -/
def readFieldGap (isFirst : Bool) (text : List Char) : Result Bool :=
  match skipSpaces text with
  | [] => failAt .endInObject []
  | c :: rest =>
    if c = '\x7d' then .ok (false, c :: rest)
    else if isFirst then
      if c = '"' then .ok (true, c :: rest) else failAt .keyMustBeString (c :: rest)
    else if c = ',' then
      match skipSpaces rest with
      | [] => failAt .endInValue []
      | d :: others =>
        if d = '"' then .ok (true, d :: others)
        else if d = '\x7d' then failAt .trailingComma (d :: others)
        else failAt .keyMustBeString (d :: others)
    else failAt .expectedObjectCommaOrEnd (c :: rest)

/-- Reads the colon behind a key. -/
def readColon (text : List Char) : Except Failure (List Char) :=
  match skipSpaces text with
  | [] => failAt .endInObject []
  | c :: rest => if c = ':' then .ok rest else failAt .expectedColon (c :: rest)

/-- Where a repeated field is reported: behind the blanks that follow its key, and behind a bracket
that closes the object right there. -/
def behindRepeatedKey (text : List Char) : List Char :=
  match skipSpaces text with
  | [] => []
  | c :: rest => if c = '\x7d' then rest else c :: rest

/-- Reads one field behind its key. -/
def readField (overrides : Overrides) (key : String) (text : List Char) : Result Overrides :=
  match WordList.ofKey? key with
  | some list =>
    if (overrides.lookup list).isSome then
      failBefore (.duplicateField list.key) (behindRepeatedKey text)
    else
      match readColon text with
      | .error failure => .error failure
      | .ok rest =>
        match readWords rest with
        | .error failure => .error failure
        | .ok (words, rest) => .ok ((list, words) :: overrides, rest)
  | none =>
    match readColon text with
    | .error failure => .error failure
    | .ok rest =>
      match skipValue rest with
      | .error failure => .error failure
      | .ok rest => .ok (overrides, rest)

/-- Reads fields up to the closing bracket.  The length of the text bounds their number. -/
def readFieldsFrom : Nat → Bool → Overrides → List Char → Result Overrides
  | 0, _, _, text => failAt .endInObject text
  | bound + 1, isFirst, overrides, text =>
    match readFieldGap isFirst text with
    | .error failure => .error failure
    | .ok (false, rest) => .ok (overrides, rest.drop 1)
    | .ok (true, rest) =>
      match readString [] (rest.drop 1) with
      | .error failure => .error failure
      | .ok (key, rest) =>
        match readField overrides key rest with
        | .error failure => .error failure
        | .ok (overrides, rest) => readFieldsFrom bound false overrides rest

/-- Reads the closing bracket of the array of lists. -/
def readListsEnd (text : List Char) : Except Failure (List Char) :=
  match skipSpaces text with
  | [] => failAt .endInList []
  | c :: rest =>
    if c = ']' then .ok rest
    else if c = ',' then
      match skipSpaces rest with
      | ']' :: others => failAt .trailingComma (']' :: others)
      | other => failAt .trailingCharacters other
    else failAt .trailingCharacters (c :: rest)

/-- Reads the given lists in order from the items of an array, as far as there are items. -/
def readListsFrom (isFirst : Bool) (overrides : Overrides) :
    List WordList → List Char → Result Overrides
  | [], text => (readListsEnd text).map fun rest => (overrides, rest)
  | list :: lists, text =>
    match readListGap isFirst text with
    | .error failure => .error failure
    | .ok (false, rest) => .ok (overrides, rest.drop 1)
    | .ok (true, rest) =>
      match readWords rest with
      | .error failure => .error failure
      | .ok (words, rest) => readListsFrom false ((list, words) :: overrides) lists rest

/-- Reads the lists of a vocabulary. -/
def readOverrides (text : List Char) : Result Overrides :=
  match skipSpaces text with
  | '[' :: rest => readListsFrom true [] WordList.all rest
  | '\x7b' :: rest => readFieldsFrom (text.length + 1) true [] rest
  | other => refuse "struct Vocabulary" other

/-- Reads a vocabulary from the text of a file. -/
def parse (text : String) : Except Failure Vocabulary :=
  match readOverrides text.toList with
  | .error failure => .error failure
  | .ok (overrides, rest) =>
    match skipSpaces rest with
    | [] => .ok (ofOverrides overrides)
    | other => failAt .trailingCharacters other

end ArchAudit.Vocabulary
