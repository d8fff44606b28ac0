import ArchAudit.Text.Quoted
import ArchAudit.Text.Utf8
import ArchAudit.Json.Number

/-!
# Failures of a JSON reader

A failure names its cause and the place at which reading stopped.  The place is kept as the text
that was still unread, together with the number of bytes beyond it that the reader had already
looked at; line and column are worked out when the failure is shown.
-/

namespace ArchAudit.Json

/-- What stood in the place of an expected value. -/
inductive Found where
  | null
  | bool (value : Bool)
  | number (value : Number)
  | string (value : String)
  | sequence
  | map

namespace Found

/-- The found value in words. -/
def describe : Found → String
  | null => "null"
  | bool true => "boolean `true`"
  | bool false => "boolean `false`"
  | number (.integer n) => "integer `" ++ toString n ++ "`"
  | number (.real x) => "floating point `" ++ Number.realText x ++ "`"
  | string text => "string " ++ Text.quoted text
  | sequence => "sequence"
  | map => "map"

end Found

/-- Why a text is not accepted. -/
inductive Reason where
  | endInValue
  | endInList
  | endInObject
  | endInString
  | expectedValue
  | expectedColon
  | expectedListCommaOrEnd
  | expectedObjectCommaOrEnd
  | expectedIdent
  | trailingComma
  | trailingCharacters
  | keyMustBeString
  | invalidNumber
  | numberOutOfRange
  | invalidEscape
  | loneSurrogate
  | endOfSurrogatePair
  | controlCharacter
  | duplicateField (name : String)
  | invalidType (found : Found) (expected : String)

namespace Reason

/-- The reason in words. -/
def message : Reason → String
  | endInValue => "EOF while parsing a value"
  | endInList => "EOF while parsing a list"
  | endInObject => "EOF while parsing an object"
  | endInString => "EOF while parsing a string"
  | expectedValue => "expected value"
  | expectedColon => "expected `:`"
  | expectedListCommaOrEnd => "expected `,` or `]`"
  | expectedObjectCommaOrEnd => "expected `,` or `\x7d`"
  | expectedIdent => "expected ident"
  | trailingComma => "trailing comma"
  | trailingCharacters => "trailing characters"
  | keyMustBeString => "key must be a string"
  | invalidNumber => "invalid number"
  | numberOutOfRange => "number out of range"
  | invalidEscape => "invalid escape"
  | loneSurrogate => "lone leading surrogate in hex escape"
  | endOfSurrogatePair => "unexpected end of hex escape"
  | controlCharacter => "control character (\\u0000-\\u001F) found while parsing a string"
  | duplicateField name => "duplicate field `" ++ name ++ "`"
  | invalidType found expected =>
    "invalid type: " ++ found.describe ++ ", expected " ++ expected

end Reason

/-- A reason together with the place at which reading stopped. -/
structure Failure where
  reason : Reason
  /-- The text that was still unread. -/
  unread : List Char
  /-- How many bytes of the unread text count as read. -/
  ahead : Nat

namespace Failure

/-- The number of bytes in front of the place, at most the whole text. -/
def offset (text : List Char) (failure : Failure) : Nat :=
  let total := Text.Utf8.size text
  min total (total - Text.Utf8.size failure.unread + failure.ahead)

/-- The line and the column that follow a number of bytes: lines count from one, and the column is
the number of bytes since the last newline. -/
def lineAndColumn (bytes : List UInt8) : Nat × Nat :=
  bytes.foldl
    (fun (place : Nat × Nat) byte =>
      if byte = 10 then (place.1 + 1, 0) else (place.1, place.2 + 1))
    (1, 0)

/-- The failure in words, with its place in the text. -/
def message (text : List Char) (failure : Failure) : String :=
  let bytes := Text.Utf8.encode (String.ofList text)
  let (line, column) := lineAndColumn (bytes.take (failure.offset text))
  failure.reason.message ++ " at line " ++ toString line ++ " column " ++ toString column

end Failure

/-- What a reader gives: a value and the rest of the text, or a failure. -/
abbrev Result (α : Type) :=
  Except Failure (α × List Char)

/-- A failure at the next character, which has been looked at. -/
def failAt {α : Type} (reason : Reason) (unread : List Char) : Except Failure α :=
  .error ⟨reason, unread, 1⟩

/-- A failure right behind what has been read. -/
def failBefore {α : Type} (reason : Reason) (unread : List Char) : Except Failure α :=
  .error ⟨reason, unread, 0⟩

end ArchAudit.Json
