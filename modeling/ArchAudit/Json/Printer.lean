import ArchAudit.Json.Value

/-!
# Writing JSON

The compact form has no blanks at all.  The indented form puts every item and every field on a line
of its own, two spaces deeper than the bracket around it; an empty array or object stays on one
line.  Strings escape the quote, the backslash and the control characters, and nothing else.
-/

namespace ArchAudit.Json

/-- A hexadecimal digit. -/
def hexDigit (n : Nat) : Char :=
  Nat.digitChar (n % 16)

/-- One character as it stands inside a string. -/
def escapedChar (c : Char) : List Char :=
  if c = '"' then ['\\', '"']
  else if c = '\\' then ['\\', '\\']
  else if c = '\x08' then ['\\', 'b']
  else if c = '\x0c' then ['\\', 'f']
  else if c = '\n' then ['\\', 'n']
  else if c = '\r' then ['\\', 'r']
  else if c = '\t' then ['\\', 't']
  else if c.toNat < 0x20 then
    ['\\', 'u', '0', '0', hexDigit (c.toNat / 16), hexDigit c.toNat]
  else [c]

/-- A string with its quotes. -/
def writeString (text : String) : List Char :=
  ['"'] ++ text.toList.flatMap escapedChar ++ ['"']

/-- A line break and the indentation of a level. -/
def newline (level : Nat) : List Char :=
  '\n' :: List.replicate (2 * level) ' '

/-- A truth value. -/
def writeBool (value : Bool) : List Char :=
  if value then "true".toList else "false".toList

mutual

/-- The compact form of a value. -/
def writeCompact : Value → List Char
  | .array items => ['['] ++ writeCompactItems items ++ [']']
  | .object fields => ['\x7b'] ++ writeCompactFields fields ++ ['\x7d']
  | .null => "null".toList
  | .bool b => writeBool b
  | .number n => n.text.toList
  | .string text => writeString text

/-- The compact form of the items of an array. -/
def writeCompactItems : List Value → List Char
  | [] => []
  | [item] => writeCompact item
  | item :: items => writeCompact item ++ [','] ++ writeCompactItems items

/-- The compact form of the fields of an object. -/
def writeCompactFields : List (String × Value) → List Char
  | [] => []
  | [(name, value)] => writeString name ++ [':'] ++ writeCompact value
  | (name, value) :: fields =>
    writeString name ++ [':'] ++ writeCompact value ++ [','] ++ writeCompactFields fields

end

mutual

/-- The indented form of a value whose bracket stands at the given level. -/
def writeIndented (level : Nat) : Value → List Char
  | .array [] => ['[', ']']
  | .array (item :: items) =>
    ['['] ++ writeIndentedItems (level + 1) (item :: items) ++ newline level ++ [']']
  | .object [] => ['\x7b', '\x7d']
  | .object (field :: fields) =>
    ['\x7b'] ++ writeIndentedFields (level + 1) (field :: fields) ++ newline level ++ ['\x7d']
  | .null => "null".toList
  | .bool b => writeBool b
  | .number n => n.text.toList
  | .string text => writeString text

/-- The indented form of the items of an array, each on its own line. -/
def writeIndentedItems (level : Nat) : List Value → List Char
  | [] => []
  | [item] => newline level ++ writeIndented level item
  | item :: items =>
    newline level ++ writeIndented level item ++ [','] ++ writeIndentedItems level items

/-- The indented form of the fields of an object, each on its own line. -/
def writeIndentedFields (level : Nat) : List (String × Value) → List Char
  | [] => []
  | [(name, value)] => newline level ++ writeString name ++ [':', ' '] ++ writeIndented level value
  | (name, value) :: fields =>
    newline level ++ writeString name ++ [':', ' '] ++ writeIndented level value ++ [',']
      ++ writeIndentedFields level fields

end

namespace Value

/-- The compact text of a value. -/
def compact (value : Value) : String :=
  String.ofList (writeCompact value)

/-- The indented text of a value. -/
def indented (value : Value) : String :=
  String.ofList (writeIndented 0 value)

end Value

end ArchAudit.Json
