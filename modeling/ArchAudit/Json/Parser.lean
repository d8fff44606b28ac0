import ArchAudit.Json.Reader
import ArchAudit.Json.Value

/-!
# Reading JSON values

Reads any JSON text into a value.  Every call takes at least one character of the text or one level
off the depth, so the length of the text bounds the recursion.
-/

namespace ArchAudit.Json

mutual

/-- Reads one value. -/
def readValue : Nat → List Char → Option (Value × List Char)
  | 0, _ => none
  | depth + 1, text =>
    match skipSpaces text with
    | [] => none
    | c :: rest =>
      if c = '"' then (readString [] rest).toOption.map fun (text, rest) => (.string text, rest)
      else if c = '[' then
        match skipSpaces rest with
        | [] => none
        | d :: others =>
          if d = ']' then some (.array [], others)
          else (readItems depth (d :: others)).map fun (items, rest) => (.array items, rest)
      else if c = '\x7b' then
        match skipSpaces rest with
        | [] => none
        | d :: others =>
          if d = '\x7d' then some (.object [], others)
          else (readFields depth (d :: others)).map fun (fields, rest) => (.object fields, rest)
      else if c = 'n' then
        (readLetters ['u', 'l', 'l'] rest).toOption.map fun rest => (.null, rest)
      else if c = 't' then
        (readLetters ['r', 'u', 'e'] rest).toOption.map fun rest => (.bool true, rest)
      else if c = 'f' then
        (readLetters ['a', 'l', 's', 'e'] rest).toOption.map fun rest => (.bool false, rest)
      else if c = '-' then
        (readNumber true rest).toOption.map fun (number, rest) => (.number number, rest)
      else (readNumber false (c :: rest)).toOption.map fun (number, rest) => (.number number, rest)

/-- Reads the items of an array up to its closing bracket. -/
def readItems : Nat → List Char → Option (List Value × List Char)
  | 0, _ => none
  | depth + 1, text =>
    match readValue depth text with
    | none => none
    | some (item, rest) =>
      match skipSpaces rest with
      | [] => none
      | c :: others =>
        if c = ',' then (readItems depth others).map fun (items, rest) => (item :: items, rest)
        else if c = ']' then some ([item], others)
        else none

/-- Reads the fields of an object up to its closing bracket. -/
def readFields : Nat → List Char → Option (List (String × Value) × List Char)
  | 0, _ => none
  | depth + 1, text =>
    match readField depth text with
    | none => none
    | some (field, rest) =>
      match skipSpaces rest with
      | [] => none
      | c :: others =>
        if c = ',' then (readFields depth others).map fun (fields, rest) => (field :: fields, rest)
        else if c = '\x7d' then some ([field], others)
        else none

/-- Reads one field: its name, a colon and its value. -/
def readField : Nat → List Char → Option ((String × Value) × List Char)
  | 0, _ => none
  | depth + 1, text =>
    match skipSpaces text with
    | [] => none
    | c :: rest =>
      if c = '"' then
        match readString [] rest with
        | .error _ => none
        | .ok (name, behind) =>
          match skipSpaces behind with
          | [] => none
          | d :: others =>
            if d = ':' then
              (readValue depth others).map fun (value, rest) => ((name, value), rest)
            else none
      else none

end

namespace Value

/-- Reads a text that holds one value and blanks around it. -/
def parse? (text : String) : Option Value :=
  match readValue (3 * text.length + 3) text.toList with
  | none => none
  | some (value, rest) => if (skipSpaces rest).isEmpty then some value else none

end Value

end ArchAudit.Json
