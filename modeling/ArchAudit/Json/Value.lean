import ArchAudit.Json.Number

/-!
# JSON values

Values keep the fields of an object in the order in which they are written.
-/

namespace ArchAudit.Json

/-- A JSON value. -/
inductive Value where
  | null
  | bool (value : Bool)
  | number (value : Number)
  | string (value : String)
  | array (items : List Value)
  | object (fields : List (String × Value))

namespace Value

/-- A natural number as a value. -/
def nat (n : Nat) : Value :=
  .number (.integer n)

/-- A text that may be missing. -/
def optional : Option String → Value
  | some text => .string text
  | none => .null

/-- The texts of a list. -/
def strings (texts : List String) : Value :=
  .array (texts.map .string)

/-- The value of a field; of several fields of one name the last counts. -/
def field? (value : Value) (name : String) : Option Value :=
  match value with
  | .object fields => fields.reverse.lookup name
  | _ => none

/-- The text of a string. -/
def string? : Value → Option String
  | .string text => some text
  | _ => none

/-- A natural number that fits into 64 bits. -/
def nat? : Value → Option Nat
  | .number (.integer n) => if 0 ≤ n ∧ n < 0x10000000000000000 then some n.toNat else none
  | _ => none

/-- The items of an array. -/
def array? : Value → Option (List Value)
  | .array items => some items
  | _ => none

/-- A record as an object.  A record may also be written as the array of its fields, which then
stand in the order of their names and are all there. -/
def record? (names : List String) : Value → Option Value
  | .object fields => some (.object fields)
  | .array items =>
    if items.length = names.length then some (.object (names.zip items)) else none
  | _ => none

/-- The name of one of several choices: a string, or an object whose only field has that name and
holds nothing. -/
def choice? : Value → Option String
  | .string name => some name
  | .object [(name, .null)] => some name
  | _ => none

end Value

end ArchAudit.Json
