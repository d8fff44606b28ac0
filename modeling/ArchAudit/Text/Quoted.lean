import ArchAudit.Text.Hexadecimal
import ArchAudit.Text.Printable

/-!
# Quoted text

The form in which a message shows a text so that every character can be told apart: between double
quotes, with short escapes for the common controls, the backslash and the double quote, and a
code point in hexadecimal for every other character that has no printed form of its own.
-/

namespace ArchAudit.Text

/-- One character as it stands inside a quoted text. -/
def quotedChar (c : Char) : List Char :=
  if c = Char.ofNat 0 then ['\\', '0']
  else if c = '\t' then ['\\', 't']
  else if c = '\r' then ['\\', 'r']
  else if c = '\n' then ['\\', 'n']
  else if c = '\\' then ['\\', '\\']
  else if c = '"' then ['\\', '"']
  else if isExtending c || !isPrintable c then
    ['\\', 'u', '\x7b'] ++ hexDigits c.toNat ++ ['\x7d']
  else [c]

/-- A text between double quotes, with everything escaped that could not be read back. -/
def quoted (text : String) : String :=
  String.ofList (['"'] ++ text.toList.flatMap quotedChar ++ ['"'])

end ArchAudit.Text
