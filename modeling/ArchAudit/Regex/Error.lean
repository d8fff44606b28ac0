/-!
# Faults of a regular expression

What can be wrong with the text of a regular expression, and how it is shown: the text, a mark
below the faulty part, and the fault in words.
-/

namespace ArchAudit

/-- What is wrong with the text of a regular expression. -/
inductive RegexFault where
  | groupUnclosed
  | groupUnopened
  | groupNameEmpty
  | groupNameInvalid
  | groupNameUnclosed
  | flagUnknown
  | flagMissing
  | lookAround
  | repetitionMissing
  | countUnclosed
  | countEmpty
  | countDescending
  | classUnclosed
  | classEscape
  | rangeDescending
  | rangeNotLiteral
  | escapeIncomplete
  | escapeUnknown
  | backreference
  | hexEmpty
  | hexDigit
  | hexRange
deriving DecidableEq, Repr

namespace RegexFault

/-- The fault in words. -/
def message : RegexFault → String
  | groupUnclosed => "unclosed group"
  | groupUnopened => "unopened group"
  | groupNameEmpty => "empty capture group name"
  | groupNameInvalid => "invalid capture group character"
  | groupNameUnclosed => "unclosed capture group name"
  | flagUnknown => "unrecognized flag"
  | flagMissing => "expected flag but got end of regex"
  | lookAround => "look-around, including look-ahead and look-behind, is not supported"
  | repetitionMissing => "repetition operator missing expression"
  | countUnclosed => "unclosed counted repetition"
  | countEmpty => "repetition quantifier expects a valid decimal"
  | countDescending => "invalid repetition count range, the start must be <= the end"
  | classUnclosed => "unclosed character class"
  | classEscape => "invalid escape sequence found in character class"
  | rangeDescending => "invalid character class range, the start must be <= the end"
  | rangeNotLiteral => "invalid range boundary, must be a literal"
  | escapeIncomplete => "incomplete escape sequence, reached end of pattern prematurely"
  | escapeUnknown => "unrecognized escape sequence"
  | backreference => "backreferences are not supported"
  | hexEmpty => "hexadecimal literal empty"
  | hexDigit => "invalid hexadecimal digit"
  | hexRange => "hexadecimal literal is not a Unicode scalar value"

end RegexFault

/-- A fault and the part of the text that it concerns: the characters that are left where the part
starts, and those that are left behind it. -/
structure RegexError where
  fault : RegexFault
  fromHere : List Char
  upToHere : List Char
deriving DecidableEq, Repr

namespace RegexError

/-- The number of marks below the faulty part; a part without characters gets one. -/
def width (error : RegexError) : Nat :=
  let count := error.fromHere.length - error.upToHere.length
  if count = 0 then 1 else count

/-- The fault below the text in which it was found. -/
def message (text : String) (error : RegexError) : String :=
  "regex parse error:\n    " ++ text ++ "\n    "
    ++ String.ofList (List.replicate (text.length - error.fromHere.length) ' ')
    ++ String.ofList (List.replicate error.width '^') ++ "\nerror: " ++ error.fault.message

end RegexError

end ArchAudit
