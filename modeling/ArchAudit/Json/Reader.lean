import ArchAudit.Json.Failure
import ArchAudit.Text.Hexadecimal

/-!
# Reading the parts of a JSON text

Readers for blanks, words, strings and numbers.  Each takes the text that is still unread and gives
a value with the rest.  Strings come in two kinds: `readString` decodes every escape and refuses
surrogates without a partner, `skipString` only finds the end of the string.
-/

namespace ArchAudit.Json

/-- The blanks between the parts of a JSON text. -/
def isSpace (c : Char) : Bool :=
  c = ' ' || c = '\n' || c = '\t' || c = '\r'

/-- Drops the blanks at the front. -/
def skipSpaces (text : List Char) : List Char :=
  text.dropWhile isSpace

/-! ## Words -/

/-- Reads the remaining letters of `null`, `true` or `false`. -/
def readLetters : List Char → List Char → Except Failure (List Char)
  | [], text => .ok text
  | _ :: _, [] => failBefore .endInValue []
  | letter :: letters, c :: text =>
    if c = letter then readLetters letters text else failAt .expectedIdent (c :: text)

/-! ## Strings -/

/-- The value of four hexadecimal digits. -/
def hexQuad? (a b c d : Char) : Option Nat :=
  match Text.hexValue? a, Text.hexValue? b, Text.hexValue? c, Text.hexValue? d with
  | some a, some b, some c, some d => some (((a * 16 + b) * 16 + c) * 16 + d)
  | _, _, _, _ => none

/-- The failure of four hexadecimal digits: four bytes are taken at once, if there are as many. -/
def hexFailure {α : Type} (text : List Char) : Except Failure α :=
  if Text.Utf8.size text < 4 then failBefore .endInString []
  else .error ⟨.invalidEscape, text, 4⟩

/-- The character of an escape of one letter. -/
def shortEscape? (c : Char) : Option Char :=
  if c = '"' then some '"'
  else if c = '\\' then some '\\'
  else if c = '/' then some '/'
  else if c = 'b' then some '\x08'
  else if c = 'f' then some '\x0c'
  else if c = 'n' then some '\n'
  else if c = 'r' then some '\r'
  else if c = 't' then some '\t'
  else none

/-- Whether a code unit is the first half of a surrogate pair. -/
def isLeadSurrogate (unit : Nat) : Bool :=
  0xD800 ≤ unit && unit ≤ 0xDBFF

/-- Whether a code unit is the second half of a surrogate pair. -/
def isTrailSurrogate (unit : Nat) : Bool :=
  0xDC00 ≤ unit && unit ≤ 0xDFFF

/-- The character of a surrogate pair. -/
def surrogatePair (lead trail : Nat) : Char :=
  Char.ofNat ((lead - 0xD800) * 0x400 + (trail - 0xDC00) + 0x10000)

/-- Reads a string behind its opening quote.  The characters read so far stand in reverse. -/
def readString (read : List Char) : List Char → Result String
  | [] => failBefore .endInString []
  | c :: text =>
    if c = '"' then .ok (String.ofList read.reverse, text)
    else if c = '\\' then
      match text with
      | [] => failBefore .endInString []
      | e :: rest =>
        match shortEscape? e with
        | some decoded => readString (decoded :: read) rest
        | none =>
          if e = 'u' then
            match rest with
            | a :: b :: c :: d :: behind =>
              match hexQuad? a b c d with
              | none => hexFailure (a :: b :: c :: d :: behind)
              | some unit =>
                if isTrailSurrogate unit then failBefore .loneSurrogate behind
                else if isLeadSurrogate unit then
                  match behind with
                  | [] => failBefore .endInString []
                  | m :: tail =>
                    if m = '\\' then
                      match tail with
                      | [] => failBefore .endInString []
                      | u :: quad =>
                        if u = 'u' then
                          match quad with
                          | a :: b :: c :: d :: others =>
                            match hexQuad? a b c d with
                            | none => hexFailure (a :: b :: c :: d :: others)
                            | some trail =>
                              if isTrailSurrogate trail then
                                readString (surrogatePair unit trail :: read) others
                              else failBefore .loneSurrogate others
                          | short => hexFailure short
                        else failAt .endOfSurrogatePair (u :: quad)
                    else failAt .endOfSurrogatePair (m :: tail)
                else readString (Char.ofNat unit :: read) behind
            | short => hexFailure short
          else failAt .invalidEscape (e :: rest)
    else if c.toNat < 0x20 then failAt .controlCharacter (c :: text)
    else readString (c :: read) text

/-- Finds the end of a string behind its opening quote. -/
def skipString : List Char → Except Failure (List Char)
  | [] => failBefore .endInString []
  | c :: text =>
    if c = '"' then .ok text
    else if c = '\\' then
      match text with
      | [] => failBefore .endInString []
      | e :: rest =>
        match shortEscape? e with
        | some _ => skipString rest
        | none =>
          if e = 'u' then
            match rest with
            | a :: b :: c :: d :: behind =>
              match hexQuad? a b c d with
              | none => hexFailure (a :: b :: c :: d :: behind)
              | some _ => skipString behind
            | short => hexFailure short
          else failAt .invalidEscape (e :: rest)
    else if c.toNat < 0x20 then failBefore .controlCharacter (c :: text)
    else skipString text

/-! ## Numbers -/

/-- The digits at the front of a text, and the rest. -/
def spanDigits (text : List Char) : List Char × List Char :=
  (text.takeWhile Char.isDigit, text.dropWhile Char.isDigit)

/-- Reads the digits in front of the decimal point: a single zero, or digits that do not begin
with one.  `atEnd` is the reason at the end of the text. -/
def readWholeDigits (atEnd : Reason) : List Char → Result (List Char)
  | [] => failBefore atEnd []
  | c :: text =>
    if c = '0' then
      match text with
      | [] => .ok (['0'], [])
      | d :: rest => if d.isDigit then failAt .invalidNumber (d :: rest) else .ok (['0'], d :: rest)
    else if c.isDigit then .ok (c :: (spanDigits text).1, (spanDigits text).2)
    else failAt .invalidNumber (c :: text)

/-- Reads digits, of which there has to be one. -/
def readDigits (atEnd : Reason) (text : List Char) : Result (List Char) :=
  match spanDigits text with
  | ([], []) => failBefore atEnd []
  | ([], rest) => failAt .invalidNumber rest
  | (digits, rest) => .ok (digits, rest)

/-- The sign in front of an exponent: whether it is negative, and the rest. -/
def readSign : List Char → Bool × List Char
  | '-' :: rest => (true, rest)
  | '+' :: rest => (false, rest)
  | text => (false, text)

/-- The parts of a number behind its sign. -/
structure Numeral where
  whole : List Char
  fraction : Option (List Char)
  exponent : Option (Bool × List Char)
deriving DecidableEq, Repr

/-- Reads the exponent of a number, if it has one. -/
def readExponentPart (atEnd : Reason) : List Char → Result (Option (Bool × List Char))
  | c :: text =>
    if c = 'e' || c = 'E' then
      let (negative, digits) := readSign text
      match readDigits atEnd digits with
      | .error failure => .error failure
      | .ok (digits, rest) => .ok (some (negative, digits), rest)
    else .ok (none, c :: text)
  | [] => .ok (none, [])

/-- Reads the fraction of a number, if it has one. -/
def readFractionPart (atEnd : Reason) : List Char → Result (Option (List Char))
  | '.' :: text =>
    match readDigits atEnd text with
    | .error failure => .error failure
    | .ok (digits, rest) => .ok (some digits, rest)
  | text => .ok (none, text)

/-- Reads the parts of a number behind its sign. -/
def readNumeral (atEnd : Reason) (text : List Char) : Result Numeral :=
  match readWholeDigits atEnd text with
  | .error failure => .error failure
  | .ok (whole, afterWhole) =>
    match readFractionPart atEnd afterWhole with
    | .error failure => .error failure
    | .ok (fraction, afterFraction) =>
      match readExponentPart atEnd afterFraction with
      | .error failure => .error failure
      | .ok (exponent, rest) => .ok (⟨whole, fraction, exponent⟩, rest)

namespace Numeral

/-- The exponent as a number. -/
def exponentValue (numeral : Numeral) : Int :=
  match numeral.exponent with
  | none => 0
  | some (negative, digits) =>
    let magnitude : Nat := digits.foldl (fun n c => n * 10 + Scientific.digit c) 0
    if negative then -(magnitude : Int) else magnitude

/-- The number in scientific form. -/
def scientific (numeral : Numeral) : Scientific :=
  let digits := (Scientific.readWhole ⟨0, 0⟩ numeral.whole).readFraction
    (numeral.fraction.getD [])
  { digits with exponent := digits.exponent + numeral.exponentValue }

/-- The number that the parts stand for, or nothing if it is too large for a double.  Only plain
digits make an integer; a negative integer has to be below zero and within 64 bits. -/
def toNumber? (negative : Bool) (numeral : Numeral) : Option Number :=
  let whole := Scientific.readWhole ⟨0, 0⟩ numeral.whole
  let isPlain := numeral.fraction.isNone && numeral.exponent.isNone && whole.exponent == 0
  if isPlain && !negative then some (.integer whole.significand)
  else if isPlain && 0 < whole.significand && whole.significand ≤ 0x8000000000000000 then
    some (.integer (-(whole.significand : Int)))
  else
    numeral.scientific.toFloat?.map fun x => .real (if negative then -x else x)

end Numeral

/-- What stands behind the first digit with which an exponent leaves the range of 32-bit integers;
nothing is left if it stays in the range. -/
def behindOverflow (magnitude : Nat) : List Char → List Char
  | [] => []
  | c :: digits =>
    if 0x80000000 ≤ magnitude * 10 + Scientific.digit c then digits
    else behindOverflow (magnitude * 10 + Scientific.digit c) digits

/-- Reads a number behind its sign.  A number that is too large is refused at its end, or inside
its exponent as soon as that is beyond all bounds. -/
def readNumber (negative : Bool) (text : List Char) : Result Number :=
  match readNumeral .endInValue text with
  | .error failure => .error failure
  | .ok (numeral, rest) =>
    match numeral.toNumber? negative with
    | some number => .ok (number, rest)
    | none =>
      let exponentDigits := (numeral.exponent.map Prod.snd).getD []
      failBefore .numberOutOfRange (behindOverflow 0 exponentDigits ++ rest)

/-- Finds the end of a number behind its sign. -/
def skipNumber (text : List Char) : Except Failure (List Char) :=
  match readNumeral .invalidNumber text with
  | .error failure => .error failure
  | .ok (_, rest) => .ok rest

end ArchAudit.Json
