import ArchAudit.Decimal.Shortest

/-!
# JSON numbers

A number without fraction and exponent is an integer as long as it fits into 64 bits; every other
number is a double.  Doubles are written with their shortest digits, positionally while the decimal
point lies near the digits and with a signed exponent otherwise.
-/

namespace ArchAudit.Json

/-- A JSON number. -/
inductive Number where
  | integer (value : Int)
  | real (value : Float)

/-- A decimal `significand * 10 ^ exponent` as it is read digit by digit. -/
structure Scientific where
  significand : Nat
  exponent : Int
deriving DecidableEq, Repr

namespace Scientific

/-- The largest significand that is kept. -/
def limit : Nat :=
  0xFFFFFFFFFFFFFFFF

/-- The value of a digit. -/
def digit (c : Char) : Nat :=
  c.toNat - '0'.toNat

/-- Reads digits in front of the decimal point.  From the first digit on that does not fit any
more, digits only count as powers of ten. -/
def readWhole : Scientific → List Char → Scientific
  | number, [] => number
  | number, c :: rest =>
    if number.significand * 10 + digit c ≤ limit then
      readWhole { number with significand := number.significand * 10 + digit c } rest
    else
      { number with exponent := number.exponent + (rest.length + 1) }

/-- Reads digits behind the decimal point, up to the first that does not fit any more. -/
def readFraction : Scientific → List Char → Scientific
  | number, [] => number
  | number, c :: rest =>
    if number.significand * 10 + digit c ≤ limit then
      readFraction ⟨number.significand * 10 + digit c, number.exponent - 1⟩ rest
    else number

/-- The double that a decimal stands for, or nothing if it is too large for a double.  Exponents
below the range of doubles are reached in two divisions. -/
def toFloat? (number : Scientific) : Option Float :=
  let x := Float.ofNat number.significand
  if 0 ≤ number.exponent then
    if number.significand = 0 then some x
    else if 308 < number.exponent then none
    else
      let scaled := x * Float.ofScientific 1 false number.exponent.toNat
      if scaled.isInf then none else some scaled
  else if -308 ≤ number.exponent then
    some (x / Float.ofScientific 1 false (-number.exponent).toNat)
  else if -700 ≤ number.exponent then
    some (x / Float.ofScientific 1 false 308
      / Float.ofScientific 1 false (-number.exponent - 308).toNat)
  else some 0.0

end Scientific

namespace Number

/-- A run of zeros. -/
def zeros (count : Nat) : String :=
  String.ofList (List.replicate count '0')

/-- An exponent, always with its sign. -/
def exponentText (exponent : Int) : String :=
  "e" ++ (if 0 ≤ exponent then "+" else "") ++ toString exponent

/-- The text of a positive decimal: positional while the point lies at most five places in front of
the digits and at most sixteen behind their start, with an exponent otherwise. -/
def digitsText (decimal : Decimal.Digits) : String :=
  let digits := toString decimal.digits
  let count : Int := digits.length
  let point := decimal.point
  if count ≤ point ∧ point ≤ 16 then digits ++ zeros (point - count).toNat ++ ".0"
  else if 0 < point ∧ point ≤ 16 then
    String.ofList (digits.toList.take point.toNat) ++ "."
      ++ String.ofList (digits.toList.drop point.toNat)
  else if -5 < point ∧ point ≤ 0 then "0." ++ zeros (-point).toNat ++ digits
  else
    let tail := digits.toList.drop 1
    String.ofList (digits.toList.take 1)
      ++ (if tail.isEmpty then "" else "." ++ String.ofList tail) ++ exponentText (point - 1)

/-- The text of a finite double. -/
def realText (x : Float) : String :=
  let sign := if 0x8000000000000000 ≤ x.toBits.toNat then "-" else ""
  if (Decimal.ofFloat x).mantissa = 0 then sign ++ "0.0"
  else sign ++ digitsText (Decimal.ofFloat x).shortest

/-- The text of a number. -/
def text : Number → String
  | integer value => toString value
  | real value => realText value

end Number

end ArchAudit.Json
