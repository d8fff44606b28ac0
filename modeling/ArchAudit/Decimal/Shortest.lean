/-!
# Shortest decimals

A binary floating-point number stands for all the reals that round to it.  Its shortest decimal is
the one with the fewest significant digits among them, and of several with that many digits the
one nearest to the number itself.  Everything is decided in exact integer arithmetic.
-/

namespace ArchAudit.Decimal

/-- The mantissa of a power of two: one bit in front of 52 others. -/
def leadingBit : Nat :=
  0x10000000000000

/-- A positive number `mantissa * 2 ^ exponent`. -/
structure Binary where
  mantissa : Nat
  exponent : Int
deriving DecidableEq, Repr

/-- A positive decimal `0.d₁d₂… * 10 ^ point`, with the digits written as one natural number. -/
structure Digits where
  digits : Nat
  point : Int
deriving DecidableEq, Repr

/-- A positive fraction, kept as numerator and denominator. -/
structure Ratio where
  num : Nat
  den : Nat
deriving DecidableEq, Repr

namespace Ratio

/-- A natural number times a power of a base. -/
def scaled (base n : Nat) (exponent : Int) : Ratio :=
  if 0 ≤ exponent then ⟨n * Nat.pow base exponent.toNat, 1⟩
  else ⟨n, Nat.pow base (-exponent).toNat⟩

/-- Product of two fractions. -/
def mul (a b : Ratio) : Ratio :=
  ⟨a.num * b.num, a.den * b.den⟩

/-- Whether one fraction is less than another. -/
def lt (a b : Ratio) : Bool :=
  a.num * b.den < b.num * a.den

/-- The distance between two fractions. -/
def distance (a b : Ratio) : Ratio :=
  ⟨(a.num * b.den - b.num * a.den) + (b.num * a.den - a.num * b.den), a.den * b.den⟩

end Ratio

namespace Binary

/-- The number as a fraction. -/
def value (x : Binary) : Ratio :=
  Ratio.scaled 2 x.mantissa x.exponent

/-- The distance to the reals that round to a neighbour above. -/
def gapAbove (x : Binary) : Ratio :=
  Ratio.scaled 2 1 (x.exponent - 1)

/-- The distance to the reals that round to a neighbour below.  Below a power of two the
neighbours lie half as far apart, unless they are the smallest numbers of all. -/
def gapBelow (x : Binary) : Ratio :=
  if x.mantissa = leadingBit ∧ -1074 < x.exponent then Ratio.scaled 2 1 (x.exponent - 2)
  else x.gapAbove

/-- Whether a real rounds to the number; the ends of the interval do if the mantissa is even. -/
def absorbs (x : Binary) (real : Ratio) : Bool :=
  let gap := if x.value.lt real then x.gapAbove else x.gapBelow
  let distance := x.value.distance real
  distance.lt gap || (x.mantissa % 2 == 0 && !gap.lt distance)

/-- The number of digits in front of the decimal point, found by counting up from a lower bound. -/
def pointFrom (x : Binary) : Nat → Int → Int
  | 0, point => point
  | fuel + 1, point =>
    if x.value.lt (Ratio.scaled 10 1 point) then point else x.pointFrom fuel (point + 1)

/-- The power of ten just above the number.  No double has more than 309 digits in front of the
decimal point or more than 323 zeros behind it. -/
def point (x : Binary) : Int :=
  x.pointFrom 650 (-330)

/-- The better of the two neighbours with a given number of digits, if it rounds to the number. -/
def withDigits? (x : Binary) (count : Nat) : Option Nat :=
  let unit := x.point - count
  let steps := x.value.mul (Ratio.scaled 10 1 (-unit))
  let low := steps.num / steps.den
  let lowReal := Ratio.scaled 10 low unit
  let highReal := Ratio.scaled 10 (low + 1) unit
  match x.absorbs lowReal, x.absorbs highReal with
  | true, true =>
    if (x.value.distance highReal).lt (x.value.distance lowReal) then some (low + 1) else some low
  | true, false => some low
  | false, true => some (low + 1)
  | false, false => none

/-- The shortest decimal of the number; seventeen digits are always enough. -/
def shortest (x : Binary) : Digits :=
  match (List.range 18).findSome? fun count =>
      if count = 0 then none else (x.withDigits? count).map fun digits => (count, digits) with
  | some (count, digits) =>
    if digits = Nat.pow 10 count then ⟨1, x.point + 1⟩ else ⟨digits, x.point⟩
  | none => ⟨0, 0⟩

end Binary

/-- The magnitude of a finite double that is not zero. -/
def ofFloat (x : Float) : Binary :=
  let bits := x.toBits.toNat
  let fraction : Nat := bits % leadingBit
  let exponent : Nat := bits / leadingBit % 0x800
  if exponent = 0 then ⟨fraction, -1074⟩
  else ⟨leadingBit + fraction, (exponent : Int) - 1075⟩

end ArchAudit.Decimal
