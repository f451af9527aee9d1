/-!
Binary64 numbers as exact binary fractions, and the way back with rounding.
-/

namespace GeoFilter.Number

/-- The number `significand * 2 ^ exponent`. -/
structure Dyadic where
  significand : Nat
  exponent : Int
deriving DecidableEq, Repr

/-- The exact magnitude of a finite number. -/
def Dyadic.ofFloat (x : Float) : Dyadic :=
  let bits := x.toBits.toNat
  let field : Nat := bits / Nat.pow 2 52 % Nat.pow 2 11
  let fraction := bits % Nat.pow 2 52
  if field = 0 then
    ⟨fraction, -1074⟩
  else
    ⟨Nat.pow 2 52 + fraction, Int.ofNat field - 1075⟩

/-- Whether the sign bit of a number is set; negative zero has it set too. -/
def isNegative (x : Float) : Bool :=
  x.toBits.toNat / Nat.pow 2 63 == 1

/-- A quotient rounded to the nearest integer, and to the even one of two equally
near ones. -/
def roundHalfEven (n d : Nat) : Nat :=
  let quotient := n / d
  let twice := 2 * (n % d)
  if twice < d then quotient
  else if twice = d then quotient + quotient % 2
  else quotient + 1

/-- The binary64 number nearest to a binary fraction. Its spacing is a power of two
that leaves 53 significant bits, or the least one there is. -/
def Dyadic.toFloat (x : Dyadic) : Float :=
  let spacing := max (x.exponent + x.significand.log2 - 52) (-1074)
  let shift := spacing - x.exponent
  let units :=
    if shift ≤ 0 then
      x.significand * Nat.pow 2 shift.natAbs
    else
      roundHalfEven x.significand (Nat.pow 2 shift.natAbs)
  let bits :=
    if units < Nat.pow 2 52 then
      units
    else
      (units - Nat.pow 2 52) + (spacing + 1075).toNat * Nat.pow 2 52
  Float.ofBits (UInt64.ofNat (min bits (2047 * Nat.pow 2 52)))

end GeoFilter.Number
