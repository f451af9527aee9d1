/-!
Decimal numbers in scientific form, and the binary64 number nearest to each.
-/

namespace GeoFilter.Number

/-- The value of a run of ASCII digits. -/
def natOfDigits (digits : List Char) : Nat :=
  digits.foldl (fun value c => 10 * value + (c.toNat - 48)) 0

/-- The number `digits * 10 ^ exponent`. -/
structure Decimal where
  digits : List Char
  exponent : Int
deriving DecidableEq, Repr

/-- The form of a decimal number in which the digits neither start nor end with a
zero. Numbers that differ only in how they are spelled have one such form. -/
def Decimal.normal (digits : List Char) (exponent : Int) : Decimal :=
  let backwards := (digits.dropWhile (· == '0')).reverse
  let kept := (backwards.dropWhile (· == '0')).reverse
  if kept.isEmpty then
    ⟨[], 0⟩
  else
    ⟨kept, exponent + (backwards.takeWhile (· == '0')).length⟩

def Decimal.ofNat (n : Nat) (exponent : Int) : Decimal :=
  .normal (Nat.toDigits 10 n) exponent

/-- The power of ten that the first digit stands for. -/
def Decimal.leading (d : Decimal) : Int :=
  d.exponent + d.digits.length - 1

/-- The binary64 number nearest to a decimal number, of two equally near ones the
even one. Beyond the largest finite number it is infinite. -/
def Decimal.toFloat (d : Decimal) : Float :=
  Float.ofScientific (natOfDigits d.digits) (d.exponent < 0) d.exponent.natAbs

end GeoFilter.Number
