import GeoFilter.Number.Dyadic

/-!
The length of the hypotenuse of a right triangle, rounded once. The squares are
added exactly, so that neither a large nor a small leg spoils the result.
-/

namespace GeoFilter.Number

/-- The integer square root, rounded down: two bits of the radicand for each bit
of the root. -/
def floorSqrt (n : Nat) : Nat :=
  if h : n = 0 then
    0
  else
    let root := 2 * floorSqrt (n / 4)
    if (root + 1) * (root + 1) ≤ n then root + 1 else root
termination_by n
decreasing_by omega

/-- The square root of `n * 4 ^ exponent` rounded to the nearest number. The root is
taken to more bits than a number holds, and one more bit tells whether it is exact. -/
def nearestSqrt (n : Nat) (exponent : Int) : Float :=
  let radicand := n * Nat.pow 4 64
  let root := floorSqrt radicand
  let inexact := if root * root = radicand then 0 else 1
  Dyadic.toFloat ⟨2 * root + inexact, exponent - 65⟩

/-- The square root of the sum of two squares. An infinite leg makes it infinite,
even beside a leg that is not a number. -/
def hypotenuse (x y : Float) : Float :=
  if x.isInf || y.isInf then
    1.0 / 0.0
  else if x.isNaN || y.isNaN then
    0.0 / 0.0
  else
    let a := Dyadic.ofFloat x
    let b := Dyadic.ofFloat y
    let exponent := min a.exponent b.exponent
    let p := a.significand * Nat.pow 2 (a.exponent - exponent).natAbs
    let q := b.significand * Nat.pow 2 (b.exponent - exponent).natAbs
    if p * p + q * q = 0 then 0.0 else nearestSqrt (p * p + q * q) exponent

end GeoFilter.Number
