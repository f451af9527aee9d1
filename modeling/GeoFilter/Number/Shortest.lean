import GeoFilter.Number.Decimal
import GeoFilter.Number.Dyadic

/-!
The shortest decimal number that reads back as a given binary64 number. For every
count of digits only the two grid points around the number come into question, and
a point is accepted if it reads back. Seventeen digits are always enough; were they
not, the exact value would be written.
-/

namespace GeoFilter.Number

/-- Which of two equally near decimal numbers is taken. -/
inductive TieRule where
  | upward
  | toEven
deriving DecidableEq, Repr

/-- A positive fraction of natural numbers. -/
structure Ratio where
  num : Nat
  den : Nat

/-- The ratio scaled by a power of ten. -/
def Ratio.scale (r : Ratio) (power : Int) : Ratio :=
  if power < 0 then
    ⟨r.num, r.den * Nat.pow 10 power.natAbs⟩
  else
    ⟨r.num * Nat.pow 10 power.natAbs, r.den⟩

def Dyadic.toRatio (x : Dyadic) : Ratio :=
  if x.exponent < 0 then
    ⟨x.significand, Nat.pow 2 x.exponent.natAbs⟩
  else
    ⟨x.significand * Nat.pow 2 x.exponent.natAbs, 1⟩

/-- The number of decimal digits of a natural number. -/
def digitCount (n : Nat) : Nat :=
  (Nat.toDigits 10 n).length

/-- The power of ten at the first digit of a positive ratio. -/
def Ratio.leading (r : Ratio) : Int :=
  let guess : Int := (digitCount r.num : Int) - digitCount r.den
  let scaled := r.scale (-guess)
  if scaled.den ≤ scaled.num then guess else guess - 1

/-- Of the two integers around a ratio, the nearer one first. -/
def Ratio.neighbours (r : Ratio) (tie : TieRule) : List Nat :=
  let below := r.num / r.den
  let twice := 2 * (r.num % r.den)
  let downward :=
    twice < r.den ||
      (twice == r.den && (tie == .toEven && below % 2 == 0))
  if downward then [below, below + 1] else [below + 1, below]

/-- The nearest number of at most `count` digits among those that read back. -/
def shortestOf (tie : TieRule) (x : Float) (r : Ratio) (count : Nat) : Option Decimal :=
  let unit := r.leading + 1 - count
  let points := ((r.scale (-unit)).neighbours tie).map (Decimal.ofNat · unit)
  points.find? (fun d => d.toFloat = x)

/-- The exact decimal value of a binary fraction. -/
def Dyadic.toDecimal (x : Dyadic) : Decimal :=
  if x.exponent < 0 then
    .ofNat (x.significand * Nat.pow 5 x.exponent.natAbs) x.exponent
  else
    .ofNat (x.significand * Nat.pow 2 x.exponent.natAbs) 0

/-- The shortest decimal number that reads back as the magnitude of a finite
number, and among those the nearest. -/
def shortest (tie : TieRule) (x : Float) : Decimal :=
  let magnitude := x.abs
  let exact := Dyadic.ofFloat magnitude
  if exact.significand = 0 then
    ⟨[], 0⟩
  else
    let counts := (List.range 17).map (· + 1)
    (counts.findSome? (shortestOf tie magnitude exact.toRatio)).getD exact.toDecimal

end GeoFilter.Number
