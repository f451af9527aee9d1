import GeoFilter.Number.Shortest

/-!
The layouts in which floating-point numbers are written. All of them write the
digits of the shortest decimal number; they differ in when they use an exponent.
-/

namespace GeoFilter.Number

/-- One way to lay out the digits of a number. -/
structure Layout where
  /-- Whether a number whose first digit stands for this power of ten is written
  without an exponent. -/
  positional : Int → Bool
  /-- Whether a whole number without an exponent ends in `.0`. -/
  pointed : Bool
  /-- Whether a positive exponent has a plus sign. -/
  signed : Bool
  tie : TieRule

/-- The layout of floating-point literals: a point or an exponent always shows that
the number is not an integer. -/
def Layout.literal : Layout where
  positional leading := -4 ≤ leading && leading ≤ 15
  pointed := true
  signed := false
  tie := .upward

/-- The layout of coordinates, which have neither an exponent nor a needless point. -/
def Layout.coordinate : Layout where
  positional _ := true
  pointed := false
  signed := false
  tie := .upward

/-- The layout of numbers in JSON. -/
def Layout.json : Layout where
  positional leading := -5 ≤ leading && leading ≤ 15
  pointed := true
  signed := true
  tie := .toEven

def zeros (count : Nat) : List Char :=
  List.replicate count '0'

/-- Digits with the decimal point after the first `whole` of them; zeros fill the
places that have no digit. -/
def placePoint (pointed : Bool) (digits : List Char) (whole : Int) : List Char :=
  if whole ≤ 0 then
    '0' :: '.' :: (zeros whole.natAbs ++ digits)
  else if digits.length ≤ whole.toNat then
    digits ++ zeros (whole.toNat - digits.length) ++ (if pointed then ['.', '0'] else [])
  else
    digits.take whole.toNat ++ '.' :: digits.drop whole.toNat

/-- One digit before the point, the others behind it, and an exponent. -/
def placeExponent (signed : Bool) (digits : List Char) (exponent : Int) : List Char :=
  let mantissa :=
    match digits with
    | first :: second :: rest => first :: '.' :: second :: rest
    | short => short
  let sign := if exponent < 0 then ['-'] else if signed then ['+'] else []
  mantissa ++ 'e' :: (sign ++ Nat.toDigits 10 exponent.natAbs)

/-- The text of a decimal number. -/
def Layout.decimal (layout : Layout) (d : Decimal) : List Char :=
  if d.digits.isEmpty then
    if layout.pointed then ['0', '.', '0'] else ['0']
  else if layout.positional d.leading then
    placePoint layout.pointed d.digits (d.leading + 1)
  else
    placeExponent layout.signed d.digits d.leading

/-- The text of a floating-point number. -/
def Layout.text (layout : Layout) (x : Float) : String :=
  if x.isNaN then
    "NaN"
  else
    let magnitude :=
      if x.isInf then ['i', 'n', 'f'] else layout.decimal (shortest layout.tie x)
    String.ofList (if isNegative x then '-' :: magnitude else magnitude)

end GeoFilter.Number
