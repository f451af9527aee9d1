import GeoFilter.Number.Decimal

/-!
Numbers from their text. Integers have 64 bits and a sign; floating-point numbers
are decimal, or the words for infinity and for no number at all.
-/

namespace GeoFilter.Number

/-- Why a text is not a number. -/
inductive NumberFault where
  | emptyInteger
  | invalidDigit
  | tooLarge
  | tooSmall
  | emptyFloat
  | invalidFloat
deriving DecidableEq, Repr

def NumberFault.message : NumberFault → String
  | .emptyInteger => "cannot parse integer from empty string"
  | .invalidDigit => "invalid digit found in string"
  | .tooLarge => "number too large to fit in target type"
  | .tooSmall => "number too small to fit in target type"
  | .emptyFloat => "cannot parse float from empty string"
  | .invalidFloat => "invalid float literal"

/-- A sign in front of a number, and what follows it. -/
def splitSign : List Char → Bool × List Char
  | '-' :: rest => (true, rest)
  | '+' :: rest => (false, rest)
  | text => (false, text)

/-- Reads digits from the left. The first character that is no digit, or the first
digit that takes the value above the limit, decides the fault. -/
def readMagnitude (limit : Nat) (overflow : NumberFault) :
    Nat → List Char → Except NumberFault Nat
  | value, [] => .ok value
  | value, c :: rest =>
      if c.isDigit then
        let longer := 10 * value + (c.toNat - 48)
        if longer ≤ limit then readMagnitude limit overflow longer rest else .error overflow
      else
        .error .invalidDigit

/-- An optional sign and at least one digit, of a value that 64 bits can hold. -/
def readInteger (text : List Char) : Except NumberFault Int64 :=
  match splitSign text with
  | (_, []) => .error (if text.isEmpty then .emptyInteger else .invalidDigit)
  | (true, digits) => do
      let magnitude ← readMagnitude (Nat.pow 2 63) .tooSmall 0 digits
      return Int64.ofInt (-magnitude)
  | (false, digits) => do
      let magnitude ← readMagnitude (Nat.pow 2 63 - 1) .tooLarge 0 digits
      return Int64.ofInt magnitude

/-- The exponent of a decimal number, up to the end of the text. No text is no
exponent, which counts as zero. -/
def readExponent : List Char → Option Int
  | [] => some 0
  | c :: rest =>
      let (negative, digits) := splitSign rest
      if (c == 'e' || c == 'E') && !digits.isEmpty && digits.all Char.isDigit then
        some (if negative then -(natOfDigits digits : Int) else natOfDigits digits)
      else
        none

/-- A decimal number without a sign: digits with at most one point among them, at
least one digit, and an optional exponent. -/
def readDecimal (text : List Char) : Option Decimal := do
  let whole := text.takeWhile Char.isDigit
  let (fraction, rest) :=
    match text.dropWhile Char.isDigit with
    | '.' :: rest => (rest.takeWhile Char.isDigit, rest.dropWhile Char.isDigit)
    | rest => ([], rest)
  let exponent ← readExponent rest
  if whole.isEmpty && fraction.isEmpty then
    none
  else
    return .normal (whole ++ fraction) (exponent - fraction.length)

/-- A floating-point number without its sign. -/
def readUnsignedFloat (text : List Char) : Option Float :=
  let word := text.map Char.toLower
  if word = "inf".toList ∨ word = "infinity".toList then
    some (1.0 / 0.0)
  else if word = "nan".toList then
    some (0.0 / 0.0)
  else
    (readDecimal text).map Decimal.toFloat

/-- An optional sign and a floating-point number, read to the nearest value. -/
def readFloat (text : List Char) : Except NumberFault Float :=
  if text.isEmpty then
    .error .emptyFloat
  else
    let (negative, rest) := splitSign text
    match readUnsignedFloat rest with
    | some value => .ok (if negative then -value else value)
    | none => .error .invalidFloat

end GeoFilter.Number
