import GeoFilter.Number.Reading
import GeoFilter.Toml.Value

/-!
Numbers, truth values, dates and times of TOML, each from the whole of its text.
-/

namespace GeoFilter.Toml

open Number

/-- Digits with single underscores between them, without the underscores. -/
def ungroup (isDigit : Char → Bool) : List Char → Option (List Char)
  | [] => none
  | [c] => if isDigit c then some [c] else none
  | c :: '_' :: rest => if isDigit c then (ungroup isDigit rest).map (c :: ·) else none
  | c :: rest => if isDigit c then (ungroup isDigit rest).map (c :: ·) else none

def hexValue (c : Char) : Nat :=
  if c.isDigit then c.toNat - 48 else c.toLower.toNat - 87

def isHexDigit (c : Char) : Bool :=
  c.isDigit || ('a' ≤ c.toLower && c.toLower ≤ 'f')

def natOfBase (base : Nat) (digits : List Char) : Nat :=
  digits.foldl (fun value c => base * value + hexValue c) 0

/-- A whole number in decimal, which has no leading zeros. -/
def decimalDigits (text : List Char) : Option (List Char) := do
  let digits ← ungroup Char.isDigit text
  if digits.length > 1 && digits.head? == some '0' then
    none
  else
    return digits

def inRange (value : Int) : Option Int :=
  if Int64.minValue.toInt ≤ value ∧ value ≤ Int64.maxValue.toInt then some value else none

def integer? (text : List Char) : Option Int :=
  match text with
  | '0' :: 'x' :: rest => do inRange (natOfBase 16 (← ungroup isHexDigit rest))
  | '0' :: 'o' :: rest => do
      inRange (natOfBase 8 (← ungroup (fun c => '0' ≤ c && c ≤ '7') rest))
  | '0' :: 'b' :: rest => do
      inRange (natOfBase 2 (← ungroup (fun c => c == '0' || c == '1') rest))
  | _ => do
      let (negative, digits) := splitSign text
      let value : Int := natOfDigits (← decimalDigits digits)
      inRange (if negative then -value else value)

/-- The exponent of a float behind its letter: digits, which may have a sign and
leading zeros. -/
def exponent? (text : List Char) : Option (List Char) := do
  let digits ← ungroup Char.isDigit (splitSign text).2
  return (if (splitSign text).1 then '-' :: digits else digits)

/-- The unsigned text of a float without its underscores. A float has a fraction, an
exponent or both. -/
def plainFloat? (text : List Char) : Option (List Char) := do
  let isMark c := c == '.' || c == 'e' || c == 'E'
  let whole ← decimalDigits (text.takeWhile (!isMark ·))
  match text.dropWhile (!isMark ·) with
  | '.' :: rest =>
      let isMark c := c == 'e' || c == 'E'
      let fraction ← ungroup Char.isDigit (rest.takeWhile (!isMark ·))
      match rest.dropWhile (!isMark ·) with
      | [] => return whole ++ '.' :: fraction
      | _ :: exponent => return whole ++ '.' :: fraction ++ 'e' :: (← exponent? exponent)
  | _ :: exponent => return whole ++ 'e' :: (← exponent? exponent)
  | [] => none

/-- A float, which must not be greater than every finite number unless it says so. -/
def float? (text : List Char) : Option Float := do
  let (negative, rest) := splitSign text
  let magnitude ←
    if rest = "inf".toList then some (1.0 / 0.0)
    else if rest = "nan".toList then some (0.0 / 0.0)
    else
      match readFloat (← plainFloat? rest) with
      | .ok value => if value.isInf && !negative then none else some value
      | .error _ => none
  return if negative then -magnitude else magnitude

/-- Two digits of a value within bounds, and what follows them. -/
def twoDigits (least greatest : Nat) : List Char → Option (Nat × List Char)
  | a :: b :: rest =>
      let value := natOfDigits [a, b]
      if a.isDigit && b.isDigit && least ≤ value && value ≤ greatest then
        some (value, rest)
      else
        none
  | _ => none

def expectChar (c : Char) : List Char → Option (List Char)
  | first :: rest => if first = c then some rest else none
  | [] => none

def isLeapYear (year : Nat) : Bool :=
  year % 4 == 0 && (year % 100 != 0 || year % 400 == 0)

def daysInMonth (year month : Nat) : Nat :=
  if month = 2 then
    if isLeapYear year then 29 else 28
  else if month = 4 ∨ month = 6 ∨ month = 9 ∨ month = 11 then
    30
  else
    31

/-- What follows a date. -/
def afterDate (text : List Char) : Option (List Char) := do
  let (century, rest) ← twoDigits 0 99 text
  let (year, rest) ← twoDigits 0 99 rest
  let rest ← expectChar '-' rest
  let (month, rest) ← twoDigits 1 12 rest
  let rest ← expectChar '-' rest
  let (_, rest) ← twoDigits 1 (daysInMonth (100 * century + year) month) rest
  return rest

/-- What follows a time of day. A minute may have sixty-one seconds. -/
def afterTime (text : List Char) : Option (List Char) := do
  let (_, rest) ← twoDigits 0 23 text
  let rest ← expectChar ':' rest
  let (_, rest) ← twoDigits 0 59 rest
  let rest ← expectChar ':' rest
  let (_, rest) ← twoDigits 0 60 rest
  match rest with
  | '.' :: c :: digits => if c.isDigit then some (digits.dropWhile Char.isDigit) else none
  | _ => some rest

/-- What follows an offset from universal time, if there is one. -/
def afterOffset (text : List Char) : Option (List Char) :=
  match text with
  | 'Z' :: rest => some rest
  | 'z' :: rest => some rest
  | sign :: rest =>
      if sign = '+' ∨ sign = '-' then do
        let (_, rest) ← twoDigits 0 23 rest
        let rest ← expectChar ':' rest
        let (_, rest) ← twoDigits 0 59 rest
        return rest
      else
        some text
  | [] => some []

def isTime (text : List Char) : Bool :=
  afterTime text == some []

/-- A date with a time behind it, and possibly an offset. -/
def isDateTime (text : List Char) : Bool :=
  ((do
    match ← afterDate text with
    | mark :: rest =>
        if mark = 'T' ∨ mark = 't' ∨ mark = ' ' then
          afterOffset (← afterTime rest)
        else
          none
    | [] => none) : Option (List Char)) == some []

def isDate (text : List Char) : Bool :=
  afterDate text == some []

/-- The value of a text without quotation marks or brackets. -/
def scalar? (text : List Char) : Option Value :=
  if text = "true".toList then some (.boolean true)
  else if text = "false".toList then some (.boolean false)
  else if isDate text || isTime text || isDateTime text then some .moment
  else
    match integer? text with
    | some value => some (.integer value)
    | none => (float? text).map .float

end GeoFilter.Toml
