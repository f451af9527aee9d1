/-!
Percent-encoding of query strings. The unreserved characters stand for
themselves; every byte of any other character is written as a percent sign and
two hexadecimal digits.
-/

namespace GeoFilter.Text

/-- Letters, digits and the four marks that need no encoding in a query. -/
def isUnreserved (c : Char) : Bool :=
  c.isAlphanum || c == '-' || c == '_' || c == '.' || c == '~'

def upperHexDigit (n : Nat) : Char :=
  if n < 10 then Char.ofNat (48 + n) else Char.ofNat (55 + n)

def percentByte (byte : UInt8) : List Char :=
  ['%', upperHexDigit (byte.toNat / 16), upperHexDigit (byte.toNat % 16)]

def percentChar (c : Char) : List Char :=
  if isUnreserved c then [c] else (String.utf8EncodeChar c).flatMap percentByte

def percentEncode (text : String) : String :=
  String.ofList (text.toList.flatMap percentChar)

end GeoFilter.Text
