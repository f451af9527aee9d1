import GeoFilter.Diagnostic.Fault
import GeoFilter.Token.Word

/-!
Lexemes: the longest piece of text at the front that forms one token.
-/

namespace GeoFilter

open Number Text

/-- The digits at the front of a text. -/
def digitsOf (text : List Char) : List Char :=
  text.takeWhile Char.isDigit

/-- A decimal point with at least one digit behind it. -/
def fractionOf : List Char → List Char
  | '.' :: c :: rest => if c.isDigit then '.' :: digitsOf (c :: rest) else []
  | _ => []

def isExponentMark (c : Char) : Bool :=
  c == 'e' || c == 'E'

def isSign (c : Char) : Bool :=
  c == '+' || c == '-'

/-- A letter E with at least one digit behind it, and possibly a sign between them. -/
def exponentOf : List Char → List Char
  | mark :: c :: rest =>
      if isExponentMark mark then
        if c.isDigit then
          mark :: digitsOf (c :: rest)
        else if isSign c && !(digitsOf rest).isEmpty then
          mark :: c :: digitsOf rest
        else
          []
      else
        []
  | _ => []

/-- The parts of a number. A number with a fraction or an exponent is fractional. -/
structure NumberParts where
  whole : List Char
  fraction : List Char
  exponent : List Char

namespace NumberParts

def text (parts : NumberParts) : List Char :=
  parts.whole ++ parts.fraction ++ parts.exponent

def fractional (parts : NumberParts) : Bool :=
  !parts.fraction.isEmpty || !parts.exponent.isEmpty

/-- The parts of the number at the front of a text. -/
def of (text : List Char) : NumberParts :=
  let whole := digitsOf text
  let fraction := fractionOf (text.drop whole.length)
  let exponent := exponentOf (text.drop (whole.length + fraction.length))
  ⟨whole, fraction, exponent⟩

end NumberParts

def isFiniteNumber (text : List Char) : Bool :=
  match readFloat text with
  | .ok value => value.isFinite
  | .error _ => false

/-- The number at the front of a text. A word character directly behind it spoils
it, and a fractional number has to be finite. -/
def numberLexeme (text : List Char) : Except Fault (TokenKind × List Char) :=
  let parts := NumberParts.of text
  let digits := parts.text
  let attached := (text.drop digits.length).takeWhile isWordChar
  if !attached.isEmpty then
    .error (.malformedNumber (String.ofList (digits ++ attached)))
  else if parts.fractional && !isFiniteNumber digits then
    .error (.numberOutOfRange (String.ofList digits))
  else
    .ok (.number (String.ofList digits), digits)

/-- What stands before the closing quotation mark: its value, in which a doubled mark
counts once, and its text with the closing mark. -/
def quotedRun (mark : Char) : List Char → Option (List Char × List Char)
  | [] => none
  | [c] => if c = mark then some ([], [c]) else none
  | c :: next :: rest =>
      if c = mark then
        if next = mark then
          (quotedRun mark rest).map fun (value, text) => (mark :: value, c :: next :: text)
        else
          some ([], [c])
      else
        (quotedRun mark (next :: rest)).map fun (value, text) => (c :: value, c :: text)

/-- A quotation, whose opening mark stands in front of the text. -/
def quotedLexeme (mark : Char) (quotation : Quotation) (kind : String → TokenKind)
    (text : List Char) : Except Fault (TokenKind × List Char) :=
  match quotedRun mark text with
  | some (value, run) => .ok (kind (String.ofList value), mark :: run)
  | none => .error (.unterminated quotation)

/-- The operator or punctuation mark at the front of a text, and its text. -/
def symbolLexeme? : List Char → Option (TokenKind × List Char)
  | '(' :: _ => some (.punctuation .openParen, ['('])
  | ')' :: _ => some (.punctuation .closeParen, [')'])
  | ',' :: _ => some (.punctuation .comma, [','])
  | '.' :: _ => some (.punctuation .dot, ['.'])
  | '=' :: _ => some (.operator (.comparison .equal), ['='])
  | '<' :: '=' :: _ => some (.operator (.comparison .lesserOrEqual), ['<', '='])
  | '<' :: '>' :: _ => some (.operator (.comparison .notEqual), ['<', '>'])
  | '<' :: _ => some (.operator (.comparison .lesser), ['<'])
  | '>' :: '=' :: _ => some (.operator (.comparison .greaterOrEqual), ['>', '='])
  | '>' :: _ => some (.operator (.comparison .greater), ['>'])
  | '!' :: '=' :: _ => some (.operator (.comparison .notEqual), ['!', '='])
  | '+' :: _ => some (.operator .plus, ['+'])
  | '-' :: _ => some (.operator .minus, ['-'])
  | '*' :: _ => some (.operator .star, ['*'])
  | '/' :: _ => some (.operator .slash, ['/'])
  | _ => none

/-- Whether a number begins at the front: with a digit, or with a point and a digit. -/
def startsNumber : List Char → Bool
  | '.' :: c :: _ => c.isDigit
  | c :: _ => c.isDigit
  | [] => false

/-- The token at the front of a text that begins with `c`, and the text it takes up. -/
def lexeme (d : Dialect) (c : Char) (rest : List Char) :
    Except Fault (TokenKind × List Char) :=
  if startsNumber (c :: rest) then
    numberLexeme (c :: rest)
  else if c = '\'' then
    quotedLexeme c .stringLiteral .string rest
  else if c = '"' then
    match d.doubleQuotes with
    | .identifier => quotedLexeme c .quotedIdentifier .quotedIdentifier rest
    | .string => quotedLexeme c .stringLiteral .string rest
  else if isWordStart c then
    let word := c :: rest.takeWhile isWordChar
    .ok (classifyWord d (String.ofList word), word)
  else
    match symbolLexeme? (c :: rest) with
    | some found => .ok found
    | none => .error (.unrecognized c)

end GeoFilter
