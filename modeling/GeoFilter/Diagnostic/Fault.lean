import GeoFilter.Arity
import GeoFilter.Number.Reading
import GeoFilter.Text.Blank
import GeoFilter.Token

/-!
The faults that a text or a list of tokens can have, and their wording.
-/

namespace GeoFilter

open Number

inductive ErrorKind where
  /-- A bad character, an unterminated literal or a malformed number. -/
  | lexical
  /-- A token in the wrong place. -/
  | syntactic
  /-- A wrong number of arguments, a bad literal or geometry, or too much nesting. -/
  | semantic
  /-- A diagnostic that could not be shown. -/
  | internal
deriving DecidableEq, Repr

def ErrorKind.describe : ErrorKind → String
  | .lexical => "lexical"
  | .syntactic => "syntax"
  | .semantic => "semantic"
  | .internal => "internal"

/-- What can stand between quotation marks. -/
inductive Quotation where
  | stringLiteral
  | quotedIdentifier
deriving DecidableEq, Repr

def Quotation.describe : Quotation → String
  | .stringLiteral => "string literal"
  | .quotedIdentifier => "quoted identifier"

/-- What spends the nesting allowance. -/
inductive Depth where
  | nesting
  | chain
deriving DecidableEq, Repr

def Depth.describe : Depth → String
  | .nesting => "nesting"
  | .chain => "arithmetic chain"

/-- What should have stood in the place of a token. -/
inductive Expectation where
  | expression
  | keyword (keyword : Keyword)
  | punctuation (mark : Punctuation)
  | commaOrClose
  | negatedPredicate
  | stringPattern
  | propertyName
  | coordinate
  | geometry
  | featureIdentifier
deriving DecidableEq, Repr

def Expectation.describe : Expectation → String
  | .expression => "an expression"
  | .keyword word => s!"keyword `{word.name}`"
  | .punctuation mark => s!"`{mark.symbol}`"
  | .commaOrClose => "`,` or `)`"
  | .negatedPredicate => "`LIKE`, `ILIKE`, `BETWEEN` or `IN`"
  | .stringPattern => "a string pattern"
  | .propertyName => "a property name"
  | .coordinate => "a coordinate"
  | .geometry => "a geometry"
  | .featureIdentifier => "a feature identifier"

/-- The arguments of spatial predicates that have to be literals. -/
inductive LiteralArgument where
  | crs
  | minX
  | minY
  | maxX
  | maxY
  | distance
  | units
  | pattern
deriving DecidableEq, Repr

namespace LiteralArgument

def name : LiteralArgument → String
  | .crs => "crs"
  | .minX => "minx"
  | .minY => "miny"
  | .maxX => "maxx"
  | .maxY => "maxy"
  | .distance => "distance"
  | .units => "units"
  | .pattern => "pattern"

/-- What the argument has to be. -/
def required : LiteralArgument → String
  | .crs => "a string literal"
  | .pattern => "a string literal"
  | .units => "a unit name"
  | _ => "a numeric literal"

end LiteralArgument

inductive Fault where
  | unrecognized (c : Char)
  | unterminated (quotation : Quotation)
  | malformedNumber (text : String)
  | numberOutOfRange (text : String)
  | unexpected (found : TokenKind) (expected : Expectation)
  | unclosed
  | predicateExpected
  | expressionExpected
  | trailing (found : TokenKind)
  | chainedComparison (found : TokenKind)
  | tooDeep (depth : Depth) (limit : Nat)
  | invalidNumber (text : String) (cause : NumberFault)
  | integerOutOfRange (text : String) (cause : NumberFault)
  | invalidCoordinate (text : String) (cause : NumberFault)
  | noValues
  | cannotBeEmpty (type : GeometryType)
  | functionArity (name : String) (arity : Arity) (given : Nat)
  | unknownFunction (name : String)
  | spatialArity (op : SpatialOp) (given : Nat)
  | literalArgument (op : SpatialOp) (argument : LiteralArgument)
  | geometryOperand (op : SpatialOp) (index : Nat)
  | invertedBox
  | negativeDistance (op : SpatialOp)
  | intersectionPattern
  | shortLine
  | shortRing
  | openRing
  | invertedEnvelope
deriving DecidableEq, Repr

/-- A number of arguments that is not accepted, in words. -/
def arityMessage (what : String) (arity : Arity) (given : Nat) : String :=
  s!"{what} expects {arity.describe} but {Arity.describeGiven given}"

/-- At least four hexadecimal digits. -/
def hexCode (c : Char) : String :=
  let digits := (Nat.toDigits 16 c.toNat).map Char.toUpper
  String.ofList (List.replicate (4 - digits.length) '0' ++ digits)

namespace Fault

def kind : Fault → ErrorKind
  | .unrecognized _ | .unterminated _ | .malformedNumber _ | .numberOutOfRange _ => .lexical
  | .unexpected _ _ | .unclosed | .predicateExpected | .expressionExpected | .trailing _
  | .chainedComparison _ => .syntactic
  | _ => .semantic

def message : Fault → String
  | .unrecognized c =>
      if Text.isControl c then
        s!"unrecognized character U+{hexCode c}"
      else
        s!"unrecognized character `{c}`"
  | .unterminated quotation => s!"unterminated {quotation.describe}"
  | .malformedNumber text => s!"malformed number `{text}`"
  | .numberOutOfRange text => s!"number `{text}` is out of range"
  | .unexpected found expected => s!"unexpected {found.describe}, expected {expected.describe}"
  | .unclosed => "unclosed parenthesis, expected `)` before end of input"
  | .predicateExpected => "expected a predicate but found a plain expression"
  | .expressionExpected => "expected an expression but found a predicate"
  | .trailing found => s!"unexpected trailing input: {found.describe}"
  | .chainedComparison found => s!"unexpected {found.describe}, comparisons cannot be chained"
  | .tooDeep depth limit => s!"{depth.describe} exceeds the maximum depth of {limit}"
  | .invalidNumber text _ => s!"invalid number `{text}`"
  | .integerOutOfRange text _ => s!"integer literal `{text}` is out of range"
  | .invalidCoordinate text _ => s!"invalid coordinate `{text}`"
  | .noValues => "`IN` requires at least one value"
  | .cannotBeEmpty type => s!"{type.name} cannot be EMPTY"
  | .functionArity name arity given => arityMessage s!"function `{name}`" arity given
  | .unknownFunction name => s!"unknown function `{name}`"
  | .spatialArity op given => arityMessage s!"spatial predicate `{op.name}`" op.arity given
  | .literalArgument op argument =>
      s!"argument `{argument.name}` of `{op.name}` must be {argument.required}"
  | .geometryOperand op index =>
      s!"argument {index} of `{op.name}` must be a geometry, property or function"
  | .invertedBox => "BBOX minimum exceeds its maximum"
  | .negativeDistance op => s!"distance of `{op.name}` cannot be negative"
  | .intersectionPattern => "invalid DE-9IM intersection pattern for `RELATE`"
  | .shortLine => "LINESTRING requires at least 2 points"
  | .shortRing => "POLYGON ring requires at least 4 points"
  | .openRing => "POLYGON ring is not closed"
  | .invertedEnvelope => "ENVELOPE minimum exceeds its maximum"

/-- What stands behind a fault in a number. -/
def cause? : Fault → Option NumberFault
  | .invalidNumber _ cause => some cause
  | .integerOutOfRange _ cause => some cause
  | .invalidCoordinate _ cause => some cause
  | _ => none

end Fault

end GeoFilter
