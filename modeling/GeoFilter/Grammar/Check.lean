import GeoFilter.Diagnostic.Fault
import GeoFilter.Dialect
import GeoFilter.Geometry.Measure

/-!
What a filter has to satisfy beyond its form: numbers in range, the right arguments
for functions and spatial predicates, and geometries with enough points.
-/

namespace GeoFilter.Check

open Number

/-- Whether the text of a number is that of a floating-point number. -/
def isFloatText (text : String) : Bool :=
  text.toList.any fun c => c == '.' || c == 'e' || c == 'E'

/-- The literal that a number denotes. A minus sign in front belongs to it, so that
the least integer can be written. -/
def numberLiteral (negative : Bool) (text : String) : Except Fault Literal :=
  if isFloatText text then
    match readFloat text.toList with
    | .ok value => .ok (.float (if negative then -value else value))
    | .error cause => .error (.invalidNumber text cause)
  else
    let signed := if negative then "-" ++ text else text
    match readInteger signed.toList with
    | .ok value => .ok (.integer value)
    | .error cause => .error (.integerOutOfRange signed cause)

/-- The ordinate that a number denotes. -/
def ordinate (negative : Bool) (text : String) : Except Fault Float :=
  match readFloat text.toList with
  | .ok value => .ok (if negative then -value else value)
  | .error cause => .error (.invalidCoordinate text cause)

/-- Whether a function may be called with a number of arguments. -/
def functionFault? (d : Dialect) (name : String) (given : Nat) : Option Fault :=
  match d.functionArity? name with
  | some arity =>
      if arity.accepts given then none else some (.functionArity name arity given)
  | none => if d.strictFunctions then some (.unknownFunction name) else none

/-- Geometries, properties and calls can denote a geometry; the latter two are
resolved only when the filter is used. -/
def canBeGeometry : Expression → Bool
  | .literal (.geometry _) => true
  | .property _ => true
  | .call _ _ => true
  | _ => false

def geometryOperand (op : SpatialOp) (index : Nat) (operand : Expression) :
    Except Fault Unit :=
  if canBeGeometry operand then .ok () else .error (.geometryOperand op index)

def numericArgument (op : SpatialOp) (argument : LiteralArgument) (given : Expression) :
    Except Fault Float :=
  match given.literal?.bind Literal.toFloat? with
  | some value => .ok value
  | none => .error (.literalArgument op argument)

def stringArgument (op : SpatialOp) (argument : LiteralArgument) (given : Expression) :
    Except Fault String :=
  match given.string? with
  | some value => .ok value
  | none => .error (.literalArgument op argument)

/-- A unit may be given as a string or as a bare word. -/
def unitsArgument (op : SpatialOp) : Expression → Except Fault String
  | .property units => .ok units
  | given => stringArgument op .units given

def isIntersectionMark (c : Char) : Bool :=
  let upper := c.toUpper
  upper == 'T' || upper == 'F' || upper == '*' || upper == '0' || upper == '1' || upper == '2'

/-- Nine marks, one for each pair of interior, boundary and exterior. -/
def isIntersectionPattern (pattern : String) : Bool :=
  pattern.toList.length == 9 && pattern.toList.all isIntersectionMark

def box (op : SpatialOp) (operand minX minY maxX maxY : Expression) (crs : Option String) :
    Except Fault SpatialPredicate := do
  geometryOperand op 1 operand
  let minX ← numericArgument op .minX minX
  let minY ← numericArgument op .minY minY
  let maxX ← numericArgument op .maxX maxX
  let maxY ← numericArgument op .maxY maxY
  let envelope : Envelope := ⟨minX, minY, maxX, maxY⟩
  if envelope.inverted then
    throw .invertedBox
  return .box operand envelope crs

/-- The predicate that a call denotes, if its arguments fit the shape of the
predicate in number and in kind. -/
def spatialPredicate (op : SpatialOp) (arguments : List Expression) :
    Except Fault SpatialPredicate :=
  match op.shape, arguments with
  | .binary, [left, right] => do
      geometryOperand op 1 left
      geometryOperand op 2 right
      return .binary op left right
  | .distance, [left, right, distance, units] => do
      geometryOperand op 1 left
      geometryOperand op 2 right
      let distance ← numericArgument op .distance distance
      if distance < 0.0 then
        throw (.negativeDistance op)
      let units ← unitsArgument op units
      return .distance op left right distance units
  | .box, [operand, minX, minY, maxX, maxY] => box op operand minX minY maxX maxY none
  | .box, [operand, minX, minY, maxX, maxY, crs] => do
      let crs ← stringArgument op .crs crs
      box op operand minX minY maxX maxY (some crs)
  | .pattern, [left, right, pattern] => do
      geometryOperand op 1 left
      geometryOperand op 2 right
      let pattern ← stringArgument op .pattern pattern
      if !isIntersectionPattern pattern then
        throw .intersectionPattern
      return .pattern left right pattern
  | _, _ => .error (.spatialArity op arguments.length)

def lineFault? (path : List Coordinate) : Option Fault :=
  if path.length < 2 then some .shortLine else none

/-- A ring needs three corners and has to end where it began. -/
def ringFault? (ring : Ring) : Option Fault :=
  if ring.length < 4 then some .shortRing
  else if ring.head? == ring.getLast? then none
  else some .openRing

mutual

/-- The first fault of a geometry. -/
def geometryFault? : Geometry → Option Fault
  | .lineString path => lineFault? path
  | .multiLineString paths => paths.findSome? lineFault?
  | .polygon rings => rings.findSome? ringFault?
  | .multiPolygon polygons => polygons.flatten.findSome? ringFault?
  | .collection members => membersFault? members
  | .envelope bounds => if bounds.inverted then some .invertedEnvelope else none
  | .point _ => none
  | .multiPoint _ => none

def membersFault? : List Geometry → Option Fault
  | [] => none
  | member :: rest => (geometryFault? member).or (membersFault? rest)

end

end GeoFilter.Check
