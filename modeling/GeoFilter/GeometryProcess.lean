import GeoFilter.Expression
import GeoFilter.Geometry.Measure

/-!
Geometry processes: named computations on literals, each with a description of what
it takes and gives.
-/

namespace GeoFilter

structure ProcessDescriptor where
  name : String
  title : String
  inputs : List String
  output : String
deriving DecidableEq, Repr

inductive ProcessFault where
  /-- Another process is already held under the name. -/
  | conflict (name : String)
  | unknown (name : String)
  | arity (name : String) (expected given : Nat)
  /-- An input is of a kind that the process cannot take. Inputs count from one. -/
  | invalidInput (name : String) (index : Nat) (found : String)
deriving DecidableEq, Repr

def ProcessFault.message : ProcessFault → String
  | .conflict name => s!"process `{name}` is already registered with a different factory"
  | .unknown name => s!"unknown process `{name}`"
  | .arity name expected given =>
      s!"process `{name}` expects {expected} inputs but {given} were given"
  | .invalidInput name index found =>
      s!"process `{name}` cannot take {found} as input {index}"

structure GeometryProcess where
  descriptor : ProcessDescriptor
  run : List Literal → Except ProcessFault Literal

/-- The kind of a literal, in words. -/
def Literal.describeKind : Literal → String
  | .integer _ => "an integer"
  | .float _ => "a float"
  | .string _ => "a string"
  | .boolean _ => "a boolean"
  | .null => "null"
  | .geometry _ => "a geometry"

namespace GeometryProcess

/-- The geometry that is the only input of a process. -/
def onlyGeometry (name : String) : List Literal → Except ProcessFault Geometry
  | [.geometry value] => .ok value
  | [other] => .error (.invalidInput name 1 other.describeKind)
  | inputs => .error (.arity name 1 inputs.length)

/-- A process that measures one geometry. -/
def measuring (name title output : String) (measure : Geometry → Literal) :
    GeometryProcess where
  descriptor := ⟨name, title, ["geometry"], output⟩
  run inputs := (onlyGeometry name inputs).map measure

def area : GeometryProcess :=
  measuring "geo:area" "Planar area of a geometry" "float" fun g => .float g.area

/-- Gives the envelope, or null for a geometry without a coordinate. -/
def bounds : GeometryProcess :=
  measuring "geo:bounds" "Bounding envelope of a geometry" "envelope" fun g =>
    match g.bounds with
    | some e => .geometry (.envelope e)
    | none => .null

def length : GeometryProcess :=
  measuring "geo:length" "Planar length or perimeter of a geometry" "float" fun g =>
    .float g.length

end GeometryProcess

end GeoFilter
