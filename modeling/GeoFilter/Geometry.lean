import GeoFilter.Text.AsciiCase

/-!
Simple-feature geometries in the plane, with an optional third ordinate that takes
no part in measurements.
-/

namespace GeoFilter

open Text

inductive GeometryType where
  | point
  | lineString
  | polygon
  | multiPoint
  | multiLineString
  | multiPolygon
  | collection
  | envelope
deriving DecidableEq, Repr

namespace GeometryType

def all : List GeometryType :=
  [.point, .lineString, .polygon, .multiPoint, .multiLineString, .multiPolygon, .collection,
    .envelope]

/-- The name under which geometries of the type are written. -/
def name : GeometryType → String
  | .point => "POINT"
  | .lineString => "LINESTRING"
  | .polygon => "POLYGON"
  | .multiPoint => "MULTIPOINT"
  | .multiLineString => "MULTILINESTRING"
  | .multiPolygon => "MULTIPOLYGON"
  | .collection => "GEOMETRYCOLLECTION"
  | .envelope => "ENVELOPE"

/-- The type with the given name, in any case. -/
def ofName? (word : String) : Option GeometryType :=
  all.find? (fun type => sameWord type.name word)

theorem mem_all (type : GeometryType) : type ∈ all := by
  cases type <;> decide

theorem ofName?_name (type : GeometryType) : ofName? type.name = some type := by
  cases type <;> decide

end GeometryType

structure Coordinate where
  x : Float
  y : Float
  z : Option Float
deriving BEq

structure Envelope where
  minX : Float
  minY : Float
  maxX : Float
  maxY : Float
deriving BEq

namespace Envelope

def width (e : Envelope) : Float := e.maxX - e.minX

def height (e : Envelope) : Float := e.maxY - e.minY

/-- Whether a minimum lies above its maximum. -/
def inverted (e : Envelope) : Bool :=
  e.maxX < e.minX || e.maxY < e.minY

end Envelope

/-- A closed line. The first ring of a polygon is its shell, the others are holes. -/
abbrev Ring := List Coordinate

inductive Geometry where
  | point (position : Option Coordinate)
  | lineString (path : List Coordinate)
  | polygon (rings : List Ring)
  | multiPoint (points : List Coordinate)
  | multiLineString (paths : List (List Coordinate))
  | multiPolygon (polygons : List (List Ring))
  | collection (members : List Geometry)
  | envelope (bounds : Envelope)

namespace Geometry

/-- The geometry of a type that holds nothing. An envelope always has bounds. -/
def empty? : GeometryType → Option Geometry
  | .point => some (.point none)
  | .lineString => some (.lineString [])
  | .polygon => some (.polygon [])
  | .multiPoint => some (.multiPoint [])
  | .multiLineString => some (.multiLineString [])
  | .multiPolygon => some (.multiPolygon [])
  | .collection => some (.collection [])
  | .envelope => none

def type : Geometry → GeometryType
  | .point _ => .point
  | .lineString _ => .lineString
  | .polygon _ => .polygon
  | .multiPoint _ => .multiPoint
  | .multiLineString _ => .multiLineString
  | .multiPolygon _ => .multiPolygon
  | .collection _ => .collection
  | .envelope _ => .envelope

/-- Whether a geometry holds nothing. A collection of empty members is not empty. -/
def isEmpty : Geometry → Bool
  | .point position => position.isNone
  | .lineString path => path.isEmpty
  | .polygon rings => rings.isEmpty
  | .multiPoint points => points.isEmpty
  | .multiLineString paths => paths.isEmpty
  | .multiPolygon polygons => polygons.isEmpty
  | .collection members => members.isEmpty
  | .envelope _ => false

theorem isEmpty_of_empty? {type : GeometryType} {g : Geometry} (h : empty? type = some g) :
    g.isEmpty = true ∧ g.type = type := by
  cases type <;> simp only [empty?, Option.some.injEq, reduceCtorEq] at h <;> subst h <;>
    exact ⟨rfl, rfl⟩

mutual

/-- Equality of geometries by the numbers they hold: the two zeros are equal, and a
coordinate that is not a number equals nothing. -/
def same : Geometry → Geometry → Bool
  | .point a, .point b => a == b
  | .lineString a, .lineString b => a == b
  | .polygon a, .polygon b => a == b
  | .multiPoint a, .multiPoint b => a == b
  | .multiLineString a, .multiLineString b => a == b
  | .multiPolygon a, .multiPolygon b => a == b
  | .collection a, .collection b => sameAll a b
  | .envelope a, .envelope b => a == b
  | _, _ => false

def sameAll : List Geometry → List Geometry → Bool
  | [], [] => true
  | a :: as, b :: bs => same a b && sameAll as bs
  | _, _ => false

end

end Geometry

end GeoFilter
