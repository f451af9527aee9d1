import GeoFilter.Geometry
import GeoFilter.Number.Hypotenuse

/-!
Bounds, areas and lengths in the plane. Sums run from left to right and start from
negative zero, the neutral element of floating-point addition.
-/

namespace GeoFilter

open Number

/-- The smaller of two numbers, the first if they are equal. A number counts before
what is not one. -/
def lesser (a b : Float) : Float :=
  if a.isNaN then b else if b < a then b else a

/-- The greater of two numbers, the first if they are equal. A number counts before
what is not one. -/
def greater (a b : Float) : Float :=
  if a.isNaN then b else if a < b then b else a

/-- The sum of numbers, from left to right. -/
def total (xs : List Float) : Float :=
  xs.foldl (· + ·) (-0.0)

namespace Envelope

/-- The envelope of a single coordinate. -/
def ofCoordinate (c : Coordinate) : Envelope :=
  ⟨c.x, c.y, c.x, c.y⟩

/-- The smallest envelope around two. -/
def join (a b : Envelope) : Envelope :=
  ⟨lesser a.minX b.minX, lesser a.minY b.minY, greater a.maxX b.maxX, greater a.maxY b.maxY⟩

/-- The envelope around what was seen so far and one more envelope, if there is one. -/
def extend : Option Envelope → Option Envelope → Option Envelope
  | some a, some b => some (a.join b)
  | some a, none => some a
  | none, b => b

/-- The smallest envelope around coordinates. -/
def around (coordinates : List Coordinate) : Option Envelope :=
  coordinates.foldl (fun seen c => extend seen (some (ofCoordinate c))) none

end Envelope

/-- The pairs of neighbours in a list. -/
def neighbours (path : List Coordinate) : List (Coordinate × Coordinate) :=
  path.zip path.tail

def pathLength (path : List Coordinate) : Float :=
  total ((neighbours path).map fun (a, b) => hypotenuse (b.x - a.x) (b.y - a.y))

/-- The area inside a ring, by the shoelace formula. -/
def ringArea (ring : Ring) : Float :=
  (total ((neighbours ring).map fun (a, b) => a.x * b.y - b.x * a.y) / 2.0).abs

/-- The area of the shell without the holes. -/
def polygonArea : List Ring → Float
  | [] => 0.0
  | shell :: holes => ringArea shell - total (holes.map ringArea)

namespace Geometry

mutual

/-- The smallest envelope that contains every coordinate and every envelope in a
geometry. There is none if the geometry has neither. -/
def bounds : Geometry → Option Envelope
  | .point position => Envelope.around position.toList
  | .lineString path => Envelope.around path
  | .polygon rings => Envelope.around rings.flatten
  | .multiPoint points => Envelope.around points
  | .multiLineString paths => Envelope.around paths.flatten
  | .multiPolygon polygons => Envelope.around polygons.flatten.flatten
  | .collection members => boundsFrom none members
  | .envelope e => some e

/-- The bounds of what was seen so far and of further members. -/
def boundsFrom (seen : Option Envelope) : List Geometry → Option Envelope
  | [] => seen
  | member :: rest => boundsFrom (Envelope.extend seen (bounds member)) rest

end

mutual

/-- The area of a geometry; points and lines have none. -/
def area : Geometry → Float
  | .polygon rings => polygonArea rings
  | .multiPolygon polygons => total (polygons.map polygonArea)
  | .collection members => areaFrom (-0.0) members
  | .envelope e => e.width * e.height
  | _ => 0.0

/-- A sum so far and the areas of further members. -/
def areaFrom (sum : Float) : List Geometry → Float
  | [] => sum
  | member :: rest => areaFrom (sum + area member) rest

end

mutual

/-- The length of lines, or the perimeter of areas with that of their holes. -/
def length : Geometry → Float
  | .lineString path => pathLength path
  | .multiLineString paths => total (paths.map pathLength)
  | .polygon rings => total (rings.map pathLength)
  | .multiPolygon polygons => total (polygons.flatten.map pathLength)
  | .collection members => lengthFrom (-0.0) members
  | .envelope e => 2.0 * (e.width + e.height)
  | .point _ => 0.0
  | .multiPoint _ => 0.0

/-- A sum so far and the lengths of further members. -/
def lengthFrom (sum : Float) : List Geometry → Float
  | [] => sum
  | member :: rest => lengthFrom (sum + length member) rest

end

end Geometry

end GeoFilter
