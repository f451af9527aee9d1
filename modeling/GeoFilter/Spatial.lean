import GeoFilter.Arity
import GeoFilter.Expression

/-!
Spatial predicates: relations between two geometries, distance tests, tests against
a box, and intersection patterns.
-/

namespace GeoFilter

open Text

inductive SpatialOp where
  | intersects
  | disjoint
  | contains
  | within
  | touches
  | crosses
  | overlaps
  | equals
  | dwithin
  | beyond
  | bbox
  | relate
deriving DecidableEq, Repr

namespace SpatialOp

def all : List SpatialOp :=
  [.intersects, .disjoint, .contains, .within, .touches, .crosses, .overlaps, .equals, .dwithin,
    .beyond, .bbox, .relate]

/-- The name under which the predicate is called. -/
def name : SpatialOp → String
  | .intersects => "INTERSECTS"
  | .disjoint => "DISJOINT"
  | .contains => "CONTAINS"
  | .within => "WITHIN"
  | .touches => "TOUCHES"
  | .crosses => "CROSSES"
  | .overlaps => "OVERLAPS"
  | .equals => "EQUALS"
  | .dwithin => "DWITHIN"
  | .beyond => "BEYOND"
  | .bbox => "BBOX"
  | .relate => "RELATE"

/-- What a predicate takes as its arguments. -/
inductive Shape where
  /-- Two geometries. -/
  | binary
  /-- Two geometries, a distance and the unit it is given in. -/
  | distance
  /-- A geometry and the four bounds of a box, and possibly a reference system. -/
  | box
  /-- Two geometries and an intersection pattern. -/
  | pattern
deriving DecidableEq, Repr

def Shape.arity : Shape → Arity
  | .binary => .exactly 2
  | .distance => .exactly 4
  | .box => .between 5 6
  | .pattern => .exactly 3

def shape : SpatialOp → Shape
  | .dwithin => .distance
  | .beyond => .distance
  | .bbox => .box
  | .relate => .pattern
  | _ => .binary

def arity (op : SpatialOp) : Arity := op.shape.arity

/-- The predicate with the given name, in any case. -/
def ofName? (word : String) : Option SpatialOp :=
  all.find? (fun op => sameWord op.name word)

theorem mem_all (op : SpatialOp) : op ∈ all := by
  cases op <;> decide

theorem ofName?_name (op : SpatialOp) : ofName? op.name = some op := by
  cases op <;> decide

end SpatialOp

inductive SpatialPredicate where
  | binary (op : SpatialOp) (left right : Expression)
  | distance (op : SpatialOp) (left right : Expression) (distance : Float) (units : String)
  | box (operand : Expression) (envelope : Envelope) (crs : Option String)
  | pattern (left right : Expression) (pattern : String)

namespace SpatialPredicate

def op : SpatialPredicate → SpatialOp
  | .binary op _ _ => op
  | .distance op _ _ _ _ => op
  | .box _ _ _ => .bbox
  | .pattern _ _ _ => .relate

/-- Equality of predicates by the values of their literals. -/
def same : SpatialPredicate → SpatialPredicate → Bool
  | .binary op a b, .binary op' a' b' => op == op' && a.same a' && b.same b'
  | .distance op a b d units, .distance op' a' b' d' units' =>
      op == op' && a.same a' && b.same b' && d == d' && units == units'
  | .box a e crs, .box a' e' crs' => a.same a' && e == e' && crs == crs'
  | .pattern a b p, .pattern a' b' p' => a.same a' && b.same b' && p == p'
  | _, _ => false

end SpatialPredicate

end GeoFilter
