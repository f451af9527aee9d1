import GeoFilter.Proofs.Resolved

/-!
The ordinates of a tree, which are the numbers of its geometries. A property of single
ordinates is carried to all of them, beside the finiteness of the other numbers.
-/

namespace GeoFilter

structure Coordinate.Every (P : Float → Prop) (c : Coordinate) : Prop where
  x : P c.x
  y : P c.y
  z : ∀ z ∈ c.z, P z

structure Envelope.Every (P : Float → Prop) (bounds : Envelope) : Prop where
  minX : P bounds.minX
  minY : P bounds.minY
  maxX : P bounds.maxX
  maxY : P bounds.maxY

namespace Geometry

mutual

/-- Every ordinate of a geometry has the property. -/
def Every (P : Float → Prop) : Geometry → Prop
  | .point position => ∀ c ∈ position, c.Every P
  | .lineString path => ∀ c ∈ path, c.Every P
  | .polygon rings => ∀ ring ∈ rings, ∀ c ∈ ring, c.Every P
  | .multiPoint points => ∀ c ∈ points, c.Every P
  | .multiLineString paths => ∀ path ∈ paths, ∀ c ∈ path, c.Every P
  | .multiPolygon polygons => ∀ rings ∈ polygons, ∀ ring ∈ rings, ∀ c ∈ ring, c.Every P
  | .collection members => EveryAll P members
  | .envelope bounds => bounds.Every P

def EveryAll (P : Float → Prop) : List Geometry → Prop
  | [] => True
  | first :: others => Every P first ∧ EveryAll P others

end

end Geometry

section Every

variable {P Q : Float → Prop}

theorem Geometry.everyAll_iff (members : List Geometry) :
    EveryAll P members ↔ ∀ g ∈ members, g.Every P := by
  induction members with
  | nil => simp [EveryAll]
  | cons first others ih => simp [EveryAll, ih]

/-- A geometry that holds nothing has no ordinates. -/
theorem Geometry.every_of_empty? {type : GeometryType} {g : Geometry}
    (h : Geometry.empty? type = some g) : g.Every P := by
  cases type <;> cases h <;> simp [Geometry.Every, Geometry.EveryAll]

theorem Coordinate.Every.imp (himp : ∀ x, P x → Q x) {c : Coordinate} (h : c.Every P) :
    c.Every Q :=
  ⟨himp _ h.x, himp _ h.y, fun z hz => himp z (h.z z hz)⟩

mutual

theorem Geometry.Every.imp (himp : ∀ x, P x → Q x) : ∀ {g : Geometry}, g.Every P → g.Every Q
  | .point _, h => fun c hc => (h c hc).imp himp
  | .lineString _, h => fun c hc => (h c hc).imp himp
  | .polygon _, h => fun ring hring c hc => (h ring hring c hc).imp himp
  | .multiPoint _, h => fun c hc => (h c hc).imp himp
  | .multiLineString _, h => fun path hpath c hc => (h path hpath c hc).imp himp
  | .multiPolygon _, h => fun rings hrings ring hring c hc =>
      (h rings hrings ring hring c hc).imp himp
  | .collection members, h => @Geometry.EveryAll.imp himp members h
  | .envelope _, h => ⟨himp _ h.minX, himp _ h.minY, himp _ h.maxX, himp _ h.maxY⟩

theorem Geometry.EveryAll.imp (himp : ∀ x, P x → Q x) :
    ∀ {members : List Geometry}, Geometry.EveryAll P members → Geometry.EveryAll Q members
  | [], _ => trivial
  | _ :: _, ⟨hfirst, hothers⟩ => ⟨hfirst.imp himp, Geometry.EveryAll.imp himp hothers⟩

end

end Every

/-- Every ordinate of a geometry literal has the property. -/
def Expression.NodeOrdinates (O : Float → Prop) : Expression → Prop
  | .literal (.geometry value) => value.Every O
  | _ => True

/-- A number that an expression itself holds is finite, unless it is an ordinate; ordinates
have the property. -/
structure Expression.NodeNumericWith (O : Float → Prop) (e : Expression) : Prop where
  numeric : e.NodeNumeric
  ordinates : e.NodeOrdinates O

/-- All numbers of the expression are finite but for the ordinates, which have the property. -/
def Expression.NumericWith (O : Float → Prop) (e : Expression) : Prop :=
  e.Every (Expression.NodeNumericWith O)

/-- All numbers of the filter are finite but for the ordinates, which have the property. -/
def Filter.NumericWith (O : Float → Prop) (f : Filter) : Prop :=
  f.Every (Expression.NodeNumericWith O) Filter.NodeNumeric

theorem Expression.NodeNumericWith.imp {O O' : Float → Prop} (himp : ∀ x, O x → O' x)
    {e : Expression} (h : e.NodeNumericWith O) : e.NodeNumericWith O' := by
  refine ⟨h.numeric, ?_⟩
  have hordinates := h.ordinates
  unfold Expression.NodeOrdinates at hordinates ⊢
  split at hordinates
  · exact hordinates.imp himp
  · trivial

end GeoFilter
