import GeoFilter.Dialect
import GeoFilter.Proofs.Nodes
import GeoFilter.Proofs.Text.Pieces
import GeoFilter.Token.Word
import GeoFilter.Writing

/-!
What the nodes of a tree have to satisfy in a dialect. A resolved node has passed every
check on its form; a named one can be called by its name, and a numeric one holds no
number that is infinite or undefined.
-/

namespace GeoFilter

/-- At least four points, of which the last is where the first is. -/
def IsRing (ring : Ring) : Prop :=
  4 ≤ ring.length ∧ (ring.head? == ring.getLast?) = true

namespace Geometry

mutual

/-- Whether the lines and rings of a geometry have enough points, its polygons have rings
and its envelopes are not inverted. -/
def Solid : Geometry → Prop
  | .point _ => True
  | .lineString path => 2 ≤ path.length
  | .polygon rings => ∀ ring ∈ rings, IsRing ring
  | .multiPoint _ => True
  | .multiLineString paths => ∀ path ∈ paths, 2 ≤ path.length
  | .multiPolygon polygons => ∀ rings ∈ polygons, rings ≠ [] ∧ ∀ ring ∈ rings, IsRing ring
  | .collection members => SolidAll members
  | .envelope bounds => bounds.inverted = false

def SolidAll : List Geometry → Prop
  | [] => True
  | first :: others => Solid first ∧ SolidAll others

end

/-- A line string may also be empty, but only where it is no member of a collection. -/
def Sound (g : Geometry) : Prop :=
  g = .lineString [] ∨ g.Solid

end Geometry

/-- Geometry literals, properties and calls can denote a geometry. -/
def Expression.IsGeometric : Expression → Prop
  | .literal (.geometry _) => True
  | .property _ => True
  | .call _ _ => True
  | _ => False

/-- Whether a dialect lets a function be called with a number of arguments. A strict one
has to know the function. -/
structure Dialect.Admits (d : Dialect) (name : String) (given : Nat) : Prop where
  arity : ∀ arity, d.functionArity? name = some arity → arity.accepts given = true
  known : d.strictFunctions = true → (d.functionArity? name).isSome = true

def Expression.NodeResolved (d : Dialect) : Expression → Prop
  | .literal (.geometry value) => value.Sound
  | .call name arguments => d.Admits name arguments.length
  | _ => True

/-- The operators that take two geometries and nothing else. -/
def SpatialOp.binaryOps : List SpatialOp :=
  [.intersects, .disjoint, .contains, .within, .touches, .crosses, .overlaps, .equals]

/-- The operators that take a distance. -/
def SpatialOp.distanceOps : List SpatialOp :=
  [.dwithin, .beyond]

/-- The marks of an intersection pattern. -/
def intersectionMarks : List Char :=
  ['T', 't', 'F', 'f', '*', '0', '1', '2']

/-- Whether the parts of a spatial predicate are what its operator takes. -/
def SpatialPredicate.Fits : SpatialPredicate → Prop
  | .binary op left right =>
      op ∈ SpatialOp.binaryOps ∧ left.IsGeometric ∧ right.IsGeometric
  | .distance op left right limit _ =>
      op ∈ SpatialOp.distanceOps ∧ left.IsGeometric ∧ right.IsGeometric ∧ ¬limit < 0.0
  | .box operand envelope _ => operand.IsGeometric ∧ envelope.inverted = false
  | .pattern left right marks =>
      left.IsGeometric ∧ right.IsGeometric ∧ marks.toList.length = 9 ∧
        ∀ c ∈ marks.toList, c ∈ intersectionMarks

/-- The filters that a conjunction or disjunction joins. -/
def Filter.operands : Filter → List Filter
  | .logical _ first second others => first :: second :: others
  | _ => []

def Filter.NodeResolved (d : Dialect) : Filter → Prop
  | .logical op first second others => 2 ≤ (Filter.logical op first second others).operands.length
  | .oneOf _ values => values ≠ []
  | .ids identifiers => identifiers ≠ []
  | .like test => test.characters = d.like
  | .spatial predicate => d.spatialEnabled predicate.op = true ∧ predicate.Fits
  | _ => True

/-- Every node of the expression is resolved in the dialect. -/
def Expression.Resolved (d : Dialect) (e : Expression) : Prop :=
  e.Every (Expression.NodeResolved d)

/-- Every node of the filter is resolved in the dialect. -/
def Filter.Resolved (d : Dialect) (f : Filter) : Prop :=
  f.Every (Expression.NodeResolved d) (Filter.NodeResolved d)

section Words

variable {d : Dialect}

theorem point_not_mem_of_isPlainWord {name : String} (h : isPlainWord d name = true) :
    '.' ∉ name.toList := by
  intro hmem
  unfold isPlainWord at h
  split at h
  · cases h
  · rename_i first rest htext
    rw [htext] at hmem
    simp only [Bool.and_eq_true] at h
    have hpoint : isWordChar '.' = true := by
      rcases List.mem_cons.mp hmem with rfl | hrest
      · exact isWordChar_of_isWordStart h.1.1
      · exact List.all_eq_true.mp h.1.2 _ hrest
    exact absurd hpoint (by decide +kernel)

/-- Plain words with dots between them are a plain path. -/
theorem isPlainPath_intercalate {names : List String} (hnonempty : names ≠ [])
    (h : ∀ name ∈ names, isPlainWord d name = true) :
    Writing.isPlainPath d (".".intercalate names) = true := by
  have hpieces : Text.pieces '.' (".".intercalate names).toList = names.map String.toList := by
    rw [String.toList_intercalate]
    apply Text.pieces_intercalate
    · simpa using hnonempty
    · intro part hpart
      obtain ⟨name, hname, rfl⟩ := List.mem_map.mp hpart
      exact point_not_mem_of_isPlainWord (h name hname)
  unfold Writing.isPlainPath
  rw [hpieces, List.all_map, List.all_eq_true]
  intro name hname
  simpa using h name hname

theorem isPlainPath_of_isPlainWord {name : String} (h : isPlainWord d name = true) :
    Writing.isPlainPath d name = true := by
  have hsingle := @isPlainPath_intercalate d [name] (by simp) (by simpa using h)
  rwa [String.intercalate_singleton] at hsingle

end Words

/-- A property name can stand between double quotes where these denote identifiers, and
is a path of plain words elsewhere; the name of a function is a plain word. -/
def Expression.NodeNamed (d : Dialect) : Expression → Prop
  | .property name => d.doubleQuotes = .identifier ∨ Writing.isPlainPath d name = true
  | .call name _ => isPlainWord d name = true
  | _ => True

/-- Coordinates may still be infinite. -/
def Expression.NodeNumeric : Expression → Prop
  | .literal (.float value) => value.isFinite = true
  | _ => True

structure Envelope.Finite (bounds : Envelope) : Prop where
  minX : bounds.minX.isFinite = true
  minY : bounds.minY.isFinite = true
  maxX : bounds.maxX.isFinite = true
  maxY : bounds.maxY.isFinite = true

def Filter.NodeNumeric : Filter → Prop
  | .spatial (.distance _ _ _ limit _) => limit.isFinite = true
  | .spatial (.box _ envelope _) => envelope.Finite
  | _ => True

/-- What every expression in an accepted tree satisfies. -/
structure Expression.NodeAccepted (d : Dialect) (e : Expression) : Prop where
  resolved : e.NodeResolved d
  named : e.NodeNamed d
  numeric : e.NodeNumeric

/-- What every filter in an accepted tree satisfies. -/
structure Filter.NodeAccepted (d : Dialect) (f : Filter) : Prop where
  resolved : f.NodeResolved d
  numeric : f.NodeNumeric

def Expression.Accepted (d : Dialect) (e : Expression) : Prop :=
  e.Every (Expression.NodeAccepted d)

def Filter.Accepted (d : Dialect) (f : Filter) : Prop :=
  f.Every (Expression.NodeAccepted d) (Filter.NodeAccepted d)

theorem Expression.Accepted.resolved {d : Dialect} {e : Expression} (h : e.Accepted d) :
    e.Resolved d :=
  h.imp fun _ hnode => hnode.resolved

theorem Filter.Accepted.resolved {d : Dialect} {f : Filter} (h : f.Accepted d) :
    f.Resolved d :=
  h.imp (fun _ hnode => hnode.resolved) fun _ hnode => hnode.resolved

end GeoFilter
