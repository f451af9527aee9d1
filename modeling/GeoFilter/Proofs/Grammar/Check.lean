import GeoFilter.Proofs.Diagnostic.Fault
import GeoFilter.Proofs.Number.Integer
import GeoFilter.Proofs.Ordinates
import GeoFilter.Proofs.Text.Lowercase

/-!
What the checks establish. A check that passes settles what its name says of the numbers,
calls, predicates and geometries it lets through, and one that fails finds a fault that can
be named.
-/

namespace GeoFilter

namespace Check

open Number

variable {d : Dialect} {α β : Type}

/-- The value that passes a check has the property, or the fault can be named. -/
def Establishes (Q : α → Prop) : Except Fault α → Prop
  | .ok value => Q value
  | .error fault => fault.Nameable

theorem establishes_pure {Q : α → Prop} {value : α} (h : Q value) :
    Establishes Q (pure value) :=
  h

theorem establishes_throw {Q : α → Prop} {fault : Fault} (h : fault.Nameable) :
    Establishes Q (throw fault) :=
  h

theorem Establishes.bind {Q : α → Prop} {R : β → Prop} {first : Except Fault α}
    {second : α → Except Fault β} (hfirst : Establishes Q first)
    (hsecond : ∀ value, Q value → Establishes R (second value)) :
    Establishes R (first >>= second) := by
  cases first with
  | ok value => exact hsecond value hfirst
  | error fault => exact hfirst

section Numbers

variable {text : String}

theorem IsNumberText.isPlain (h : IsNumberText text.toList) : IsPlain text :=
  fun c hc => isPlainChar_of_isNumberChar (h.chars c hc)

theorem isFinite_ite_neg {value : Float} (h : value.isFinite = true) (negative : Bool) :
    (if negative then -value else value).isFinite = true := by
  cases negative with
  | true => exact isFinite_neg h
  | false => exact h

/-- A literal with a point or an exponent is finite, since the scanner let it through. -/
theorem establishes_numberLiteral {O : Float → Prop} (h : IsNumberText text.toList)
    (negative : Bool) :
    Establishes (fun value => (Expression.literal value).NodeNumericWith O ∧
      (Expression.literal value).NodeResolved d) (numberLiteral negative text) := by
  have hplain := IsNumberText.isPlain h
  unfold numberLiteral
  split
  · rename_i hfloat
    have hfinite := h.finite hfloat
    unfold isFiniteNumber at hfinite
    split
    · rename_i value hread
      rw [hread] at hfinite
      exact ⟨⟨isFinite_ite_neg hfinite negative, trivial⟩, trivial⟩
    · exact hplain
  · have hsigned : IsPlain (if negative then "-" ++ text else text) := by
      cases negative with
      | true => exact isPlain_append.mpr ⟨isPlain_literal rfl, hplain⟩
      | false => exact hplain
    simp only
    split
    · exact ⟨⟨trivial, trivial⟩, trivial⟩
    · exact hsigned

theorem establishes_ordinate (h : IsNumberText text.toList) (negative : Bool) :
    Establishes (fun value => ordinate negative text = .ok value) (ordinate negative text) := by
  cases hread : ordinate negative text with
  | ok value => rfl
  | error fault =>
      unfold ordinate at hread
      split at hread
      · cases hread
      · cases hread
        exact IsNumberText.isPlain h

end Numbers

section Calls

variable {name : String} {given : Nat}

/-- A call without a fault is one that the dialect admits. -/
theorem admits_of_functionFault? (h : functionFault? d name given = none) :
    d.Admits name given := by
  unfold functionFault? at h
  cases harity : d.functionArity? name with
  | some arity =>
      rw [harity] at h
      refine ⟨?_, fun _ => by rw [harity]; rfl⟩
      intro other hother
      rw [harity] at hother
      cases hother
      simpa using h
  | none =>
      rw [harity] at h
      refine ⟨fun other hother => ?_, fun hstrict => ?_⟩
      · rw [harity] at hother
        cases hother
      · rw [hstrict] at h
        cases h

theorem functionFault?_of_admits (h : d.Admits name given) :
    functionFault? d name given = none := by
  unfold functionFault?
  cases harity : d.functionArity? name with
  | some arity => simp [h.arity arity harity]
  | none =>
      have hstrict : d.strictFunctions = false := by
        cases hstrict : d.strictFunctions with
        | false => rfl
        | true =>
            have hknown := h.known hstrict
            rw [harity] at hknown
            cases hknown
      simp [hstrict]

theorem nameable_functionFault? (hname : isPlainWord d name = true) {fault : Fault}
    (h : functionFault? d name given = some fault) : fault.Nameable := by
  have hplain := isPlain_of_isPlainWord hname
  unfold functionFault? at h
  split at h
  · split at h
    · cases h
    · cases h
      exact hplain
  · split at h
    · cases h
      exact hplain
    · cases h

end Calls

section Spatial

variable {op : SpatialOp}

theorem canBeGeometry_iff (e : Expression) : canBeGeometry e = true ↔ e.IsGeometric := by
  unfold canBeGeometry
  split <;> simp [Expression.IsGeometric]

theorem establishes_geometryOperand (index : Nat) (e : Expression) :
    Establishes (fun _ => e.IsGeometric) (geometryOperand op index e) := by
  unfold geometryOperand
  split
  · rename_i h
    exact (canBeGeometry_iff e).mp h
  · trivial

theorem isFinite_toFloat? {e : Expression} (h : e.NodeNumeric) {value : Float}
    (hvalue : e.literal?.bind Literal.toFloat? = some value) : value.isFinite = true := by
  unfold Expression.literal? at hvalue
  split at hvalue
  · rename_i literal
    rw [Option.bind_some] at hvalue
    cases literal with
    | integer integer =>
        cases hvalue
        exact isFinite_ofInt integer
    | float float =>
        cases hvalue
        exact h
    | _ => cases hvalue
  · cases hvalue

theorem establishes_numericArgument (argument : LiteralArgument) {e : Expression}
    (h : e.NodeNumeric) :
    Establishes (fun value => value.isFinite = true) (numericArgument op argument e) := by
  unfold numericArgument
  split
  · rename_i hvalue
    exact isFinite_toFloat? h hvalue
  · trivial

theorem establishes_stringArgument (argument : LiteralArgument) (e : Expression) :
    Establishes (fun _ => True) (stringArgument op argument e) := by
  unfold stringArgument
  split <;> trivial

theorem establishes_unitsArgument (e : Expression) :
    Establishes (fun _ => True) (unitsArgument op e) := by
  unfold unitsArgument
  split
  · trivial
  · exact establishes_stringArgument .units e

/-- What a predicate made of arguments is: it has the operator of the call, its parts fit
the operator, its numbers are finite, and it is applied to arguments of the call. -/
structure IsPredicateOf (op : SpatialOp) (arguments : List Expression)
    (predicate : SpatialPredicate) : Prop where
  op : predicate.op = op
  fits : predicate.Fits
  numeric : (Filter.spatial predicate).NodeNumeric
  operands : ∀ e ∈ predicate.operands, e ∈ arguments

theorem mem_binaryOps (h : op.shape = .binary) : op ∈ SpatialOp.binaryOps := by
  cases op <;> first | decide | cases h

theorem mem_distanceOps (h : op.shape = .distance) : op ∈ SpatialOp.distanceOps := by
  cases op <;> first | decide | cases h

theorem eq_bbox_of_shape (h : op.shape = .box) : op = .bbox := by
  cases op <;> first | rfl | cases h

theorem eq_relate_of_shape (h : op.shape = .pattern) : op = .relate := by
  cases op <;> first | rfl | cases h

theorem mem_intersectionMarks {c : Char} (h : isIntersectionMark c = true) :
    c ∈ intersectionMarks := by
  have hascii : ∀ n : Fin 128, isIntersectionMark (Char.ofNat n) = true →
      Char.ofNat n ∈ intersectionMarks := by
    decide +kernel
  rcases Nat.lt_or_ge c.toNat 128 with hsmall | hlarge
  · have hmark := hascii ⟨c.toNat, hsmall⟩
    rw [Char.ofNat_toNat] at hmark
    exact hmark h
  · simp only [isIntersectionMark, Text.toUpper_of_not_small (c := c) (by omega), Bool.or_eq_true, beq_iff_eq] at h
    rcases h with ((((rfl | rfl) | rfl) | rfl) | rfl) | rfl <;> exact absurd hlarge (by decide)

/-- Every mark is accepted, in either case. -/
theorem isIntersectionMark_of_mem {c : Char} (h : c ∈ intersectionMarks) :
    isIntersectionMark c = true := by
  have hall : intersectionMarks.all isIntersectionMark = true := rfl
  exact List.all_eq_true.mp hall c h

theorem isIntersectionPattern_iff (marks : String) :
    isIntersectionPattern marks = true ↔
      marks.toList.length = 9 ∧ ∀ c ∈ marks.toList, c ∈ intersectionMarks := by
  unfold isIntersectionPattern
  rw [Bool.and_eq_true, beq_iff_eq, List.all_eq_true]
  exact and_congr_right fun _ =>
    ⟨fun h c hc => mem_intersectionMarks (h c hc), fun h c hc => isIntersectionMark_of_mem (h c hc)⟩

theorem establishes_box {operand minX minY maxX maxY : Expression} (hminX : minX.NodeNumeric)
    (hminY : minY.NodeNumeric) (hmaxX : maxX.NodeNumeric) (hmaxY : maxY.NodeNumeric)
    (crs : Option String) {further : List Expression} :
    Establishes (IsPredicateOf .bbox (operand :: further))
      (box .bbox operand minX minY maxX maxY crs) := by
  apply (establishes_geometryOperand 1 operand).bind
  intro _ hoperand
  apply (establishes_numericArgument .minX hminX).bind
  intro lowX hlowX
  apply (establishes_numericArgument .minY hminY).bind
  intro lowY hlowY
  apply (establishes_numericArgument .maxX hmaxX).bind
  intro highX hhighX
  apply (establishes_numericArgument .maxY hmaxY).bind
  intro highY hhighY
  simp only
  split
  · exact establishes_throw trivial
  · rename_i hinverted
    apply establishes_pure
    refine ⟨rfl, ⟨hoperand, by simpa using hinverted⟩, ⟨hlowX, hlowY, hhighX, hhighY⟩, ?_⟩
    intro e he
    rw [List.mem_singleton.mp he]
    exact List.mem_cons_self

/-- A call whose arguments fit the shape of the operator denotes a predicate; any other
number of arguments is a fault. -/
theorem establishes_spatialPredicate {arguments : List Expression}
    (h : ∀ e ∈ arguments, e.NodeNumeric) :
    Establishes (IsPredicateOf op arguments) (spatialPredicate op arguments) := by
  unfold spatialPredicate
  split
  · rename_i left right hshape
    apply (establishes_geometryOperand 1 left).bind
    intro _ hleft
    apply (establishes_geometryOperand 2 right).bind
    intro _ hright
    apply establishes_pure
    exact ⟨rfl, ⟨mem_binaryOps hshape, hleft, hright⟩, trivial, fun e he => he⟩
  · rename_i left right distance units hshape
    apply (establishes_geometryOperand 1 left).bind
    intro _ hleft
    apply (establishes_geometryOperand 2 right).bind
    intro _ hright
    apply (establishes_numericArgument .distance (h distance (by simp))).bind
    intro limit hlimit
    simp only
    split
    · exact establishes_throw trivial
    · rename_i hnegative
      apply (establishes_unitsArgument units).bind
      intro unit _
      apply establishes_pure
      refine ⟨rfl, ⟨mem_distanceOps hshape, hleft, hright, hnegative⟩, hlimit, ?_⟩
      intro e he
      exact List.mem_append_left [distance, units] he
  · rename_i operand minX minY maxX maxY hshape
    obtain rfl := eq_bbox_of_shape hshape
    exact establishes_box (h minX (by simp)) (h minY (by simp)) (h maxX (by simp))
      (h maxY (by simp)) none
  · rename_i operand minX minY maxX maxY crs hshape
    obtain rfl := eq_bbox_of_shape hshape
    apply (establishes_stringArgument .crs crs).bind
    intro name _
    exact establishes_box (h minX (by simp)) (h minY (by simp)) (h maxX (by simp))
      (h maxY (by simp)) (some name)
  · rename_i left right marks hshape
    obtain rfl := eq_relate_of_shape hshape
    apply (establishes_geometryOperand 1 left).bind
    intro _ hleft
    apply (establishes_geometryOperand 2 right).bind
    intro _ hright
    apply (establishes_stringArgument .pattern marks).bind
    intro value _
    simp only
    split
    · exact establishes_throw trivial
    · rename_i hmarks
      have hvalue : isIntersectionPattern value = true := by simpa using hmarks
      obtain ⟨hlength, hall⟩ := (isIntersectionPattern_iff value).mp hvalue
      apply establishes_pure
      refine ⟨rfl, ⟨hleft, hright, hlength, hall⟩, trivial, ?_⟩
      intro e he
      exact List.mem_append_left [marks] he
  · trivial

end Spatial

section Geometries

theorem lineFault?_eq_none {path : List Coordinate} : lineFault? path = none ↔ 2 ≤ path.length := by
  unfold lineFault?
  split
  · rename_i h
    simp only [reduceCtorEq, false_iff]
    omega
  · rename_i h
    simp only [true_iff]
    omega

theorem ringFault?_eq_none {ring : Ring} : ringFault? ring = none ↔ IsRing ring := by
  unfold ringFault? IsRing
  split
  · rename_i h
    simp only [reduceCtorEq, false_iff]
    omega
  · rename_i h
    split
    · rename_i hclosed
      simp only [true_iff]
      exact ⟨by omega, hclosed⟩
    · rename_i hopen
      simp [hopen]

theorem nameable_lineFault? {path : List Coordinate} {fault : Fault}
    (h : lineFault? path = some fault) : fault.Nameable := by
  unfold lineFault? at h
  split at h
  · cases h
    trivial
  · cases h

theorem nameable_ringFault? {ring : Ring} {fault : Fault} (h : ringFault? ring = some fault) :
    fault.Nameable := by
  unfold ringFault? at h
  split at h
  · cases h
    trivial
  · split at h
    · cases h
    · cases h
      trivial

theorem nameable_findSome? {check : β → Option Fault} {values : List β}
    (hcheck : ∀ {value : β} {fault : Fault}, check value = some fault → fault.Nameable)
    {fault : Fault} (h : values.findSome? check = some fault) : fault.Nameable := by
  obtain ⟨value, -, hvalue⟩ := List.exists_of_findSome?_eq_some h
  exact hcheck hvalue

mutual

theorem nameable_geometryFault? : ∀ {g : Geometry} {fault : Fault},
    geometryFault? g = some fault → fault.Nameable
  | .point _, _, h => nomatch h
  | .lineString _, _, h => nameable_lineFault? h
  | .polygon _, _, h => nameable_findSome? nameable_ringFault? h
  | .multiPoint _, _, h => nomatch h
  | .multiLineString _, _, h => nameable_findSome? nameable_lineFault? h
  | .multiPolygon _, _, h => nameable_findSome? nameable_ringFault? h
  | .collection members, _, h => @nameable_membersFault? members _ h
  | .envelope bounds, fault, h => by
      rw [geometryFault?] at h
      split at h
      · cases h
        trivial
      · cases h

theorem nameable_membersFault? : ∀ {members : List Geometry} {fault : Fault},
    membersFault? members = some fault → fault.Nameable
  | [], _, h => nomatch h
  | member :: rest, fault, h => by
      rw [membersFault?, Option.or_eq_some_iff] at h
      rcases h with hfirst | ⟨-, hrest⟩
      · exact nameable_geometryFault? hfirst
      · exact nameable_membersFault? hrest

end

/-- What a geometry has to bring along for the check of its lines and rings to make it
solid: the polygons of a multipolygon have rings, and the members of a collection are
sound. -/
def Populated : Geometry → Prop
  | .multiPolygon polygons => ∀ rings ∈ polygons, rings ≠ []
  | .collection members => ∀ g ∈ members, g.Sound
  | _ => True

/-- The check refuses an empty line among the members of a collection. -/
theorem solidAll_of_membersFault? {members : List Geometry} (h : ∀ g ∈ members, g.Sound)
    (hfault : membersFault? members = none) : Geometry.SolidAll members := by
  induction members with
  | nil => trivial
  | cons first others ih =>
      rw [membersFault?, Option.or_eq_none_iff] at hfault
      have hothers := ih (fun g hg => h g (List.mem_cons_of_mem _ hg)) hfault.2
      rcases h first List.mem_cons_self with rfl | hsolid
      · exact absurd hfault.1 (by simp [geometryFault?, lineFault?])
      · exact ⟨hsolid, hothers⟩

theorem Populated.solid {g : Geometry} (h : Populated g) (hfault : geometryFault? g = none) :
    g.Solid := by
  cases g with
  | point position => trivial
  | lineString path => exact lineFault?_eq_none.mp hfault
  | polygon rings =>
      intro ring hring
      exact ringFault?_eq_none.mp (List.findSome?_eq_none_iff.mp hfault ring hring)
  | multiPoint points => trivial
  | multiLineString paths =>
      intro path hpath
      exact lineFault?_eq_none.mp (List.findSome?_eq_none_iff.mp hfault path hpath)
  | multiPolygon polygons =>
      intro rings hrings
      refine ⟨h rings hrings, fun ring hring => ?_⟩
      have hmem : ring ∈ polygons.flatten := List.mem_flatten.mpr ⟨rings, hrings, hring⟩
      exact ringFault?_eq_none.mp (List.findSome?_eq_none_iff.mp hfault ring hmem)
  | collection members => exact solidAll_of_membersFault? h hfault
  | envelope bounds => simpa [geometryFault?, Geometry.Solid] using hfault

mutual

/-- A solid geometry passes the check. -/
theorem geometryFault?_of_solid : ∀ {g : Geometry}, g.Solid → geometryFault? g = none
  | .point _, _ => rfl
  | .lineString _, h => lineFault?_eq_none.mpr h
  | .polygon _, h =>
      List.findSome?_eq_none_iff.mpr fun ring hring => ringFault?_eq_none.mpr (h ring hring)
  | .multiPoint _, _ => rfl
  | .multiLineString _, h =>
      List.findSome?_eq_none_iff.mpr fun path hpath => lineFault?_eq_none.mpr (h path hpath)
  | .multiPolygon _, h => by
      refine List.findSome?_eq_none_iff.mpr fun ring hring => ?_
      obtain ⟨rings, hrings, hmem⟩ := List.mem_flatten.mp hring
      exact ringFault?_eq_none.mpr ((h rings hrings).2 ring hmem)
  | .collection members, h => @membersFault?_of_solid members h
  | .envelope bounds, h => by
      have hbounds : bounds.inverted = false := h
      simp [geometryFault?, hbounds]

theorem membersFault?_of_solid : ∀ {members : List Geometry}, Geometry.SolidAll members →
    membersFault? members = none
  | [], _ => rfl
  | _ :: _, ⟨hfirst, hrest⟩ => by
      rw [membersFault?, geometryFault?_of_solid hfirst, membersFault?_of_solid hrest]
      rfl

end

end Geometries

end Check

end GeoFilter
