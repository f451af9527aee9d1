import GeoFilter.Proofs.Grammar.Course
import GeoFilter.Proofs.Nodes
import Mathlib.Order.Monotone.Basic
import Mathlib.Tactic.Linarith
import Mathlib.Tactic.Ring

/-!
How high the arithmetic in a parsed tree can be. Every operator of a chain spends a level, but
the levels are given back behind the chain, and the left operand of a chain is read before the
chain has spent any. On the way down the left side of a tree one allowance is therefore spent
twice over, on a chain of products and on the chain of sums around it, and the next smaller
one is spent twice over again inside the parentheses.
-/

namespace GeoFilter

namespace Expression

mutual

/-- The greatest number of operators on a path from the root to a leaf. -/
def arithmeticHeight : Expression → Nat
  | .literal _ => 0
  | .property _ => 0
  | .arithmetic _ left right => max (arithmeticHeight left) (arithmeticHeight right) + 1
  | .call _ arguments => arithmeticHeightAll arguments

def arithmeticHeightAll : List Expression → Nat
  | [] => 0
  | first :: others => max (arithmeticHeight first) (arithmeticHeightAll others)

end

theorem arithmeticHeightAll_le_iff {expressions : List Expression} {height : Nat} :
    arithmeticHeightAll expressions ≤ height ↔ ∀ e ∈ expressions, e.arithmeticHeight ≤ height := by
  induction expressions with
  | nil => simp [arithmeticHeightAll]
  | cons first others ih => simp [arithmeticHeightAll, ih]

end Expression

namespace Filter

mutual

/-- The greatest number of operators on a path from the root to a leaf. -/
def arithmeticHeight : Filter → Nat
  | .logical _ first second others =>
      max (max (arithmeticHeight first) (arithmeticHeight second)) (arithmeticHeightAll others)
  | .not operand => arithmeticHeight operand
  | f => Expression.arithmeticHeightAll f.expressions

def arithmeticHeightAll : List Filter → Nat
  | [] => 0
  | first :: others => max (arithmeticHeight first) (arithmeticHeightAll others)

end

theorem arithmeticHeightAll_le_iff {filters : List Filter} {height : Nat} :
    arithmeticHeightAll filters ≤ height ↔ ∀ f ∈ filters, f.arithmeticHeight ≤ height := by
  induction filters with
  | nil => simp [arithmeticHeightAll]
  | cons first others ih => simp [arithmeticHeightAll, ih]

end Filter

end GeoFilter

namespace GeoFilter.Grammar

variable {d : Dialect} {tokens rest : List TokenKind} {room bound height : Nat} {inner : Level}

section Bounds

/-- The greatest height behind signs, with some levels left: that of an expression between
parentheses, which has one level less. -/
def unaryHeight : Nat → Nat
  | 0 => 0
  | room + 1 => room * (room + 1) + 1

/-- The greatest height of a whole chain. -/
def additiveHeight (room : Nat) : Nat :=
  unaryHeight room + room + room

theorem unaryHeight_succ_le (room : Nat) : unaryHeight room + 1 ≤ unaryHeight (room + 1) := by
  cases room with
  | zero => exact le_rfl
  | succ room =>
      have hgrows : room * (room + 1) + 1 ≤ (room + 1) * (room + 1 + 1) := by nlinarith
      exact Nat.succ_le_succ hgrows

theorem additiveHeight_le (room : Nat) : additiveHeight room ≤ unaryHeight (room + 1) := by
  cases room with
  | zero => exact Nat.zero_le _
  | succ room =>
      have hsame : room * (room + 1) + 1 + (room + 1) + (room + 1) =
          (room + 1) * (room + 1 + 1) + 1 := by ring
      exact hsame.le

theorem unaryHeight_mono : Monotone unaryHeight :=
  monotone_nat_of_le_succ fun room => (Nat.le_succ _).trans (unaryHeight_succ_le room)

theorem additiveHeight_mono : Monotone additiveHeight := by
  intro few many h
  have hunary := unaryHeight_mono h
  unfold additiveHeight
  omega

end Bounds

def Parsed.arithmeticHeight : Parsed → Nat
  | .filter value => value.arithmeticHeight
  | .expression value => value.arithmeticHeight

/-- How high the arithmetic can be in what a production reads with some levels left. -/
def Nested.Low (room : Nat) : (production : Nested) → production.Result → Prop
  | .group, value => Parsed.arithmeticHeight value ≤ additiveHeight room
  | .negated, value => Parsed.arithmeticHeight value ≤ additiveHeight room
  | .signed, value => Parsed.arithmeticHeight value ≤ unaryHeight room
  | .argument, value => Expression.arithmeticHeight value ≤ additiveHeight room
  | .member, _ => True

/-- A level whose productions keep their course wherever fewer levels are left than given. -/
def Level.Low (d : Dialect) (tokens : List TokenKind) (room : Nat) (inner : Level) : Prop :=
  ∀ less, less < room → ∀ bound production rest,
    Proceeds d tokens less bound (inner production) rest (production.Low less)

theorem Level.Low.mono (h : inner.Low d tokens room) {less : Nat} (hle : less ≤ room) :
    inner.Low d tokens less :=
  fun least hleast => h least (hleast.trans_le hle)

theorem proceeds_requireFilter {parsed : Parsed} (h : parsed.arithmeticHeight ≤ height)
    {start : Mark} (hstart : start <:+ tokens) :
    Proceeds d tokens room bound (requireFilter start parsed) rest
      (fun value => value.arithmeticHeight ≤ height) := by
  cases parsed with
  | filter value => exact proceeds_pure h
  | expression value => exact proceeds_failBare trivial hstart

theorem proceeds_requireExpression {parsed : Parsed} (h : parsed.arithmeticHeight ≤ height)
    {start : Mark} (hstart : start <:+ tokens) :
    Proceeds d tokens room bound (requireExpression start parsed) rest
      (fun value => value.arithmeticHeight ≤ height) := by
  cases parsed with
  | filter value => exact proceeds_failBare trivial hstart
  | expression value => exact proceeds_pure h

section Geometries

theorem bare_lineFault? {path : List Coordinate} :
    ∀ fault ∈ Check.lineFault? path, fault.Bare := by
  unfold Check.lineFault?
  split <;> simp [Fault.Bare]

theorem bare_ringFault? {ring : Ring} : ∀ fault ∈ Check.ringFault? ring, fault.Bare := by
  unfold Check.ringFault?
  split
  · simp [Fault.Bare]
  · split <;> simp [Fault.Bare]

theorem bare_findSome? {β : Type} {check : β → Option Fault} {values : List β}
    (hcheck : ∀ {value : β}, ∀ fault ∈ check value, fault.Bare) :
    ∀ fault ∈ values.findSome? check, fault.Bare := by
  intro fault hfault
  obtain ⟨value, -, hvalue⟩ := List.exists_of_findSome?_eq_some hfault
  exact hcheck fault hvalue

mutual

theorem bare_geometryFault? : ∀ (g : Geometry), ∀ fault ∈ Check.geometryFault? g, fault.Bare
  | .point _, _, h => nomatch h
  | .lineString _, _, h => bare_lineFault? _ h
  | .polygon _, _, h => bare_findSome? bare_ringFault? _ h
  | .multiPoint _, _, h => nomatch h
  | .multiLineString _, _, h => bare_findSome? bare_lineFault? _ h
  | .multiPolygon _, _, h => bare_findSome? bare_ringFault? _ h
  | .collection members, fault, h => bare_membersFault? members fault h
  | .envelope bounds, fault, h => by
      rw [Check.geometryFault?] at h
      split at h
      · cases h
        trivial
      · cases h

theorem bare_membersFault? :
    ∀ (members : List Geometry), ∀ fault ∈ Check.membersFault? members, fault.Bare
  | [], _, h => nomatch h
  | member :: others, fault, h => by
      rw [Check.membersFault?, Option.mem_def, Option.or_eq_some_iff] at h
      rcases h with hfirst | ⟨-, hothers⟩
      · exact bare_geometryFault? member fault hfirst
      · exact bare_membersFault? others fault hothers

end

theorem proceeds_signedNumber :
    Proceeds d tokens room bound signedNumber rest (fun _ => True) := by
  -- With the minus sign read or without it, what remains to be read is the same.
  refine Proceeds.after_accept (by simp) (fun later _ => ?_) ?_ <;>
  · apply Proceeds.after_mark
    intro hhere
    apply Proceeds.after_next
    intro found _ hfound _
    split
    · exact proceeds_checkNumber (fun _ h => ⟨_, .inr h⟩) hhere hfound.symm
    · exact proceeds_unexpected hfound hhere _

theorem proceeds_coordinate : Proceeds d tokens room bound coordinate rest (fun _ => True) := by
  apply proceeds_signedNumber.bind
  intro x _ _
  apply proceeds_signedNumber.bind
  intro y _ _
  apply Proceeds.after_peek
  split
  · apply proceeds_signedNumber.bind
    intro z _ _
    exact proceeds_pure trivial
  · apply proceeds_signedNumber.bind
    intro z _ _
    exact proceeds_pure trivial
  · exact proceeds_pure trivial

theorem proceeds_path : Proceeds d tokens room bound path rest (fun _ => True) := by
  apply Proceeds.after_expect (by simp)
  intro later hopening _
  exact (proceeds_list hopening fun _ => proceeds_coordinate).forget

theorem proceeds_rings : Proceeds d tokens room bound rings rest (fun _ => True) := by
  apply Proceeds.after_expect (by simp)
  intro later hopening _
  exact (proceeds_list hopening fun _ => proceeds_path).forget

theorem proceeds_multiPointMember :
    Proceeds d tokens room bound multiPointMember rest (fun _ => True) := by
  apply Proceeds.after_mark
  intro hhere
  apply Proceeds.after_accept (by simp)
  · intro later _
    apply proceeds_coordinate.bind
    intro c _ _
    apply (proceeds_close hhere).bind
    intro _ _ _
    exact proceeds_pure trivial
  · exact proceeds_coordinate

theorem proceeds_envelopeBounds {opening : Mark} (hopening : opening <:+ tokens) :
    Proceeds d tokens room bound (envelopeBounds opening) rest (fun _ => True) := by
  apply proceeds_signedNumber.bind
  intro minX _ _
  apply Proceeds.after_expect (by simp)
  intro _ _ _
  apply proceeds_signedNumber.bind
  intro maxX _ _
  apply Proceeds.after_expect (by simp)
  intro _ _ _
  apply proceeds_signedNumber.bind
  intro maxY _ _
  apply Proceeds.after_expect (by simp)
  intro _ _ _
  apply proceeds_signedNumber.bind
  intro minY _ _
  apply (proceeds_close hopening).bind
  intro _ _ _
  exact proceeds_pure trivial

theorem proceeds_geometryBody (hinner : inner.Low d tokens room) {here opening : Mark}
    (hhere : here <:+ tokens) (hopening : opening <:+ tokens) (hlength : rest.length < bound)
    (type : GeometryType) :
    Proceeds d tokens room bound (geometryBody d inner here opening type) rest
      (fun _ => True) := by
  cases type with
  | point =>
      apply proceeds_coordinate.bind
      intro c _ _
      apply (proceeds_close hopening).bind
      intro _ _ _
      exact proceeds_pure trivial
  | lineString =>
      exact (proceeds_list hopening fun _ => proceeds_coordinate).bind fun _ _ _ =>
        proceeds_pure trivial
  | polygon =>
      exact (proceeds_list hopening fun _ => proceeds_path).bind fun _ _ _ => proceeds_pure trivial
  | multiPoint =>
      exact (proceeds_list hopening fun _ => proceeds_multiPointMember).bind fun _ _ _ =>
        proceeds_pure trivial
  | multiLineString =>
      exact (proceeds_list hopening fun _ => proceeds_path).bind fun _ _ _ => proceeds_pure trivial
  | multiPolygon =>
      exact (proceeds_list hopening fun _ => proceeds_rings).bind fun _ _ _ => proceeds_pure trivial
  | collection =>
      have hmembers := @proceeds_nested d _ tokens rest room bound _
        (list opening (inner .member)) .nesting here hlength hhere fun hroom =>
          proceeds_list hopening fun later => hinner (room - 1) (by omega) (bound - 1) .member later
      exact hmembers.bind fun _ _ _ => proceeds_pure trivial
  | envelope =>
      exact (proceeds_envelopeBounds hopening).bind fun _ _ _ => proceeds_pure trivial

theorem proceeds_geometry (hinner : inner.Low d tokens room) {here : Mark}
    (hhere : here <:+ tokens) (type : GeometryType) :
    Proceeds d tokens room bound (geometry d inner here type) rest (fun _ => True) := by
  apply Proceeds.after_accept (by simp)
  · intro later _
    simp only [if_true]
    split
    · exact proceeds_pure trivial
    · exact proceeds_failBare trivial hhere
  · apply Proceeds.after_expect (by simp)
    intro later hopening hlength
    apply (proceeds_geometryBody hinner hhere hopening hlength type).bind
    intro value _ _
    apply (proceeds_checkNone (bare_geometryFault? value) hhere).bind
    intro _ _ _
    exact proceeds_pure trivial

theorem proceeds_member (hinner : inner.Low d tokens room) :
    Proceeds d tokens room bound (member d inner) rest (fun _ => True) := by
  apply Proceeds.after_mark
  intro hhere
  apply Proceeds.after_next
  intro found later hfound _
  split
  · exact proceeds_geometry hinner hhere _
  · exact proceeds_unexpected hfound hhere _

end Geometries

section Expressions

/-- The values of a list whose members are no higher than given. -/
abbrev Shorter (height : Nat) (values : List Expression) : Prop :=
  ∀ e ∈ values, e.arithmeticHeight ≤ height

theorem bare_functionFault? (name : String) (given : Nat) :
    ∀ fault ∈ Check.functionFault? d name given, fault.Bare := by
  unfold Check.functionFault?
  split
  · split <;> simp [Fault.Bare]
  · split <;> simp [Fault.Bare]

theorem proceeds_arguments (hinner : inner.Low d tokens room) {opening : Mark}
    (hopening : opening <:+ tokens) (hlength : rest.length < bound) :
    Proceeds d tokens room bound (arguments d inner opening) rest
      (Shorter (unaryHeight room)) := by
  apply proceeds_nested hlength hopening
  intro hroom
  obtain ⟨less, rfl⟩ := Nat.exists_eq_succ_of_ne_zero hroom.ne'
  apply (proceeds_list hopening fun later =>
    hinner less (Nat.lt_succ_self less) (bound - 1) .argument later).imp
  exact fun values hvalues e he => (hvalues e he).trans (additiveHeight_le less)

theorem proceeds_callArguments (hinner : inner.Low d tokens room) :
    Proceeds d tokens room bound (callArguments d inner) rest (Shorter (unaryHeight room)) := by
  apply Proceeds.after_expect (by simp)
  intro later hopening hlength
  apply Proceeds.after_accept (by simp)
  · exact fun _ _ => proceeds_pure (List.forall_mem_nil _)
  · exact proceeds_arguments hinner hopening hlength

theorem proceeds_pathSegments (count : Nat) :
    Proceeds d tokens room bound (pathSegments count) rest (fun _ => True) := by
  induction count generalizing rest with
  | zero => exact proceeds_pure trivial
  | succ count ih =>
      apply Proceeds.after_accept (by simp)
      · intro later _
        apply Proceeds.after_mark
        intro hhere
        apply Proceeds.after_next
        intro found _ hfound _
        split
        · exact ih.bind fun _ _ _ => proceeds_pure trivial
        · exact ih.bind fun _ _ _ => proceeds_pure trivial
        · exact proceeds_unexpected hfound hhere _
      · exact proceeds_pure trivial

theorem proceeds_property (name : String) :
    Proceeds d tokens room bound (property name) rest
      (fun value => value.arithmeticHeight ≤ height) := by
  apply Proceeds.after_tokensLeft
  apply (proceeds_pathSegments _).bind
  intro segments _ _
  exact proceeds_pure (Nat.zero_le _)

theorem Proceeds.after_openValues {β : Type} {S : β → Prop} {q : Mark → Parse β}
    (h : ∀ later, rest <:+ tokens → later.length < bound →
      Proceeds d tokens room bound (q rest) later S) :
    Proceeds d tokens room bound (openValues >>= q) rest S := by
  unfold openValues
  rw [bind_assoc]
  apply Proceeds.after_expect (by simp)
  intro later hopening hlength
  rw [bind_assoc]
  apply Proceeds.after_peek
  split
  · apply Proceeds.bind_fails
    exact proceeds_failBare trivial hopening
  · exact h later hopening hlength

theorem proceeds_featureIdentifier :
    Proceeds d tokens room bound featureIdentifier rest (fun _ => True) := by
  apply Proceeds.after_mark
  intro hhere
  apply Proceeds.after_next
  intro found later hfound _
  split
  · exact proceeds_pure trivial
  · exact proceeds_pure trivial
  · exact proceeds_unexpected hfound hhere _

theorem clears_geometryOperand (op : SpatialOp) (index : Nat) (operand : Expression) :
    Check.Clears (fun _ => True) (Check.geometryOperand op index operand) := by
  unfold Check.geometryOperand
  split <;> trivial

theorem clears_numericArgument (op : SpatialOp) (argument : LiteralArgument) (given : Expression) :
    Check.Clears (fun _ => True) (Check.numericArgument op argument given) := by
  unfold Check.numericArgument
  split <;> trivial

theorem clears_stringArgument (op : SpatialOp) (argument : LiteralArgument) (given : Expression) :
    Check.Clears (fun _ => True) (Check.stringArgument op argument given) := by
  unfold Check.stringArgument
  split <;> trivial

theorem clears_unitsArgument (op : SpatialOp) (given : Expression) :
    Check.Clears (fun _ => True) (Check.unitsArgument op given) := by
  unfold Check.unitsArgument
  split
  · trivial
  · exact clears_stringArgument op .units given

/-- A predicate is applied to arguments of its call. -/
abbrev AppliesTo (arguments : List Expression) (predicate : SpatialPredicate) : Prop :=
  ∀ e ∈ predicate.operands, e ∈ arguments

theorem clears_box (op : SpatialOp) (operand minX minY maxX maxY : Expression)
    (crs : Option String) {further : List Expression} :
    Check.Clears (AppliesTo (operand :: further))
      (Check.box op operand minX minY maxX maxY crs) := by
  apply (clears_geometryOperand op 1 operand).bind
  intro _ _
  apply (clears_numericArgument op .minX minX).bind
  intro lowX _
  apply (clears_numericArgument op .minY minY).bind
  intro lowY _
  apply (clears_numericArgument op .maxX maxX).bind
  intro highX _
  apply (clears_numericArgument op .maxY maxY).bind
  intro highY _
  simp only
  split
  · trivial
  · exact List.forall_mem_singleton.mpr List.mem_cons_self

theorem clears_spatialPredicate (op : SpatialOp) (arguments : List Expression) :
    Check.Clears (AppliesTo arguments) (Check.spatialPredicate op arguments) := by
  unfold Check.spatialPredicate
  split
  · rename_i left right _
    apply (clears_geometryOperand op 1 left).bind
    intro _ _
    apply (clears_geometryOperand op 2 right).bind
    intro _ _
    exact fun e he => he
  · rename_i left right distance units _
    apply (clears_geometryOperand op 1 left).bind
    intro _ _
    apply (clears_geometryOperand op 2 right).bind
    intro _ _
    apply (clears_numericArgument op .distance distance).bind
    intro limit _
    simp only
    split
    · trivial
    · apply (clears_unitsArgument op units).bind
      intro unit _
      exact fun e he => List.mem_append_left [distance, units] he
  · exact clears_box op _ _ _ _ _ none
  · rename_i operand minX minY maxX maxY crs _
    apply (clears_stringArgument op .crs crs).bind
    intro name _
    exact clears_box op operand minX minY maxX maxY (some name)
  · rename_i left right marks _
    apply (clears_geometryOperand op 1 left).bind
    intro _ _
    apply (clears_geometryOperand op 2 right).bind
    intro _ _
    apply (clears_stringArgument op .pattern marks).bind
    intro value _
    simp only
    split
    · trivial
    · exact fun e he => List.mem_append_left [marks] he
  · trivial

/-- A number is a literal, with or without its sign. -/
theorem proceeds_number (negative : Bool) {digits : String} {place : Mark}
    (hplace : place <:+ tokens) (hdigits : place.headD .endOfInput = .number digits) :
    Proceeds d tokens room bound (do
        let value ← check place (Check.numberLiteral negative digits)
        return Parsed.expression (.literal value)) rest
      (fun parsed => parsed.arithmeticHeight ≤ height) :=
  (proceeds_checkNumber (fun _ h => ⟨negative, .inl h⟩) hplace hdigits).bind fun _ _ _ =>
    proceeds_pure (Nat.zero_le _)

theorem proceeds_primary (hinner : inner.Low d tokens room) :
    Proceeds d tokens room bound (primary d inner) rest
      (fun parsed => parsed.arithmeticHeight ≤ unaryHeight room) := by
  have hleaf : ∀ later value,
      Proceeds d tokens room bound (pure (Parsed.expression (.literal value))) later
        (fun parsed => parsed.arithmeticHeight ≤ unaryHeight room) :=
    fun _ _ => proceeds_pure (Nat.zero_le _)
  apply Proceeds.after_mark
  intro hhere
  apply Proceeds.after_next
  intro found later hfound hconsumed
  split
  · exact proceeds_number false hhere hfound.symm
  · exact hleaf later _
  · exact hleaf later _
  · exact hleaf later _
  · exact hleaf later _
  · rename_i name
    apply Proceeds.after_peek
    split
    · apply (proceeds_callArguments hinner).bind
      intro given _ hgiven
      apply (proceeds_checkNone (bare_functionFault? name given.length) hhere).bind
      intro _ _ _
      exact proceeds_pure (Expression.arithmeticHeightAll_le_iff.mpr hgiven)
    · exact (proceeds_property name).bind fun _ _ h => proceeds_pure h
  · exact (proceeds_property _).bind fun _ _ h => proceeds_pure h
  · exact (proceeds_geometry hinner hhere _).bind fun _ later _ => hleaf later _
  · rename_i op
    apply (proceeds_callArguments hinner).bind
    intro given _ hgiven
    apply (proceeds_check (clears_spatialPredicate op given) hhere).bind
    intro predicate _ hpredicate
    apply proceeds_pure
    exact Expression.arithmeticHeightAll_le_iff.mpr fun e he => hgiven e (hpredicate e he)
  · exact proceeds_pure (Nat.zero_le _)
  · exact proceeds_pure (Nat.zero_le _)
  · apply Proceeds.after_openValues
    intro _ hopening _
    apply (proceeds_list hopening fun _ => proceeds_featureIdentifier).bind
    intro identifiers _ _
    exact proceeds_pure (Nat.zero_le _)
  · have hlength : later.length < bound := hconsumed (by simp)
    apply Proceeds.after_mark
    intro hstart
    have hgroup : Proceeds d tokens room bound (nested d .nesting later (inner .group)) later
        (fun parsed => parsed.arithmeticHeight ≤ unaryHeight room) := by
      apply proceeds_nested hlength hstart
      intro hroom
      obtain ⟨less, rfl⟩ := Nat.exists_eq_succ_of_ne_zero hroom.ne'
      exact (hinner less (Nat.lt_succ_self less) (bound - 1) .group later).imp
        fun _ h => h.trans (additiveHeight_le less)
    apply hgroup.bind
    intro parsed _ hparsed
    apply (proceeds_close hhere).bind
    intro _ _ _
    exact proceeds_pure hparsed
  · exact proceeds_unexpected hfound hhere _

/-- A sign adds an operator, and has one level less behind it. -/
theorem proceeds_unary (hinner : inner.Low d tokens room) :
    Proceeds d tokens room bound (unary d inner) rest
      (fun parsed => parsed.arithmeticHeight ≤ unaryHeight room) := by
  apply Proceeds.after_peek
  split
  · rename_i hsign
    apply Proceeds.after_mark
    intro hhere
    apply Proceeds.after_next
    intro found later hfound hconsumed
    have hlength : later.length < bound := hconsumed (by rw [hfound, hsign]; simp)
    apply Proceeds.after_mark
    intro hstart
    apply Proceeds.after_peek
    split
    · rename_i hdigits
      apply Proceeds.after_next
      intro _ _ _ _
      exact proceeds_number true hstart hdigits
    · apply Proceeds.bind (Q := fun operand => operand.arithmeticHeight + 1 ≤ unaryHeight room)
      · apply proceeds_nested hlength hhere
        intro hroom
        obtain ⟨less, rfl⟩ := Nat.exists_eq_succ_of_ne_zero hroom.ne'
        apply (hinner less (Nat.lt_succ_self less) (bound - 1) .signed later).bind
        intro parsed _ hparsed
        apply (proceeds_requireExpression hparsed hstart).imp
        exact fun operand hoperand => (Nat.succ_le_succ hoperand).trans (unaryHeight_succ_le less)
      · intro operand _ hoperand
        apply proceeds_pure
        change max 0 operand.arithmeticHeight + 1 ≤ unaryHeight room
        rwa [Nat.zero_max]
  · exact proceeds_primary hinner

/-- The rest of a chain adds an operator to the tree for each level it spends, whatever the
height it starts with. -/
theorem proceeds_chainRest {operator? : TokenKind → Option ArithmeticOp} {operand : Parse Parsed}
    (hoperator : operator? .endOfInput = none) {start : Mark} (hstart : start <:+ tokens)
    (hoperand : ∀ less, less ≤ room → ∀ bound later,
      Proceeds d tokens less bound operand later (fun parsed => parsed.arithmeticHeight ≤ height))
    (count : Nat) {left : Parsed} (hleft : left.arithmeticHeight ≤ height) :
    Proceeds d tokens room bound (chainRest d operator? operand start count left) rest
      (fun parsed => parsed.arithmeticHeight ≤ height + room) := by
  induction count generalizing room bound height left rest with
  | zero => exact proceeds_pure (hleft.trans (Nat.le_add_right _ _))
  | succ count ih =>
      apply Proceeds.after_peek
      split
      · exact proceeds_pure (hleft.trans (Nat.le_add_right _ _))
      · rename_i op hop
        apply Proceeds.after_mark
        intro hhere
        apply Proceeds.after_next
        intro found later hfound hconsumed
        have hlength : later.length < bound := by
          apply hconsumed
          rintro rfl
          rw [← hfound, hoperator] at hop
          cases hop
        apply proceeds_nested hlength hhere
        intro hroom
        obtain ⟨less, rfl⟩ := Nat.exists_eq_succ_of_ne_zero hroom.ne'
        apply (proceeds_requireExpression hleft hstart).bind
        intro first _ hfirst
        apply Proceeds.after_mark
        intro hplace
        apply (hoperand less (Nat.le_succ less) (bound - 1) _).bind
        intro parsed _ hparsed
        apply (proceeds_requireExpression hparsed hplace).bind
        intro second _ hsecond
        have hnode : (Parsed.expression (.arithmetic op first second)).arithmeticHeight ≤
            height + 1 := Nat.succ_le_succ (max_le hfirst hsecond)
        apply (ih (fun lesser hlesser bound later =>
          (hoperand lesser (hlesser.trans (Nat.le_succ less)) bound later).imp
            fun _ h => h.trans (Nat.le_succ height)) hnode).imp
        intro value hvalue
        omega

theorem proceeds_chain {operator? : TokenKind → Option ArithmeticOp} {operand : Parse Parsed}
    (hoperator : operator? .endOfInput = none)
    (hoperand : ∀ less, less ≤ room → ∀ bound later,
      Proceeds d tokens less bound operand later (fun parsed => parsed.arithmeticHeight ≤ height)) :
    Proceeds d tokens room bound (chain d operator? operand) rest
      (fun parsed => parsed.arithmeticHeight ≤ height + room) := by
  apply Proceeds.after_mark
  intro hstart
  apply (hoperand room le_rfl bound rest).bind
  intro first _ hfirst
  apply Proceeds.after_tokensLeft
  exact proceeds_chainRest hoperator hstart hoperand _ hfirst

theorem proceeds_multiplicative (hinner : inner.Low d tokens room) :
    Proceeds d tokens room bound (multiplicative d inner) rest
      (fun parsed => parsed.arithmeticHeight ≤ unaryHeight room + room) := by
  apply proceeds_chain rfl
  intro less hless bound later
  exact (proceeds_unary (hinner.mono hless)).imp fun _ h => h.trans (unaryHeight_mono hless)

theorem proceeds_additive (hinner : inner.Low d tokens room) :
    Proceeds d tokens room bound (additive d inner) rest
      (fun parsed => parsed.arithmeticHeight ≤ additiveHeight room) := by
  apply proceeds_chain rfl
  intro less hless bound later
  apply (proceeds_multiplicative (hinner.mono hless)).imp
  intro parsed hparsed
  exact hparsed.trans (Nat.add_le_add (unaryHeight_mono hless) hless)

theorem proceeds_operand (hinner : inner.Low d tokens room) :
    Proceeds d tokens room bound (operand d inner) rest
      (fun value => value.arithmeticHeight ≤ additiveHeight room) := by
  apply Proceeds.after_mark
  intro hstart
  apply (proceeds_additive hinner).bind
  intro parsed _ hparsed
  exact proceeds_requireExpression hparsed hstart

end Expressions

section Filters

variable {tested : Expression}

theorem proceeds_likeTest (h : tested.arithmeticHeight ≤ height) (matchCase : Bool) :
    Proceeds d tokens room bound (likeTest d tested matchCase) rest
      (fun value => value.arithmeticHeight ≤ height) := by
  apply Proceeds.after_mark
  intro hhere
  apply Proceeds.after_next
  intro found later hfound _
  split
  · have hall := Expression.arithmeticHeightAll_le_iff.mpr (List.forall_mem_singleton.mpr h)
    exact proceeds_pure hall
  · exact proceeds_unexpected hfound hhere _

theorem proceeds_betweenTest (hinner : inner.Low d tokens room)
    (h : tested.arithmeticHeight ≤ additiveHeight room) :
    Proceeds d tokens room bound (betweenTest d inner tested) rest
      (fun value => value.arithmeticHeight ≤ additiveHeight room) := by
  apply (proceeds_operand hinner).bind
  intro lower _ hlower
  apply Proceeds.after_expect (by simp)
  intro _ _ _
  apply (proceeds_operand hinner).bind
  intro upper _ hupper
  apply proceeds_pure
  apply Expression.arithmeticHeightAll_le_iff.mpr
  simp [Filter.expressions, h, hlower, hupper]

theorem unaryHeight_le_additiveHeight (room : Nat) : unaryHeight room ≤ additiveHeight room :=
  (Nat.le_add_right _ room).trans (Nat.le_add_right _ room)

theorem proceeds_membershipTest (hinner : inner.Low d tokens room)
    (h : tested.arithmeticHeight ≤ additiveHeight room) :
    Proceeds d tokens room bound (membershipTest d inner tested) rest
      (fun value => value.arithmeticHeight ≤ additiveHeight room) := by
  apply Proceeds.after_openValues
  intro later hopening hlength
  apply (proceeds_arguments hinner hopening hlength).bind
  intro values _ hvalues
  apply proceeds_pure
  apply Expression.arithmeticHeightAll_le_iff.mpr
  exact List.forall_mem_cons.mpr
    ⟨h, fun e he => (hvalues e he).trans (unaryHeight_le_additiveHeight room)⟩

theorem proceeds_nullTest (h : tested.arithmeticHeight ≤ height) :
    Proceeds d tokens room bound (nullTest tested) rest
      (fun value => value.arithmeticHeight ≤ height) := by
  have hnull : (Filter.isNull tested).arithmeticHeight ≤ height :=
    Expression.arithmeticHeightAll_le_iff.mpr (List.forall_mem_singleton.mpr h)
  have hrest : ∀ (negated : Bool) later, Proceeds d tokens room bound (do
      let _ ← expectKeyword .null
      return if negated then Filter.not (.isNull tested) else .isNull tested) later
      (fun value => value.arithmeticHeight ≤ height) := by
    intro negated later
    apply Proceeds.after_expect (by simp)
    intro _ _ _
    apply proceeds_pure
    cases negated with
    | true => exact hnull
    | false => exact hnull
  exact Proceeds.after_accept (by simp) (fun later _ => hrest true later) (hrest false rest)

theorem proceeds_negatableTest? (hinner : inner.Low d tokens room)
    (h : tested.arithmeticHeight ≤ additiveHeight room) {word : TokenKind} {test : Parse Filter}
    (htest : negatableTest? d inner tested word = some test) :
    Proceeds d tokens room bound test rest
      (fun value => value.arithmeticHeight ≤ additiveHeight room) := by
  unfold negatableTest? at htest
  split at htest <;> cases htest
  · exact proceeds_likeTest h true
  · exact proceeds_likeTest h false
  · exact proceeds_betweenTest hinner h
  · exact proceeds_membershipTest hinner h

theorem proceeds_test? (hinner : inner.Low d tokens room)
    (h : tested.arithmeticHeight ≤ additiveHeight room) {kind : TokenKind} {test : Parse Filter}
    (htest : test? d inner tested kind = some test) :
    Proceeds d tokens room bound test rest
      (fun value => value.arithmeticHeight ≤ additiveHeight room) := by
  unfold test? at htest
  split at htest
  · cases htest
    apply (proceeds_operand hinner).bind
    intro right _ hright
    apply proceeds_pure
    apply Expression.arithmeticHeightAll_le_iff.mpr
    simp [Filter.expressions, h, hright]
  · cases htest
    exact proceeds_nullTest h
  · cases htest
    apply Proceeds.after_mark
    intro hhere
    apply Proceeds.after_next
    intro word later hword _
    split
    · rename_i negated hnegated
      exact (proceeds_negatableTest? hinner h hnegated).bind fun _ _ hvalue => proceeds_pure hvalue
    · exact proceeds_unexpected hword hhere _
  · exact proceeds_negatableTest? hinner h htest

theorem proceeds_predicate (hinner : inner.Low d tokens room) :
    Proceeds d tokens room bound (predicate d inner) rest
      (fun parsed => parsed.arithmeticHeight ≤ additiveHeight room) := by
  apply (proceeds_additive hinner).bind
  intro parsed later hparsed
  split
  · exact proceeds_pure hparsed
  · apply Proceeds.after_peek
    split
    · exact proceeds_pure hparsed
    · rename_i test htest
      apply Proceeds.after_next
      intro _ _ _ _
      apply (proceeds_test? hinner hparsed htest).bind
      intro value _ hvalue
      apply Proceeds.after_peek
      split
      · apply Proceeds.after_mark
        intro hplace
        apply proceeds_fail hplace
        · rintro other ⟨⟩
          rfl
        · rintro cause ⟨⟩
        · rintro depth limit ⟨⟩
      · exact proceeds_pure hvalue

theorem proceeds_negation (hinner : inner.Low d tokens room) :
    Proceeds d tokens room bound (negation d inner) rest
      (fun parsed => parsed.arithmeticHeight ≤ additiveHeight room) := by
  apply Proceeds.after_peek
  split
  · rename_i hnot
    apply Proceeds.after_mark
    intro hhere
    apply Proceeds.after_next
    intro found later hfound hconsumed
    have hlength : later.length < bound := hconsumed (by rw [hfound, hnot]; simp)
    apply Proceeds.bind (Q := fun value => value.arithmeticHeight ≤ additiveHeight room)
    · apply proceeds_nested hlength hhere
      intro hroom
      apply Proceeds.after_mark
      intro hstart
      apply (hinner (room - 1) (by omega) (bound - 1) .negated later).bind
      intro parsed _ hparsed
      apply (proceeds_requireFilter hparsed hstart).imp
      exact fun value hvalue => hvalue.trans (additiveHeight_mono (Nat.sub_le room 1))
    · exact fun value _ hvalue => proceeds_pure hvalue
  · exact proceeds_predicate hinner

theorem proceeds_operandsRest {op : LogicalOp} {operand : Parse Parsed}
    (h : ∀ later, Proceeds d tokens room bound operand later
      (fun parsed => parsed.arithmeticHeight ≤ height)) (count : Nat) :
    Proceeds d tokens room bound (operandsRest op operand count) rest
      (fun filters => ∀ f ∈ filters, f.arithmeticHeight ≤ height) := by
  induction count generalizing rest with
  | zero => exact proceeds_pure (List.forall_mem_nil _)
  | succ count ih =>
      apply Proceeds.after_accept (by simp)
      · intro later _
        apply Proceeds.after_mark
        intro hstart
        apply (h later).bind
        intro parsed _ hparsed
        apply (proceeds_requireFilter hparsed hstart).bind
        intro value _ hvalue
        apply ih.bind
        intro filters _ hfilters
        exact proceeds_pure (List.forall_mem_cons.mpr ⟨hvalue, hfilters⟩)
      · exact proceeds_pure (List.forall_mem_nil _)

theorem arithmeticHeight_join_le (op : LogicalOp) {filters : List Filter}
    (h : ∀ f ∈ filters, f.arithmeticHeight ≤ height) :
    (Filter.join op filters).arithmeticHeight ≤ height := by
  match filters with
  | [] => cases op <;> exact Nat.zero_le _
  | [operand] => exact h operand (by simp)
  | first :: second :: others =>
      have hothers : Filter.arithmeticHeightAll others ≤ height :=
        Filter.arithmeticHeightAll_le_iff.mpr fun f hf => h f (by simp [hf])
      exact max_le (max_le (h first (by simp)) (h second (by simp))) hothers

theorem proceeds_logical {op : LogicalOp} {operand : Parse Parsed}
    (h : ∀ later, Proceeds d tokens room bound operand later
      (fun parsed => parsed.arithmeticHeight ≤ height)) :
    Proceeds d tokens room bound (logical op operand) rest
      (fun parsed => parsed.arithmeticHeight ≤ height) := by
  apply Proceeds.after_mark
  intro hstart
  apply (h rest).bind
  intro first later hfirst
  apply Proceeds.after_peek
  split
  · apply (proceeds_requireFilter hfirst hstart).bind
    intro value _ hvalue
    apply Proceeds.after_tokensLeft
    apply (proceeds_operandsRest h _).bind
    intro filters _ hfilters
    exact proceeds_pure
      (arithmeticHeight_join_le op (List.forall_mem_cons.mpr ⟨hvalue, hfilters⟩))
  · exact proceeds_pure hfirst

end Filters

section Tower

theorem proceeds_levelAbove (hinner : inner.Low d tokens room) (production : Nested) :
    Proceeds d tokens room bound (levelAbove d inner production) rest (production.Low room) := by
  cases production with
  | group =>
      exact proceeds_logical fun _ => proceeds_logical fun _ => proceeds_negation hinner
  | negated => exact proceeds_negation hinner
  | signed => exact proceeds_unary hinner
  | argument => exact proceeds_operand hinner
  | member => exact proceeds_member hinner

/-- A tower keeps its course where it is higher than the number of levels that are left. -/
theorem low_level (count : Nat) : (level d count).Low d tokens count := by
  -- The lowest level is never entered, since no number of levels is less than none.
  induction count with
  | zero => exact fun less hless => absurd hless (Nat.not_lt_zero less)
  | succ count ih =>
      intro less hless bound production rest
      exact proceeds_levelAbove (ih.mono (Nat.le_of_lt_succ hless)) production

/-- The list as a whole is the only thing that is entered before a token is consumed. -/
theorem proceeds_whole {kinds : List TokenKind} :
    ProceedsOn d kinds (whole d)
      (fun found =>
        found.1.arithmeticHeight ≤ additiveHeight (d.maxDepth - 1) ∧ found.2 = kinds) := by
  apply Proceeds.after_mark
  intro hstart
  apply Proceeds.bind (Q := fun parsed => parsed.arithmeticHeight ≤ additiveHeight (d.maxDepth - 1))
  · apply proceeds_nested (Nat.lt_succ_self _) hstart
    intro hroom
    exact low_level d.maxDepth (d.maxDepth - 1) (by omega) kinds.length .group kinds
  · intro parsed _ hparsed
    apply proceeds_finish.bind
    intro _ _ _
    exact proceeds_pure ⟨hparsed, rfl⟩

theorem proceeds_wholeFilter {kinds : List TokenKind} :
    ProceedsOn d kinds (wholeFilter d)
      (fun f => f.arithmeticHeight ≤ additiveHeight (d.maxDepth - 1)) := by
  apply proceeds_whole.bind
  rintro ⟨parsed, start⟩ _ ⟨hparsed, rfl⟩
  exact proceeds_requireFilter hparsed List.suffix_rfl

theorem proceeds_wholeExpression {kinds : List TokenKind} :
    ProceedsOn d kinds (wholeExpression d)
      (fun e => e.arithmeticHeight ≤ additiveHeight (d.maxDepth - 1)) := by
  apply proceeds_whole.bind
  rintro ⟨parsed, start⟩ _ ⟨hparsed, rfl⟩
  exact proceeds_requireExpression hparsed List.suffix_rfl

end Tower

end GeoFilter.Grammar
