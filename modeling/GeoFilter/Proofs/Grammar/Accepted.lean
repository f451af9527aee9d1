import GeoFilter.Grammar.Filter
import GeoFilter.Proofs.Grammar.Yield

/-!
What the productions promise of the trees they build. Each production adds the checks of
its own nodes to what the productions one level further in promise, so that at every height
of the tower all nodes of a tree are resolved, named and numeric, and all ordinates are
read from numbers among the tokens.
-/

namespace GeoFilter

open Grammar

variable {d : Dialect}

/-- An ordinate that is read from a number of the vocabulary. -/
def Grammar.Vocabulary.IsOrdinate (K : Vocabulary d) (value : Float) : Prop :=
  ∃ negative digits, K.holds (.number digits) ∧ Check.ordinate negative digits = .ok value

structure Geometry.BuiltFrom (K : Vocabulary d) (g : Geometry) : Prop where
  sound : g.Sound
  ordinates : g.Every K.IsOrdinate

structure Expression.NodeBuiltFrom (K : Vocabulary d) (e : Expression) : Prop where
  accepted : e.NodeAccepted d
  ordinates : e.NodeOrdinates K.IsOrdinate

theorem Expression.NodeBuiltFrom.numericWith {K : Vocabulary d} {e : Expression}
    (h : e.NodeBuiltFrom K) : e.NodeNumericWith K.IsOrdinate :=
  ⟨h.accepted.numeric, h.ordinates⟩

/-- The expression is accepted, and its ordinates are numbers of the vocabulary. -/
def Expression.BuiltFrom (K : Vocabulary d) (e : Expression) : Prop :=
  e.Every (Expression.NodeBuiltFrom K)

/-- The filter is accepted, and its ordinates are numbers of the vocabulary. -/
def Filter.BuiltFrom (K : Vocabulary d) (f : Filter) : Prop :=
  f.Every (Expression.NodeBuiltFrom K) (Filter.NodeAccepted d)

theorem Expression.BuiltFrom.accepted {K : Vocabulary d} {e : Expression} (h : e.BuiltFrom K) :
    e.Accepted d :=
  h.imp fun _ hnode => hnode.accepted

theorem Filter.BuiltFrom.accepted {K : Vocabulary d} {f : Filter} (h : f.BuiltFrom K) :
    f.Accepted d :=
  h.imp (fun _ hnode => hnode.accepted) fun _ hnode => hnode

end GeoFilter

namespace GeoFilter.Grammar

variable {d : Dialect} {K : Vocabulary d} {inner : Level}

def Parsed.BuiltFrom (K : Vocabulary d) : Parsed → Prop
  | .filter value => value.BuiltFrom K
  | .expression value => value.BuiltFrom K

/-- What a production that is entered one level further in promises of its values. -/
def Nested.BuiltFrom (K : Vocabulary d) : (production : Nested) → production.Result → Prop
  | .group, value => Parsed.BuiltFrom K value
  | .negated, value => Parsed.BuiltFrom K value
  | .signed, value => Parsed.BuiltFrom K value
  | .argument, value => Expression.BuiltFrom K value
  | .member, value => Geometry.BuiltFrom K value

/-- A level whose productions keep their promise. -/
def Level.Keeps (K : Vocabulary d) (inner : Level) : Prop :=
  ∀ production, Yields K (inner production) (Nested.BuiltFrom K production)

theorem yields_requireFilter {parsed : Parsed} (h : parsed.BuiltFrom K) (start : Mark) :
    Yields K (requireFilter start parsed) (Filter.BuiltFrom K) := by
  cases parsed with
  | filter value => exact yields_pure h
  | expression value => exact yields_fail trivial

theorem yields_requireExpression {parsed : Parsed} (h : parsed.BuiltFrom K) (start : Mark) :
    Yields K (requireExpression start parsed) (Expression.BuiltFrom K) := by
  cases parsed with
  | filter value => exact yields_fail trivial
  | expression value => exact yields_pure h

section Geometries

theorem yields_signedNumber : Yields K signedNumber K.IsOrdinate := by
  apply (yields_accept _).bind
  intro negative _
  apply yields_mark.bind
  intro here _
  apply yields_next.bind
  intro found hfound
  split
  · rename_i digits
    have hdigits : IsNumberText digits.toList := hfound.occurs (by simp)
    apply (yields_check (Check.establishes_ordinate hdigits negative) here).imp
    intro value hvalue
    exact ⟨negative, digits, hfound.holds (by simp), hvalue⟩
  · exact yields_unexpected hfound .coordinate here

theorem yields_coordinate : Yields K coordinate (Coordinate.Every K.IsOrdinate) := by
  have hplane : ∀ {x y : Float}, K.IsOrdinate x → K.IsOrdinate y →
      Coordinate.Every K.IsOrdinate ⟨x, y, none⟩ :=
    fun hx hy => ⟨hx, hy, by simp⟩
  have hspace : ∀ {x y z : Float}, K.IsOrdinate x → K.IsOrdinate y → K.IsOrdinate z →
      Coordinate.Every K.IsOrdinate ⟨x, y, some z⟩ :=
    fun hx hy hz => ⟨hx, hy, by simpa using hz⟩
  apply yields_signedNumber.bind
  intro x hx
  apply yields_signedNumber.bind
  intro y hy
  apply yields_peek.bind
  intro found _
  split
  · apply yields_signedNumber.bind
    intro z hz
    exact yields_pure (hspace hx hy hz)
  · apply yields_signedNumber.bind
    intro z hz
    exact yields_pure (hspace hx hy hz)
  · exact yields_pure (hplane hx hy)

theorem yields_path :
    Yields K path (fun points => points ≠ [] ∧ ∀ c ∈ points, c.Every K.IsOrdinate) := by
  apply (yields_expect _ _).bind
  intro opening _
  exact yields_list yields_coordinate opening

theorem yields_rings : Yields K rings (fun rings => rings ≠ [] ∧
    ∀ ring ∈ rings, ∀ c ∈ ring, c.Every K.IsOrdinate) := by
  apply (yields_expect _ _).bind
  intro opening _
  exact (yields_list yields_path opening).imp fun _ h => ⟨h.1, fun ring hring => (h.2 ring hring).2⟩

theorem yields_multiPointMember : Yields K multiPointMember (Coordinate.Every K.IsOrdinate) := by
  apply yields_mark.bind
  intro here _
  apply (yields_accept _).bind
  intro opened _
  split
  · apply yields_coordinate.bind
    intro c hc
    apply (yields_close here).bind
    intro _ _
    exact yields_pure hc
  · exact yields_coordinate

theorem yields_envelopeBounds (opening : Mark) :
    Yields K (envelopeBounds opening) (Envelope.Every K.IsOrdinate) := by
  apply yields_signedNumber.bind
  intro minX hminX
  apply (yields_expect _ _).bind
  intro _ _
  apply yields_signedNumber.bind
  intro maxX hmaxX
  apply (yields_expect _ _).bind
  intro _ _
  apply yields_signedNumber.bind
  intro maxY hmaxY
  apply (yields_expect _ _).bind
  intro _ _
  apply yields_signedNumber.bind
  intro minY hminY
  apply (yields_close opening).bind
  intro _ _
  exact yields_pure ⟨hminX, hminY, hmaxX, hmaxY⟩

/-- Lists are not empty, so that the polygons of a multipolygon have rings. -/
theorem yields_geometryBody (hinner : inner.Keeps K) (here opening : Mark)
    (type : GeometryType) : Yields K (geometryBody d inner here opening type)
      (fun g => Check.Populated g ∧ g.Every K.IsOrdinate) := by
  cases type with
  | point =>
      apply yields_coordinate.bind
      intro c hc
      apply (yields_close opening).bind
      intro _ _
      apply yields_pure
      refine ⟨trivial, ?_⟩
      rintro other ⟨⟩
      exact hc
  | lineString =>
      apply (yields_list yields_coordinate opening).bind
      intro points hpoints
      exact yields_pure ⟨trivial, hpoints.2⟩
  | polygon =>
      apply (yields_list yields_path opening).bind
      intro rings hrings
      exact yields_pure ⟨trivial, fun ring hring => (hrings.2 ring hring).2⟩
  | multiPoint =>
      apply (yields_list yields_multiPointMember opening).bind
      intro points hpoints
      exact yields_pure ⟨trivial, hpoints.2⟩
  | multiLineString =>
      apply (yields_list yields_path opening).bind
      intro paths hpaths
      exact yields_pure ⟨trivial, fun path hpath => (hpaths.2 path hpath).2⟩
  | multiPolygon =>
      apply (yields_list yields_rings opening).bind
      intro polygons hpolygons
      exact yields_pure ⟨fun rings hrings => (hpolygons.2 rings hrings).1,
        fun rings hrings => (hpolygons.2 rings hrings).2⟩
  | collection =>
      apply (yields_nested (yields_list (hinner .member) opening) .nesting here).bind
      intro members hmembers
      exact yields_pure ⟨fun g hg => (hmembers.2 g hg).sound,
        (Geometry.everyAll_iff members).mpr fun g hg => (hmembers.2 g hg).ordinates⟩
  | envelope =>
      apply (yields_envelopeBounds opening).bind
      intro bounds hbounds
      exact yields_pure ⟨trivial, hbounds⟩

theorem sound_of_empty? {type : GeometryType} {value : Geometry}
    (h : Geometry.empty? type = some value) : value.Sound := by
  cases type with
  | lineString =>
      cases h
      exact .inl rfl
  | envelope => cases h
  | point =>
      cases h
      exact .inr trivial
  | multiPoint =>
      cases h
      exact .inr trivial
  | collection =>
      cases h
      exact .inr trivial
  | polygon =>
      cases h
      exact .inr (by simp [Geometry.Solid])
  | multiLineString =>
      cases h
      exact .inr (by simp [Geometry.Solid])
  | multiPolygon =>
      cases h
      exact .inr (by simp [Geometry.Solid])

theorem yields_geometry (hinner : inner.Keeps K) (here : Mark) (type : GeometryType) :
    Yields K (geometry d inner here type) (Geometry.BuiltFrom K) := by
  apply (yields_accept _).bind
  intro empty _
  split
  · split
    · rename_i value hvalue
      exact yields_pure ⟨sound_of_empty? hvalue, Geometry.every_of_empty? hvalue⟩
    · exact yields_fail trivial
  · apply (yields_expect _ _).bind
    intro opening _
    apply (yields_geometryBody hinner here opening type).bind
    intro value hvalue
    apply (yields_checkNone here fun _ => Check.nameable_geometryFault?).bind
    intro _ hfault
    exact yields_pure ⟨.inr (hvalue.1.solid hfault), hvalue.2⟩

theorem yields_member (hinner : inner.Keeps K) : Yields K (member d inner) (Geometry.BuiltFrom K) := by
  apply yields_mark.bind
  intro here _
  apply yields_next.bind
  intro found hfound
  split
  · exact yields_geometry hinner here _
  · exact yields_unexpected hfound .geometry here

end Geometries

section Expressions

/-- A segment of a property path: a plain word, or anything where double quotes denote
identifiers. -/
def IsSegment (d : Dialect) (name : String) : Prop :=
  d.doubleQuotes = .identifier ∨ isPlainWord d name = true

theorem yields_pathSegments (count : Nat) :
    Yields K (pathSegments count) (fun names => ∀ name ∈ names, IsSegment d name) := by
  induction count with
  | zero => exact yields_pure (by simp)
  | succ count ih =>
      have hcons : ∀ name, IsSegment d name → Yields K
          (do let rest ← pathSegments count; return name :: rest)
          (fun names => ∀ name ∈ names, IsSegment d name) := by
        intro name hname
        apply ih.bind
        intro rest hrest
        apply yields_pure
        intro other hother
        rcases List.mem_cons.mp hother with rfl | hmem
        · exact hname
        · exact hrest other hmem
      apply (yields_accept _).bind
      intro dotted _
      split
      · apply yields_mark.bind
        intro here _
        apply yields_next.bind
        intro found hfound
        split
        · exact hcons _ (.inr (hfound.occurs (by simp)))
        · exact hcons _ (.inl (hfound.occurs (by simp)))
        · exact yields_unexpected hfound .propertyName here
      · exact yields_pure (by simp)

theorem builtFrom_property {names : List String} (hnonempty : names ≠ [])
    (h : ∀ name ∈ names, IsSegment d name) :
    (Expression.property (".".intercalate names)).BuiltFrom K := by
  refine ⟨⟨trivial, ?_, trivial⟩, trivial⟩
  by_cases hquotes : d.doubleQuotes = .identifier
  · exact .inl hquotes
  · exact .inr (isPlainPath_intercalate hnonempty fun name hname =>
      (h name hname).resolve_left hquotes)

theorem yields_property {name : String} (h : IsSegment d name) :
    Yields K (property name) (Expression.BuiltFrom K) := by
  apply yields_tokensLeft.bind
  intro count _
  apply (yields_pathSegments count).bind
  intro segments hsegments
  apply yields_pure
  apply builtFrom_property (by simp)
  intro other hother
  rcases List.mem_cons.mp hother with rfl | hmem
  · exact h
  · exact hsegments other hmem

/-- Arguments in a list, which is not empty. -/
theorem yields_arguments (hinner : inner.Keeps K) (opening : Mark) :
    Yields K (arguments d inner opening)
      (fun given => given ≠ [] ∧ ∀ e ∈ given, e.BuiltFrom K) :=
  yields_nested (yields_list (hinner .argument) opening) .nesting opening

theorem yields_callArguments (hinner : inner.Keeps K) :
    Yields K (callArguments d inner) (fun given => ∀ e ∈ given, e.BuiltFrom K) := by
  apply (yields_expect _ _).bind
  intro opening _
  apply (yields_accept _).bind
  intro closed _
  split
  · exact yields_pure (by simp)
  · exact (yields_arguments hinner opening).imp fun _ h => h.2

theorem yields_openValues : Yields K openValues (fun _ => True) := by
  apply (yields_expect _ _).bind
  intro opening _
  apply yields_peek.bind
  intro found _
  split
  · exact yields_fail trivial
  · exact yields_pure trivial

theorem yields_featureIdentifier : Yields K featureIdentifier (fun _ => True) := by
  apply yields_mark.bind
  intro here _
  apply yields_next.bind
  intro found hfound
  split
  · exact yields_pure trivial
  · exact yields_pure trivial
  · exact yields_unexpected hfound .featureIdentifier here

theorem builtFrom_call {name : String} {given : List Expression}
    (hname : isPlainWord d name = true) (hgiven : ∀ e ∈ given, e.BuiltFrom K)
    (hfault : Check.functionFault? d name given.length = none) :
    (Expression.call name given).BuiltFrom K :=
  ⟨⟨⟨Check.admits_of_functionFault? hfault, hname, trivial⟩, trivial⟩,
    (Expression.everyAll_iff given).mpr hgiven⟩

theorem builtFrom_spatial {op : SpatialOp} {given : List Expression} {predicate : SpatialPredicate}
    (hop : d.spatialEnabled op = true) (hgiven : ∀ e ∈ given, e.BuiltFrom K)
    (h : Check.IsPredicateOf op given predicate) : (Filter.spatial predicate).BuiltFrom K := by
  refine ⟨⟨⟨?_, h.fits⟩, h.numeric⟩, fun e he => hgiven e (h.operands e he)⟩
  rw [h.op]
  exact hop

theorem builtFrom_everything : Filter.everything.BuiltFrom K :=
  ⟨⟨trivial, trivial⟩, by simp [Filter.expressions]⟩

theorem builtFrom_nothing : Filter.nothing.BuiltFrom K :=
  ⟨⟨trivial, trivial⟩, by simp [Filter.expressions]⟩

theorem builtFrom_literal {value : Literal}
    (hnumeric : (Expression.literal value).NodeNumericWith K.IsOrdinate)
    (hresolved : (Expression.literal value).NodeResolved d) :
    (Expression.literal value).BuiltFrom K :=
  ⟨⟨hresolved, trivial, hnumeric.numeric⟩, hnumeric.ordinates⟩

theorem yields_number {text : String} (h : IsNumberText text.toList) (negative : Bool)
    (place : Mark) :
    Yields K (do
        let value ← check place (Check.numberLiteral negative text)
        return Parsed.expression (.literal value))
      (Parsed.BuiltFrom K) := by
  apply (yields_check (Check.establishes_numberLiteral h negative) place).bind
  intro value hvalue
  exact yields_pure (builtFrom_literal hvalue.1 hvalue.2)

theorem yields_primary (hinner : inner.Keeps K) :
    Yields K (primary d inner) (Parsed.BuiltFrom K) := by
  apply yields_mark.bind
  intro here _
  apply yields_next.bind
  intro found hfound
  split
  · exact yields_number (hfound.occurs (by simp)) false here
  · exact yields_pure (builtFrom_literal ⟨trivial, trivial⟩ trivial)
  · exact yields_pure (builtFrom_literal ⟨trivial, trivial⟩ trivial)
  · exact yields_pure (builtFrom_literal ⟨trivial, trivial⟩ trivial)
  · exact yields_pure (builtFrom_literal ⟨trivial, trivial⟩ trivial)
  · rename_i name
    have hname : isPlainWord d name = true := hfound.occurs (by simp)
    apply yields_peek.bind
    intro following _
    split
    · apply (yields_callArguments hinner).bind
      intro given hgiven
      apply (yields_checkNone here fun _ => Check.nameable_functionFault? hname).bind
      intro _ hfault
      exact yields_pure (builtFrom_call hname hgiven hfault)
    · apply (yields_property (.inr hname)).bind
      intro value hvalue
      exact yields_pure hvalue
  · apply (yields_property (.inl (hfound.occurs (by simp)))).bind
    intro value hvalue
    exact yields_pure hvalue
  · apply (yields_geometry hinner here _).bind
    intro value hvalue
    exact yields_pure (builtFrom_literal ⟨trivial, hvalue.ordinates⟩ hvalue.sound)
  · rename_i op
    have hop : d.spatialEnabled op = true := hfound.occurs (by simp)
    apply (yields_callArguments hinner).bind
    intro given hgiven
    have hnumeric : ∀ e ∈ given, e.NodeNumeric := fun e he => (hgiven e he).root.accepted.numeric
    apply (yields_check (Check.establishes_spatialPredicate hnumeric) here).bind
    intro predicate hpredicate
    exact yields_pure (builtFrom_spatial hop hgiven hpredicate)
  · exact yields_pure builtFrom_everything
  · exact yields_pure builtFrom_nothing
  · apply yields_openValues.bind
    intro opening _
    apply (yields_list yields_featureIdentifier opening).bind
    intro identifiers hidentifiers
    exact yields_pure ⟨⟨hidentifiers.1, trivial⟩, by simp [Filter.expressions]⟩
  · apply yields_mark.bind
    intro start _
    apply (yields_nested (hinner .group) .nesting start).bind
    intro parsed hparsed
    apply (yields_close here).bind
    intro _ _
    exact yields_pure hparsed
  · exact yields_unexpected hfound .expression here

theorem builtFrom_arithmetic {op : ArithmeticOp} {left right : Expression}
    (hleft : left.BuiltFrom K) (hright : right.BuiltFrom K) :
    (Expression.arithmetic op left right).BuiltFrom K :=
  ⟨⟨⟨trivial, trivial, trivial⟩, trivial⟩, hleft, hright⟩

theorem yields_unary (hinner : inner.Keeps K) :
    Yields K (unary d inner) (Parsed.BuiltFrom K) := by
  apply yields_peek.bind
  intro found _
  split
  · apply yields_mark.bind
    intro here _
    apply yields_next.bind
    intro _ _
    apply yields_mark.bind
    intro start _
    apply yields_peek.bind
    intro following hfollowing
    split
    · apply yields_next.bind
      intro _ _
      exact yields_number (hfollowing.occurs (by simp)) true start
    · have hoperand : Yields K (do requireExpression start (← inner .signed))
          (Expression.BuiltFrom K) := by
        apply (hinner .signed).bind
        intro parsed hparsed
        exact yields_requireExpression hparsed start
      apply (yields_nested hoperand .nesting here).bind
      intro operand hoperand
      exact yields_pure (builtFrom_arithmetic (builtFrom_literal ⟨trivial, trivial⟩ trivial) hoperand)
  · exact yields_primary hinner

theorem yields_chainRest {operator? : TokenKind → Option ArithmeticOp} {operand : Parse Parsed}
    (h : Yields K operand (Parsed.BuiltFrom K)) (start : Mark) (count : Nat) {left : Parsed}
    (hleft : left.BuiltFrom K) :
    Yields K (chainRest d operator? operand start count left) (Parsed.BuiltFrom K) := by
  induction count generalizing left with
  | zero => exact yields_pure hleft
  | succ count ih =>
      apply yields_peek.bind
      intro found _
      split
      · exact yields_pure hleft
      · apply yields_mark.bind
        intro here _
        apply yields_next.bind
        intro _ _
        apply yields_nested
        apply (yields_requireExpression hleft start).bind
        intro first hfirst
        apply yields_mark.bind
        intro place _
        apply h.bind
        intro parsed hparsed
        apply (yields_requireExpression hparsed place).bind
        intro second hsecond
        exact ih (builtFrom_arithmetic hfirst hsecond)

theorem yields_chain {operator? : TokenKind → Option ArithmeticOp} {operand : Parse Parsed}
    (h : Yields K operand (Parsed.BuiltFrom K)) :
    Yields K (chain d operator? operand) (Parsed.BuiltFrom K) := by
  apply yields_mark.bind
  intro start _
  apply h.bind
  intro first hfirst
  apply yields_tokensLeft.bind
  intro count _
  exact yields_chainRest h start count hfirst

theorem yields_additive (hinner : inner.Keeps K) :
    Yields K (additive d inner) (Parsed.BuiltFrom K) :=
  yields_chain (yields_chain (yields_unary hinner))

theorem yields_operand (hinner : inner.Keeps K) :
    Yields K (operand d inner) (Expression.BuiltFrom K) := by
  apply yields_mark.bind
  intro start _
  apply (yields_additive hinner).bind
  intro parsed hparsed
  exact yields_requireExpression hparsed start

end Expressions

section Filters

variable {tested : Expression}

theorem builtFrom_like {pattern : String} {matchCase : Bool} (h : tested.BuiltFrom K) :
    (Filter.like ⟨tested, pattern, d.like, matchCase⟩).BuiltFrom K := by
  refine ⟨⟨rfl, trivial⟩, ?_⟩
  intro e he
  rw [List.mem_singleton.mp he]
  exact h

theorem builtFrom_isNull (h : tested.BuiltFrom K) : (Filter.isNull tested).BuiltFrom K := by
  refine ⟨⟨trivial, trivial⟩, ?_⟩
  intro e he
  rw [List.mem_singleton.mp he]
  exact h

theorem builtFrom_not {operand : Filter} (h : operand.BuiltFrom K) :
    (Filter.not operand).BuiltFrom K :=
  ⟨⟨trivial, trivial⟩, h⟩

theorem builtFrom_comparison {op : Comparison} {right : Expression} (h : tested.BuiltFrom K)
    (hright : right.BuiltFrom K) : (Filter.comparison op tested right).BuiltFrom K := by
  refine ⟨⟨trivial, trivial⟩, ?_⟩
  intro e he
  simp only [Filter.expressions, List.mem_cons, List.not_mem_nil, or_false] at he
  rcases he with rfl | rfl
  · exact h
  · exact hright

theorem builtFrom_between {lower upper : Expression} (h : tested.BuiltFrom K)
    (hlower : lower.BuiltFrom K) (hupper : upper.BuiltFrom K) :
    (Filter.between tested lower upper).BuiltFrom K := by
  refine ⟨⟨trivial, trivial⟩, ?_⟩
  intro e he
  simp only [Filter.expressions, List.mem_cons, List.not_mem_nil, or_false] at he
  rcases he with rfl | rfl | rfl
  · exact h
  · exact hlower
  · exact hupper

theorem builtFrom_oneOf {values : List Expression} (h : tested.BuiltFrom K)
    (hnonempty : values ≠ []) (hvalues : ∀ e ∈ values, e.BuiltFrom K) :
    (Filter.oneOf tested values).BuiltFrom K := by
  refine ⟨⟨hnonempty, trivial⟩, ?_⟩
  intro e he
  rcases List.mem_cons.mp he with rfl | hmem
  · exact h
  · exact hvalues e hmem

theorem yields_likeTest (h : tested.BuiltFrom K) (matchCase : Bool) :
    Yields K (likeTest d tested matchCase) (Filter.BuiltFrom K) := by
  apply yields_mark.bind
  intro here _
  apply yields_next.bind
  intro found hfound
  split
  · exact yields_pure (builtFrom_like h)
  · exact yields_unexpected hfound .stringPattern here

theorem yields_betweenTest (hinner : inner.Keeps K) (h : tested.BuiltFrom K) :
    Yields K (betweenTest d inner tested) (Filter.BuiltFrom K) := by
  apply (yields_operand hinner).bind
  intro lower hlower
  apply (yields_expect _ _).bind
  intro _ _
  apply (yields_operand hinner).bind
  intro upper hupper
  exact yields_pure (builtFrom_between h hlower hupper)

theorem yields_membershipTest (hinner : inner.Keeps K) (h : tested.BuiltFrom K) :
    Yields K (membershipTest d inner tested) (Filter.BuiltFrom K) := by
  apply yields_openValues.bind
  intro opening _
  apply (yields_arguments hinner opening).bind
  intro values hvalues
  exact yields_pure (builtFrom_oneOf h hvalues.1 hvalues.2)

theorem yields_nullTest (h : tested.BuiltFrom K) :
    Yields K (nullTest tested) (Filter.BuiltFrom K) := by
  apply (yields_accept _).bind
  intro negated _
  apply (yields_expect _ _).bind
  intro _ _
  apply yields_pure
  cases negated with
  | true => exact builtFrom_not (builtFrom_isNull h)
  | false => exact builtFrom_isNull h

theorem yields_negatableTest? (hinner : inner.Keeps K) (h : tested.BuiltFrom K)
    {word : TokenKind} {test : Parse Filter}
    (htest : negatableTest? d inner tested word = some test) :
    Yields K test (Filter.BuiltFrom K) := by
  unfold negatableTest? at htest
  split at htest <;> cases htest
  · exact yields_likeTest h true
  · exact yields_likeTest h false
  · exact yields_betweenTest hinner h
  · exact yields_membershipTest hinner h

theorem yields_test? (hinner : inner.Keeps K) (h : tested.BuiltFrom K) {kind : TokenKind}
    {test : Parse Filter} (htest : test? d inner tested kind = some test) :
    Yields K test (Filter.BuiltFrom K) := by
  unfold test? at htest
  split at htest
  · cases htest
    apply (yields_operand hinner).bind
    intro right hright
    exact yields_pure (builtFrom_comparison h hright)
  · cases htest
    exact yields_nullTest h
  · cases htest
    apply yields_mark.bind
    intro here _
    apply yields_next.bind
    intro word hword
    split
    · rename_i negated hnegated
      apply (yields_negatableTest? hinner h hnegated).bind
      intro value hvalue
      exact yields_pure (builtFrom_not hvalue)
    · exact yields_unexpected hword .negatedPredicate here
  · exact yields_negatableTest? hinner h htest

theorem yields_predicate (hinner : inner.Keeps K) :
    Yields K (predicate d inner) (Parsed.BuiltFrom K) := by
  apply (yields_additive hinner).bind
  intro parsed hparsed
  split
  · exact yields_pure hparsed
  · apply yields_peek.bind
    intro kind _
    split
    · exact yields_pure hparsed
    · rename_i test htest
      apply yields_next.bind
      intro _ _
      apply (yields_test? hinner hparsed htest).bind
      intro value hvalue
      apply yields_peek.bind
      intro following hfollowing
      split
      · apply yields_mark.bind
        intro place _
        exact yields_fail hfollowing.nameable
      · exact yields_pure hvalue

theorem yields_negation (hinner : inner.Keeps K) :
    Yields K (negation d inner) (Parsed.BuiltFrom K) := by
  apply yields_peek.bind
  intro found _
  split
  · apply yields_mark.bind
    intro here _
    apply yields_next.bind
    intro _ _
    have hoperand : Yields K (do let start ← mark; requireFilter start (← inner .negated))
        (Filter.BuiltFrom K) := by
      apply yields_mark.bind
      intro start _
      apply (hinner .negated).bind
      intro parsed hparsed
      exact yields_requireFilter hparsed start
    apply (yields_nested hoperand .nesting here).bind
    intro value hvalue
    exact yields_pure (builtFrom_not hvalue)
  · exact yields_predicate hinner

theorem yields_operandsRest {op : LogicalOp} {operand : Parse Parsed}
    (h : Yields K operand (Parsed.BuiltFrom K)) (count : Nat) :
    Yields K (operandsRest op operand count) (fun filters => ∀ f ∈ filters, f.BuiltFrom K) := by
  induction count with
  | zero => exact yields_pure (by simp)
  | succ count ih =>
      apply (yields_accept _).bind
      intro joined _
      split
      · apply yields_mark.bind
        intro start _
        apply h.bind
        intro parsed hparsed
        apply (yields_requireFilter hparsed start).bind
        intro value hvalue
        apply ih.bind
        intro rest hrest
        apply yields_pure
        intro other hother
        rcases List.mem_cons.mp hother with rfl | hmem
        · exact hvalue
        · exact hrest other hmem
      · exact yields_pure (by simp)

theorem builtFrom_join (op : LogicalOp) {filters : List Filter}
    (h : ∀ f ∈ filters, f.BuiltFrom K) : (Filter.join op filters).BuiltFrom K := by
  match filters with
  | [] =>
      cases op with
      | and => exact builtFrom_everything
      | or => exact builtFrom_nothing
  | [operand] => exact h operand (by simp)
  | first :: second :: others =>
      have hlength : 2 ≤ (first :: second :: others).length := by simp
      exact ⟨⟨hlength, trivial⟩, h first (by simp), h second (by simp),
        (Filter.everyAll_iff others).mpr fun f hf => h f (by simp [hf])⟩

theorem yields_logical {op : LogicalOp} {operand : Parse Parsed}
    (h : Yields K operand (Parsed.BuiltFrom K)) :
    Yields K (logical op operand) (Parsed.BuiltFrom K) := by
  apply yields_mark.bind
  intro start _
  apply h.bind
  intro first hfirst
  apply yields_peek.bind
  intro found _
  split
  · apply (yields_requireFilter hfirst start).bind
    intro value hvalue
    apply yields_tokensLeft.bind
    intro count _
    apply (yields_operandsRest h count).bind
    intro rest hrest
    apply yields_pure
    apply builtFrom_join op
    intro f hf
    rcases List.mem_cons.mp hf with rfl | hmem
    · exact hvalue
    · exact hrest f hmem
  · exact yields_pure hfirst

end Filters

section Tower

/-- A level over one that keeps its promise keeps it too. -/
theorem keeps_levelAbove (hinner : inner.Keeps K) : Level.Keeps K (levelAbove d inner) := by
  intro production
  cases production with
  | group => exact yields_logical (yields_logical (yields_negation hinner))
  | negated => exact yields_negation hinner
  | signed => exact yields_unary hinner
  | argument => exact yields_operand hinner
  | member => exact yields_member hinner

/-- All levels of the tower keep their promise. -/
theorem keeps_level (count : Nat) : Level.Keeps K (level d count) := by
  -- The lowest level yields nothing, and each level keeps its promise if the one below does.
  induction count with
  | zero =>
      intro production
      apply yields_mark.bind
      intro place _
      exact yields_fail trivial
  | succ count ih => exact keeps_levelAbove ih

theorem yields_whole : Yields K (whole d) (fun found => found.1.BuiltFrom K) := by
  apply yields_mark.bind
  intro start _
  apply (yields_nested (keeps_level d.maxDepth .group) .nesting start).bind
  intro parsed hparsed
  apply yields_finish.bind
  intro _ _
  exact yields_pure hparsed

theorem yields_wholeFilter : Yields K (wholeFilter d) (Filter.BuiltFrom K) := by
  apply yields_whole.bind
  intro found hfound
  exact yields_requireFilter hfound found.2

theorem yields_wholeExpression : Yields K (wholeExpression d) (Expression.BuiltFrom K) := by
  apply yields_whole.bind
  intro found hfound
  exact yields_requireExpression hfound found.2

end Tower

end GeoFilter.Grammar
