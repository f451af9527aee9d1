import GeoFilter.Proofs.LikePattern
import GeoFilter.Proofs.Grammar.ReadingExpression

/-!
Reading the tokens of filters. A conjunction or disjunction is read where a filter stands by
itself, and everything else also where it is an operand; as an operand, a conjunction or
disjunction stands between parentheses.
-/

namespace GeoFilter

open Grammar

/-- Only the operands of a spatial predicate can hold anything that is further in. -/
def SpatialPredicate.demand (predicate : SpatialPredicate) : Demand :=
  .within (.all (predicate.operands.map Expression.demand))

namespace Filter

mutual

/-- What the reading of a filter demands. -/
def demand : Filter → Demand
  | .everything => .free
  | .nothing => .free
  | .comparison _ left right => left.demand.andThen right.demand
  | .like test => test.operand.demand
  | .between operand lower upper => operand.demand.andThen (lower.demand.andThen upper.demand)
  | .isNull operand => operand.demand
  | .oneOf operand values =>
      operand.demand.andThen (.within (.all (Expression.demandAll values)))
  | .ids _ => .free
  | .spatial predicate => predicate.demand
  | .logical _ first second others =>
      (Demand.withinIf first.isLogical (demand first)).andThen
        ((Demand.withinIf second.isLogical (demand second)).andThen (demandOperands others))
  | .not operand => .within (.withinIf operand.isLogical (demand operand))

def demandOperands : List Filter → Demand
  | [] => .free
  | first :: others =>
      (Demand.withinIf first.isLogical (demand first)).andThen (demandOperands others)

end

/-- The tokens of a filter that is the operand of another one. -/
def operandKinds (d : Dialect) (f : Filter) : List TokenKind :=
  enclosedIf f.isLogical (f.kinds d)

def operandDemand (f : Filter) : Demand :=
  .withinIf f.isLogical f.demand

end Filter

namespace Grammar

variable {d : Dialect} {f : Filter} {e : Expression} {tail : List TokenKind}

/-- What can stand behind the operand of a logical operator. -/
def EndsOperand (op : LogicalOp) (tail : List TokenKind) : Prop :=
  tail.headD .endOfInput = .keyword op.keyword ∨ Closes tail

theorem EndsOperand.ends {op : LogicalOp} (h : EndsOperand op tail) :
    Ends (tail.headD .endOfInput) := by
  rcases h with h | h
  · rw [h]
    exact ends_keyword _
  · exact h.ends

/-- No further test stands behind an operand. -/
theorem EndsOperand.beginsTest {op : LogicalOp} (h : EndsOperand op tail) :
    beginsTest (tail.headD .endOfInput) = false := by
  rcases h with h | h | h
  · rw [h]
    cases op <;> rfl
  · rw [h]
    rfl
  · rw [h]
    rfl

theorem Closes.headD_ne (h : Closes tail) (word : Keyword) :
    tail.headD .endOfInput ≠ .keyword word := by
  rcases h with h | h <;> rw [h] <;> simp

/-- A filter is read back as an operand, and by itself. -/
structure ReadsBackFilter (d : Dialect) (f : Filter) : Prop where
  operand : ∀ op tail, EndsOperand op tail →
    Reads d (negation d) (f.operandKinds d ++ tail) (.filter f) tail f.operandDemand
  whole : ∀ tail, Closes tail →
    Reads d (disjunction d) (f.kinds d ++ tail) (.filter f) tail f.demand

section Predicates

/-- A filter that is a primary goes through the productions of arithmetic unchanged. -/
theorem reads_additive_filter {input : List TokenKind} {demand : Demand}
    (hends : Ends (tail.headD .endOfInput))
    (h : Reads d (unary d) input (.filter f) tail demand) :
    Reads d (additive d) input (.filter f) tail demand := by
  have hmultiplicative : Reads d (multiplicative d) input (.filter f) tail demand := by
    apply Reads.step reads_mark
    apply Reads.andThen_step h
    apply Reads.step reads_tokensLeft
    exact reads_chainRest_nil multiplicative? (unary d) hends.multiplicative _ _ _
  apply Reads.step reads_mark
  apply Reads.andThen_step hmultiplicative
  apply Reads.step reads_tokensLeft
  exact reads_chainRest_nil additive? (multiplicative d) hends.additive _ _ _

theorem reads_negation {input : List TokenKind} {value : Parsed} {demand : Demand}
    (hnot : input.headD .endOfInput ≠ .keyword .not)
    (h : Reads d (predicate d) input value tail demand) :
    Reads d (negation d) input value tail demand := by
  apply Reads.step reads_peek
  simp only [hnot, if_false]
  exact h

/-- A primary that is a filter. -/
theorem reads_negation_of_unary {input : List TokenKind} {demand : Demand}
    (hnot : input.headD .endOfInput ≠ .keyword .not) (hends : Ends (tail.headD .endOfInput))
    (h : Reads d (unary d) input (.filter f) tail demand) :
    Reads d (negation d) input (.filter f) tail demand := by
  apply reads_negation hnot
  apply Reads.andThen_step (reads_additive_filter hends h)
  exact reads_pure

/-- An expression with a test behind it. -/
theorem reads_negation_of_test {kind : TokenKind} {kinds : List TokenKind} {demand : Demand}
    {test : Level → Parse Filter} {op : LogicalOp} (he : ReadsAt d 1 e) (hkind : Ends kind)
    (htest : ∀ inner, test? d inner e kind = some (test inner)) (htail : EndsOperand op tail)
    (h : Reads d test kinds f tail demand) :
    Reads d (negation d) (e.kinds d ++ kind :: kinds) (.filter f) tail
      (e.demand.andThen demand) := by
  apply reads_negation ((begins_expression d e).headD (kind :: kinds)).1
  apply Reads.bind (reads_additive he (by simpa using hkind))
  apply Reads.step reads_peek
  simp only [List.headD_cons, htest]
  apply Reads.step reads_next
  apply Reads.andThen_step h
  apply Reads.step reads_peek
  simp only [htail.beginsTest, Bool.false_eq_true, if_false]
  exact reads_pure

theorem reads_everything :
    Reads d (unary d) (Filter.everything.kinds d ++ tail) (.filter .everything) tail .free := by
  apply reads_unary (by simp [Filter.kinds])
  apply Reads.step reads_mark
  apply Reads.step reads_next
  exact reads_pure

theorem reads_nothing :
    Reads d (unary d) (Filter.nothing.kinds d ++ tail) (.filter .nothing) tail .free := by
  apply reads_unary (by simp [Filter.kinds])
  apply Reads.step reads_mark
  apply Reads.step reads_next
  exact reads_pure

section Tests

variable {op : LogicalOp}

theorem reads_comparison {relation : Comparison} {left right : Expression}
    (hleft : ReadsAt d 1 left) (hright : ReadsAt d 1 right) (htail : EndsOperand op tail) :
    Reads d (negation d) ((Filter.comparison relation left right).kinds d ++ tail)
      (.filter (.comparison relation left right)) tail
      (Filter.comparison relation left right).demand := by
  rw [Filter.kinds, List.append_assoc, List.cons_append]
  apply reads_negation_of_test hleft (ends_comparison relation) (fun _ => rfl) htail
  apply Reads.andThen_step (reads_operand hright htail.ends)
  exact reads_pure

theorem reads_like {test : Like} (hoperand : ReadsAt d 1 test.operand)
    (hcharacters : test.characters = d.like) (htail : EndsOperand op tail) :
    Reads d (negation d) ((Filter.like test).kinds d ++ tail) (.filter (.like test)) tail
      (Filter.like test).demand := by
  obtain ⟨operand, pattern, characters, matchCase⟩ := test
  obtain rfl : characters = d.like := hcharacters
  have htest : Reads d (fun _ => likeTest d operand matchCase) (.string pattern :: tail)
      (.like ⟨operand, pattern, d.like, matchCase⟩) tail .free := by
    apply Reads.step reads_mark
    apply Reads.step reads_next
    exact reads_pure
  have hkinds : ∀ word, operand.kinds d ++ [.keyword word, .string pattern] ++ tail =
      operand.kinds d ++ .keyword word :: .string pattern :: tail := by simp
  rw [Filter.kinds, Like.kinds, LikeCharacters.respell_self, String.ofList_toList, hkinds, Filter.demand,
    ← Demand.andThen_free operand.demand]
  apply reads_negation_of_test hoperand (ends_keyword _) ?_ htail htest
  cases matchCase with
  | true => exact fun _ => rfl
  | false => exact fun _ => rfl

theorem reads_between {tested lower upper : Expression} (htested : ReadsAt d 1 tested)
    (hlower : ReadsAt d 1 lower) (hupper : ReadsAt d 1 upper) (htail : EndsOperand op tail) :
    Reads d (negation d) ((Filter.between tested lower upper).kinds d ++ tail)
      (.filter (.between tested lower upper)) tail (Filter.between tested lower upper).demand := by
  rw [Filter.kinds, List.append_assoc, List.cons_append, List.append_assoc, List.cons_append]
  apply reads_negation_of_test htested (ends_keyword _) (fun _ => rfl) htail
  apply Reads.bind (@reads_operand d _ (.keyword .and :: _) hlower (ends_keyword _))
  apply Reads.step reads_expect
  apply Reads.andThen_step (reads_operand hupper htail.ends)
  exact reads_pure

theorem reads_isNull {tested : Expression} (htested : ReadsAt d 1 tested)
    (htail : EndsOperand op tail) :
    Reads d (negation d) ((Filter.isNull tested).kinds d ++ tail) (.filter (.isNull tested)) tail
      (Filter.isNull tested).demand := by
  have htest : Reads d (fun _ => nullTest tested) (.keyword .null :: tail) (.isNull tested) tail
      .free := by
    apply Reads.step (reads_acceptNot (by simp))
    apply Reads.step reads_expect
    exact reads_pure
  rw [Filter.kinds, List.append_assoc, Filter.demand, ← Demand.andThen_free tested.demand]
  exact reads_negation_of_test htested (ends_keyword _) (fun _ => rfl) htail htest

/-- The opening parenthesis of a list that is not empty. -/
theorem reads_openValues (h : tail.headD .endOfInput ≠ .punctuation .closeParen) :
    Reads d (fun _ => openValues) (.punctuation .openParen :: tail)
      (.punctuation .openParen :: tail) tail .free := by
  apply Reads.step reads_expect
  apply Reads.step reads_peek
  simp only [h, if_false]
  exact reads_pure

theorem reads_oneOf {tested : Expression} {values : List Expression} (hnonempty : values ≠ [])
    (htested : ReadsAt d 1 tested) (hvalues : ∀ e ∈ values, ReadsAt d 1 e)
    (htail : EndsOperand op tail) :
    Reads d (negation d) ((Filter.oneOf tested values).kinds d ++ tail)
      (.filter (.oneOf tested values)) tail (Filter.oneOf tested values).demand := by
  have hbegins := @begins_separated d values hnonempty
  have hopen := (hbegins.headD (.punctuation .closeParen :: tail)).2
  rw [Filter.kinds, List.append_assoc, List.cons_append, append_enclosed]
  apply reads_negation_of_test htested (ends_keyword _) (fun _ => rfl) htail
  apply Reads.step (reads_openValues hopen)
  apply Reads.andThen_step (reads_arguments hnonempty hvalues _ tail)
  exact reads_pure

theorem reads_ids {identifiers : List String} (hnonempty : identifiers ≠ [])
    (htail : EndsOperand op tail) :
    Reads d (negation d) ((Filter.ids identifiers).kinds d ++ tail) (.filter (.ids identifiers))
      tail .free := by
  have hitems : ∀ name ∈ identifiers, ∀ further, EndsItem further →
      ReadsOrStrays d (fun _ => featureIdentifier) ([.string name] ++ further) name further
        .free := by
    intro name _ further _
    refine .inl ?_
    apply Reads.step reads_mark
    apply Reads.step reads_next
    exact reads_pure
  have hlist : ∀ opening, Reads d (fun _ => list opening featureIdentifier)
      (separated (identifiers.map fun name => [.string name]) ++
        .punctuation .closeParen :: tail) identifiers tail
      (.all (identifiers.map fun _ => .free)) :=
    fun opening => reads_list hnonempty hitems opening tail
  have hfree : Demand.all (identifiers.map fun _ => Demand.free) = .free := by
    clear hnonempty hitems hlist
    induction identifiers with
    | nil => rfl
    | cons first others ih => rw [List.map_cons, Demand.all, ih, Demand.free_andThen]
  have hopen : (separated (identifiers.map fun name => [.string name]) ++
      .punctuation .closeParen :: tail).headD .endOfInput ≠ .punctuation .closeParen := by
    cases identifiers with
    | nil => exact absurd rfl hnonempty
    | cons first others => simp [separated]
  rw [Filter.kinds, List.cons_append, append_enclosed]
  apply reads_negation_of_unary (by simp) htail.ends
  apply reads_unary (by simp)
  apply Reads.step reads_mark
  apply Reads.step reads_next
  apply Reads.step (reads_openValues hopen)
  rw [← hfree]
  apply Reads.andThen_step (hlist _)
  exact reads_pure

end Tests

section Spatial

variable {predicate : SpatialPredicate}

theorem isFinite_numbers (h : (Filter.spatial predicate).NodeNumeric) :
    ∀ x ∈ predicate.numbers, x.isFinite = true := by
  intro x hx
  cases predicate with
  | binary op left right => cases hx
  | distance op left right limit unit =>
      rw [List.mem_singleton.mp hx]
      exact h
  | box operand bounds crs =>
      simp only [SpatialPredicate.numbers, List.mem_cons, List.not_mem_nil, or_false] at hx
      rcases hx with rfl | rfl | rfl | rfl
      · exact h.minX
      · exact h.minY
      · exact h.maxX
      · exact h.maxY
  | pattern left right marks => cases hx

/-- Every argument in the call of an accepted predicate is accepted. -/
theorem accepted_arguments (h : ∀ e ∈ predicate.operands, e.Accepted d)
    (hnumeric : (Filter.spatial predicate).NodeNumeric) :
    ∀ e ∈ predicate.arguments d, e.Accepted d := by
  apply every_arguments h
  · exact fun _ => ⟨trivial, trivial, trivial⟩
  · exact fun x hx => ⟨trivial, trivial, isFinite_numbers hnumeric x hx⟩
  · exact fun _ hplain => ⟨trivial, .inr (isPlainPath_of_isPlainWord hplain), trivial⟩

theorem geometryOperand_of_isGeometric {op : SpatialOp} {index : Nat} (h : e.IsGeometric) :
    Check.geometryOperand op index e = .ok () := by
  unfold Check.geometryOperand
  rw [(Check.canBeGeometry_iff e).mpr h]
  rfl

theorem unitsArgument_unit (op : SpatialOp) (unit : String) :
    Check.unitsArgument op (if isPlainWord d unit then .property unit else .literal (.string unit)) =
      .ok unit := by
  cases isPlainWord d unit <;> rfl

theorem box_of_fits {operand : Expression} {bounds : Envelope} (hoperand : operand.IsGeometric)
    (hbounds : bounds.inverted = false) (crs : Option String) :
    Check.box .bbox operand (.literal (.float bounds.minX)) (.literal (.float bounds.minY))
      (.literal (.float bounds.maxX)) (.literal (.float bounds.maxY)) crs =
        .ok (.box operand bounds crs) := by
  have hnumber : ∀ argument x,
      Check.numericArgument .bbox argument (.literal (.float x)) = .ok x := fun _ _ => rfl
  unfold Check.box
  simp only [geometryOperand_of_isGeometric hoperand, hnumber]
  change (if bounds.inverted = true then _ else _) = _
  rw [hbounds]
  rfl

/-- A predicate that fits its operator is what the call with its arguments denotes. -/
theorem spatialPredicate_arguments (h : predicate.Fits) :
    Check.spatialPredicate predicate.op (predicate.arguments d) = .ok predicate := by
  cases predicate with
  | binary op left right =>
      obtain ⟨hop, hleft, hright⟩ := h
      have hshape : op.shape = .binary := by
        revert hop
        cases op <;> decide
      unfold Check.spatialPredicate
      simp only [SpatialPredicate.op, SpatialPredicate.arguments, hshape,
        geometryOperand_of_isGeometric hleft, geometryOperand_of_isGeometric hright]
      rfl
  | distance op left right limit unit =>
      obtain ⟨hop, hleft, hright, hlimit⟩ := h
      have hnumber : Check.numericArgument op .distance (.literal (.float limit)) = .ok limit := rfl
      have hshape : op.shape = .distance := by
        revert hop
        cases op <;> decide
      unfold Check.spatialPredicate
      simp only [SpatialPredicate.op, SpatialPredicate.arguments, hshape, hnumber,
        geometryOperand_of_isGeometric hleft, geometryOperand_of_isGeometric hright,
        unitsArgument_unit]
      change (if limit < 0.0 then _ else _) = _
      rw [if_neg hlimit]
      rfl
  | box operand bounds crs =>
      cases crs with
      | none => exact box_of_fits h.1 h.2 none
      | some name => exact box_of_fits h.1 h.2 (some name)
  | pattern left right marks =>
      obtain ⟨hleft, hright, hmarks⟩ := h
      have hpattern : Check.isIntersectionPattern marks = true :=
        (Check.isIntersectionPattern_iff marks).mpr hmarks
      have hstring : Check.stringArgument .relate .pattern (.literal (.string marks)) = .ok marks :=
        rfl
      unfold Check.spatialPredicate
      simp only [SpatialPredicate.op, SpatialPredicate.arguments, SpatialOp.shape, hstring,
        geometryOperand_of_isGeometric hleft, geometryOperand_of_isGeometric hright]
      change (if (!Check.isIntersectionPattern marks) = true then _ else _) = _
      rw [hpattern]
      rfl

theorem all_demand_arguments (predicate : SpatialPredicate) :
    Demand.all (Expression.demandAll (predicate.arguments d)) =
      .all (predicate.operands.map Expression.demand) := by
  cases predicate with
  | binary op left right => rfl
  | distance op left right limit unit =>
      have hunit : (if isPlainWord d unit then Expression.property unit
          else .literal (.string unit)).demand = .free := by
        cases isPlainWord d unit <;> rfl
      simp only [SpatialPredicate.arguments, SpatialPredicate.operands, Expression.demandAll,
        List.map_cons, List.map_nil, Demand.all, hunit]
      simp [Expression.demand]
  | box operand bounds crs =>
      cases crs <;> simp [SpatialPredicate.arguments, SpatialPredicate.operands,
        Expression.demandAll, Demand.all, Expression.demand]
  | pattern left right marks =>
      simp [SpatialPredicate.arguments, SpatialPredicate.operands, Expression.demandAll,
        Demand.all, Expression.demand]

theorem reads_spatial (hfits : predicate.Fits) (h : ∀ e ∈ predicate.arguments d, ReadsAt d 1 e)
    {op : LogicalOp} (htail : EndsOperand op tail) :
    Reads d (negation d) ((Filter.spatial predicate).kinds d ++ tail)
      (.filter (.spatial predicate)) tail (Filter.spatial predicate).demand := by
  have hdemand : Demand.withinIf (!(predicate.arguments d).isEmpty)
      (.all (Expression.demandAll (predicate.arguments d))) = predicate.demand := by
    rw [all_demand_arguments]
    cases predicate <;> rfl
  have hcall := reads_callArguments h tail
  rw [hdemand] at hcall
  rw [Filter.kinds, SpatialPredicate.kinds, List.cons_append]
  apply reads_negation_of_unary (by simp) htail.ends
  apply reads_unary (by simp)
  apply Reads.step reads_mark
  apply Reads.step reads_next
  apply Reads.andThen_step hcall
  apply Reads.step (reads_check (spatialPredicate_arguments hfits) _)
  exact reads_pure

end Spatial

end Predicates

section Logic

/-- The further operands of a conjunction or disjunction. -/
theorem reads_operandsRest {op : LogicalOp} {p : Level → Parse Parsed} {others : List Filter}
    (h : ∀ f ∈ others, ∀ tail, EndsOperand op tail →
      Reads d p (f.operandKinds d ++ tail) (.filter f) tail f.operandDemand)
    (hcloses : Closes tail) {count : Nat} (hcount : others.length ≤ count) :
    Reads d (fun inner => operandsRest op (p inner) count)
      (Filter.kindsOperands d op others ++ tail) others tail (Filter.demandOperands others) := by
  have hends : tail.headD .endOfInput ≠ .keyword op.keyword := by
    rcases hcloses with htail | htail <;> rw [htail] <;> simp
  induction others generalizing count with
  | nil =>
      cases count with
      | zero => exact reads_pure
      | succ count =>
          apply Reads.step (reads_acceptNot hends)
          exact reads_pure
  | cons first others ih =>
      cases count with
      | zero => simp at hcount
      | succ count =>
          have hfirst : EndsOperand op (Filter.kindsOperands d op others ++ tail) := by
            cases others with
            | nil => exact .inr hcloses
            | cons second later => exact .inl rfl
          have hrest := ih (fun f hf => h f (List.mem_cons_of_mem _ hf))
            (Nat.le_of_succ_le_succ hcount)
          rw [Filter.kindsOperands, List.cons_append, List.append_assoc]
          apply Reads.step reads_accept
          apply Reads.step reads_mark
          apply Reads.bind (h first List.mem_cons_self _ hfirst)
          apply Reads.step reads_pure
          apply Reads.andThen_step hrest
          exact reads_pure

theorem length_le_kindsOperands (op : LogicalOp) (others : List Filter) :
    others.length ≤ (Filter.kindsOperands d op others).length := by
  induction others with
  | nil => exact Nat.zero_le _
  | cons first others ih =>
      simp only [Filter.kindsOperands, List.length_cons, List.length_append]
      omega

/-- A conjunction or disjunction, whose operands are read one by one. -/
theorem reads_logical {op : LogicalOp} {p : Level → Parse Parsed} {first second : Filter}
    {others : List Filter}
    (h : ∀ f ∈ first :: second :: others, ∀ tail, EndsOperand op tail →
      Reads d p (f.operandKinds d ++ tail) (.filter f) tail f.operandDemand)
    (hcloses : Closes tail) :
    Reads d (fun inner => Grammar.logical op (p inner))
      ((Filter.logical op first second others).kinds d ++ tail)
      (.filter (.logical op first second others)) tail
      (Filter.logical op first second others).demand := by
  have hlength : (second :: others).length ≤
      (Filter.kindsOperands d op (second :: others) ++ tail).length := by
    rw [List.length_append]
    exact (length_le_kindsOperands op (second :: others)).trans (Nat.le_add_right _ _)
  have hrest : Reads d _ _ _ _ _ :=
    reads_operandsRest (fun f hf => h f (List.mem_cons_of_mem _ hf)) hcloses hlength
  have hfirst := h first List.mem_cons_self
    (Filter.kindsOperands d op (second :: others) ++ tail) (.inl rfl)
  have hkinds : (Filter.logical op first second others).kinds d ++ tail =
      first.operandKinds d ++ (Filter.kindsOperands d op (second :: others) ++ tail) := by
    rw [Filter.kinds, List.append_assoc]
    rfl
  have hhead : (Filter.kindsOperands d op (second :: others) ++ tail).headD .endOfInput =
      .keyword op.keyword := rfl
  rw [hkinds]
  apply Reads.step reads_mark
  apply Reads.bind hfirst
  apply Reads.step reads_peek
  simp only [hhead, if_true]
  apply Reads.step reads_pure
  apply Reads.step reads_tokensLeft
  apply Reads.andThen_step hrest
  exact reads_pure

/-- An operand without the operator behind it is what it is by itself. -/
theorem reads_logical_single {op : LogicalOp} {p : Level → Parse Parsed} {input : List TokenKind}
    {value : Parsed} {demand : Demand} (h : Reads d p input value tail demand)
    (hends : tail.headD .endOfInput ≠ .keyword op.keyword) :
    Reads d (fun inner => Grammar.logical op (p inner)) input value tail demand := by
  apply Reads.step reads_mark
  apply Reads.andThen_step h
  apply Reads.step reads_peek
  simp only [hends, if_false]
  exact reads_pure

/-- What is no conjunction or disjunction needs no parentheses as an operand. -/
theorem readsBackFilter_of_negation (hlogical : f.isLogical = false)
    (h : ∀ op tail, EndsOperand op tail →
      Reads d (negation d) (f.kinds d ++ tail) (.filter f) tail f.demand) :
    ReadsBackFilter d f where
  operand := by
    intro op tail htail
    unfold Filter.operandKinds Filter.operandDemand
    rw [hlogical]
    exact h op tail htail
  whole := by
    intro tail hcloses
    apply reads_logical_single ?_ (hcloses.headD_ne .or)
    apply reads_logical_single ?_ (hcloses.headD_ne .and)
    exact h .or tail (.inr hcloses)

/-- As an operand, a conjunction or disjunction is a group. -/
theorem readsBackFilter_of_disjunction (hlogical : f.isLogical = true)
    (h : ∀ tail, Closes tail →
      Reads d (disjunction d) (f.kinds d ++ tail) (.filter f) tail f.demand) :
    ReadsBackFilter d f where
  operand := by
    intro op tail htail
    unfold Filter.operandKinds Filter.operandDemand
    rw [hlogical]
    apply reads_negation_of_unary (by simp [enclosedIf, enclosed]) htail.ends
    exact reads_group (h (.punctuation .closeParen :: tail) (.inr rfl))
  whole := h

theorem ReadsBackFilter.not (h : ReadsBackFilter d f) : ReadsBackFilter d (.not f) := by
  apply readsBackFilter_of_negation rfl
  intro op tail htail
  have hoperand : Reads d (fun inner => do
      let start ← mark
      requireFilter start (← negation d inner)) (f.operandKinds d ++ tail) f tail
        f.operandDemand := by
    apply Reads.step reads_mark
    apply Reads.andThen_step (h.operand op tail htail)
    exact reads_pure
  apply Reads.step reads_peek
  apply Reads.step reads_mark
  apply Reads.step reads_next
  apply Reads.andThen_step (@Reads.nested d _ _ _ _ _ (fun inner => do
    let start ← mark
    requireFilter start (← inner .negated)) _ _ hoperand)
  exact reads_pure

theorem readsBackFilter_logical {op : LogicalOp} {first second : Filter} {others : List Filter}
    (h : ∀ f ∈ first :: second :: others, ReadsBackFilter d f) :
    ReadsBackFilter d (.logical op first second others) := by
  apply readsBackFilter_of_disjunction rfl
  intro tail hcloses
  cases op with
  | and =>
      apply reads_logical_single ?_ (hcloses.headD_ne .or)
      exact reads_logical (fun f hf => (h f hf).operand .and) hcloses
  | or =>
      refine reads_logical (fun f hf tail htail => ?_) hcloses
      apply reads_logical_single ((h f hf).operand .or tail htail)
      rcases htail with hhead | hcloses
      · rw [hhead]
        simp [LogicalOp.keyword]
      · exact hcloses.headD_ne .and

end Logic

section Trees

theorem readsAt_of_accepted (h : e.Accepted d) : ReadsAt d 1 e :=
  (readsBack h).additive.readsAt

mutual

/-- The tokens of an accepted filter are read back as the filter. -/
theorem readsBackFilter : ∀ {f : Filter}, f.Accepted d → ReadsBackFilter d f
  | .everything, _ =>
      readsBackFilter_of_negation rfl fun _ _ htail =>
        reads_negation_of_unary (by simp [Filter.kinds]) htail.ends reads_everything
  | .nothing, _ =>
      readsBackFilter_of_negation rfl fun _ _ htail =>
        reads_negation_of_unary (by simp [Filter.kinds]) htail.ends reads_nothing
  | .comparison _ left right, ⟨_, h⟩ =>
      readsBackFilter_of_negation rfl fun _ _ =>
        reads_comparison (readsAt_of_accepted (h left (by simp [Filter.expressions])))
          (readsAt_of_accepted (h right (by simp [Filter.expressions])))
  | .like _, ⟨hlike, h⟩ =>
      readsBackFilter_of_negation rfl fun _ _ =>
        reads_like (readsAt_of_accepted (h _ List.mem_cons_self)) hlike.resolved
  | .between operand lower upper, ⟨_, h⟩ =>
      readsBackFilter_of_negation rfl fun _ _ =>
        reads_between (readsAt_of_accepted (h operand (by simp [Filter.expressions])))
          (readsAt_of_accepted (h lower (by simp [Filter.expressions])))
          (readsAt_of_accepted (h upper (by simp [Filter.expressions])))
  | .isNull _, ⟨_, h⟩ =>
      readsBackFilter_of_negation rfl fun _ _ =>
        reads_isNull (readsAt_of_accepted (h _ List.mem_cons_self))
  | .oneOf _ _, ⟨hvalues, h⟩ =>
      readsBackFilter_of_negation rfl fun _ _ =>
        reads_oneOf hvalues.resolved (readsAt_of_accepted (h _ List.mem_cons_self))
          fun e he => readsAt_of_accepted (h e (List.mem_cons_of_mem _ he))
  | .ids _, ⟨hids, _⟩ =>
      readsBackFilter_of_negation rfl fun _ _ => reads_ids hids.resolved
  | .spatial _, ⟨hspatial, h⟩ =>
      readsBackFilter_of_negation rfl fun _ _ =>
        reads_spatial hspatial.resolved.2
          fun e he => readsAt_of_accepted (accepted_arguments h hspatial.numeric e he)
  | .logical _ first second others, ⟨_, hfirst, hsecond, hothers⟩ => by
      apply readsBackFilter_logical
      intro f hf
      rcases List.mem_cons.mp hf with heq | hmem
      · rw [heq]
        exact readsBackFilter hfirst
      · rcases List.mem_cons.mp hmem with heq | hmem
        · rw [heq]
          exact readsBackFilter hsecond
        · exact readsBackFilter_all hothers f hmem
  | .not _, ⟨_, hoperand⟩ => (readsBackFilter hoperand).not

theorem readsBackFilter_all : ∀ {filters : List Filter},
    Filter.EveryAll (Expression.NodeAccepted d) (Filter.NodeAccepted d) filters →
    ∀ f ∈ filters, ReadsBackFilter d f
  | [], _, f, hf => nomatch hf
  | _ :: _, ⟨hfirst, hothers⟩, f, hf => by
      rcases List.mem_cons.mp hf with heq | hmem
      · rw [heq]
        exact readsBackFilter hfirst
      · exact readsBackFilter_all hothers f hmem

end

end Trees

section Whole

/-- A whole list of tokens stands one level in, and nothing may come behind it. -/
theorem reads_whole {kinds : List TokenKind} {value : Parsed} {demand : Demand}
    (h : Reads d (disjunction d) kinds value [] demand) :
    Reads d (fun inner => do
      let start ← mark
      let parsed ← nested d .nesting start (inner .group)
      finish
      return (parsed, start)) kinds (value, kinds) [] demand.within := by
  apply Reads.step reads_mark
  apply Reads.andThen_step (@Reads.nested d _ _ _ _ _ (fun inner => inner .group) _ _ h)
  apply Reads.step reads_finish
  exact reads_pure

theorem settles_wholeFilter_of_reads {kinds : List TokenKind} {demand : Demand}
    (h : Reads d (disjunction d) kinds (.filter f) [] demand) :
    Settles d 0 demand.within f [] (wholeFilter d ⟨kinds, .resting 0⟩) := by
  have hreads : Reads d (fun inner => do
      let (parsed, start) ← (do
        let start ← mark
        let parsed ← nested d .nesting start (inner .group)
        finish
        return (parsed, start))
      requireFilter start parsed) kinds f [] demand.within := by
    apply Reads.andThen_step (reads_whole h)
    exact reads_pure
  exact hreads d.maxDepth (.resting 0) (Nat.sub_le _ _)

/-- What the reading of the tokens of an accepted filter comes to. -/
theorem settles_wholeFilter (h : f.Accepted d) :
    Settles d 0 f.demand.within f [] (wholeFilter d ⟨f.kinds d, .resting 0⟩) := by
  have hfilter := (readsBackFilter h).whole [] (.inl rfl)
  rw [List.append_nil] at hfilter
  exact settles_wholeFilter_of_reads hfilter

theorem settles_wholeExpression_of_reads {kinds : List TokenKind} {demand : Demand}
    (h : Reads d (disjunction d) kinds (.expression e) [] demand) :
    Settles d 0 demand.within e [] (wholeExpression d ⟨kinds, .resting 0⟩) := by
  have hreads : Reads d (fun inner => do
      let (parsed, start) ← (do
        let start ← mark
        let parsed ← nested d .nesting start (inner .group)
        finish
        return (parsed, start))
      requireExpression start parsed) kinds e [] demand.within := by
    apply Reads.andThen_step (reads_whole h)
    exact reads_pure
  exact hreads d.maxDepth (.resting 0) (Nat.sub_le _ _)

theorem settles_wholeExpression (h : e.Accepted d) :
    Settles d 0 e.demand.within e [] (wholeExpression d ⟨e.kinds d, .resting 0⟩) := by
  have hexpression := @reads_disjunction d e [] (readsAt_of_accepted h) (.inl rfl)
  rw [List.append_nil] at hexpression
  exact settles_wholeExpression_of_reads hexpression

end Whole

end Grammar

end GeoFilter
