import GeoFilter.Proofs.Grammar.ReadingFilter
import GeoFilter.Proofs.Parsing

/-!
Parsing undoes writing. The canonical text of a well-formed tree denotes the tree in every
dialect that leaves enough depth. The depth that a text was parsed with is not always enough
for the canonical text of its tree; what the canonical text needs is the demand of the tree.
-/

namespace GeoFilter

open Grammar

variable {d : Dialect} {α : Type}

section Depth

/-- The depth of a dialect does not matter for the kind of a word, and so for no word in a
canonical text. -/
theorem propertyText_withDepth (d : Dialect) (depth : Nat) (name : String) :
    Writing.propertyText { d with maxDepth := depth } name = Writing.propertyText d name := rfl

mutual

theorem Expression.write_withDepth (d : Dialect) (depth : Nat) :
    ∀ e : Expression, e.write { d with maxDepth := depth } = e.write d
  | .literal _ => rfl
  | .property name => propertyText_withDepth d depth name
  | .arithmetic op left right => by
      rw [Expression.write, Expression.write, Expression.write_withDepth d depth left,
        Expression.write_withDepth d depth right]
  | .call name arguments => by
      rw [Expression.write, Expression.write, Expression.writeAll_withDepth d depth arguments]

theorem Expression.writeAll_withDepth (d : Dialect) (depth : Nat) :
    ∀ expressions : List Expression,
      Expression.writeAll { d with maxDepth := depth } expressions = Expression.writeAll d expressions
  | [] => rfl
  | first :: others => by
      rw [Expression.writeAll, Expression.writeAll, Expression.write_withDepth d depth first,
        Expression.writeAll_withDepth d depth others]

end

theorem SpatialPredicate.write_withDepth (d : Dialect) (depth : Nat) (predicate : SpatialPredicate) :
    predicate.write { d with maxDepth := depth } = predicate.write d := by
  have hunit : ∀ name, Writing.unitText { d with maxDepth := depth } name = Writing.unitText d name :=
    fun _ => rfl
  cases predicate <;>
    simp only [SpatialPredicate.write, Expression.write_withDepth d depth, hunit]

mutual

theorem Filter.write_withDepth (d : Dialect) (depth : Nat) :
    ∀ f : Filter, f.write { d with maxDepth := depth } = f.write d
  | .everything => rfl
  | .nothing => rfl
  | .comparison _ _ _ => by simp only [Filter.write, Expression.write_withDepth d depth]
  | .like _ => by simp only [Filter.write, Like.write, Expression.write_withDepth d depth]
  | .between _ _ _ => by simp only [Filter.write, Expression.write_withDepth d depth]
  | .isNull _ => by simp only [Filter.write, Expression.write_withDepth d depth]
  | .oneOf _ _ => by
      simp only [Filter.write, Expression.write_withDepth d depth,
        Expression.writeAll_withDepth d depth]
  | .ids _ => rfl
  | .spatial predicate => predicate.write_withDepth d depth
  | .logical _ first second others => by
      rw [Filter.write, Filter.write, Filter.write_withDepth d depth first,
        Filter.write_withDepth d depth second, Filter.writeOperands_withDepth d depth others]
  | .not operand => by rw [Filter.write, Filter.write, Filter.write_withDepth d depth operand]

theorem Filter.writeOperands_withDepth (d : Dialect) (depth : Nat) :
    ∀ filters : List Filter,
      Filter.writeOperands { d with maxDepth := depth } filters = Filter.writeOperands d filters
  | [] => rfl
  | first :: others => by
      rw [Filter.writeOperands, Filter.writeOperands, Filter.write_withDepth d depth first,
        Filter.writeOperands_withDepth d depth others]

end

theorem Expression.NodeAccepted.withDepth {e : Expression} (h : e.NodeAccepted d) (depth : Nat) :
    e.NodeAccepted { d with maxDepth := depth } := by
  cases e with
  | call name arguments => exact ⟨⟨h.resolved.arity, h.resolved.known⟩, h.named, h.numeric⟩
  | literal value => exact ⟨by cases value <;> exact h.resolved, trivial, h.numeric⟩
  | property name => exact ⟨trivial, h.named, trivial⟩
  | arithmetic op left right => exact ⟨trivial, trivial, trivial⟩

theorem Filter.NodeAccepted.withDepth {f : Filter} (h : f.NodeAccepted d) (depth : Nat) :
    f.NodeAccepted { d with maxDepth := depth } := by
  refine ⟨?_, h.numeric⟩
  cases f <;> exact h.resolved

end Depth

section Finite

namespace Geometry

mutual

/-- Whether no coordinate of a geometry is infinite or undefined. -/
def Finite : Geometry → Prop
  | .point position => ∀ c ∈ position, c.isFinite = true
  | .lineString path => ∀ c ∈ path, c.isFinite = true
  | .polygon rings => ∀ ring ∈ rings, ∀ c ∈ ring, c.isFinite = true
  | .multiPoint points => ∀ c ∈ points, c.isFinite = true
  | .multiLineString paths => ∀ path ∈ paths, ∀ c ∈ path, c.isFinite = true
  | .multiPolygon polygons => ∀ rings ∈ polygons, ∀ ring ∈ rings, ∀ c ∈ ring, c.isFinite = true
  | .collection members => FiniteAll members
  | .envelope bounds => bounds.Finite

def FiniteAll : List Geometry → Prop
  | [] => True
  | first :: others => Finite first ∧ FiniteAll others

end

end Geometry

def Expression.NodeFinite : Expression → Prop
  | .literal (.geometry value) => value.Finite
  | _ => True

/-- What every expression in a well-formed tree satisfies. -/
structure Expression.NodeWellFormed (d : Dialect) (e : Expression) : Prop where
  accepted : e.NodeAccepted d
  finite : e.NodeFinite

/-- Every node of the expression can be written and read back. -/
def Expression.WellFormed (d : Dialect) (e : Expression) : Prop :=
  e.Every (Expression.NodeWellFormed d)

/-- Every node of the filter can be written and read back. -/
def Filter.WellFormed (d : Dialect) (f : Filter) : Prop :=
  f.Every (Expression.NodeWellFormed d) (Filter.NodeAccepted d)

theorem Expression.WellFormed.accepted {e : Expression} (h : e.WellFormed d) (depth : Nat) :
    e.Accepted { d with maxDepth := depth } :=
  h.imp fun _ hnode => hnode.accepted.withDepth depth

theorem Filter.WellFormed.accepted {f : Filter} (h : f.WellFormed d) (depth : Nat) :
    f.Accepted { d with maxDepth := depth } :=
  h.imp (fun _ hnode => hnode.accepted.withDepth depth) fun _ hnode => hnode.withDepth depth

theorem complete_pathDemand {path : List Coordinate} (h : ∀ c ∈ path, c.isFinite = true) :
    (pathDemand path).complete = true := by
  unfold pathDemand
  rw [Demand.complete_all, List.forall_mem_map]
  exact h

theorem complete_ringsDemand {rings : List Ring}
    (h : ∀ ring ∈ rings, ∀ c ∈ ring, c.isFinite = true) :
    (ringsDemand rings).complete = true := by
  unfold ringsDemand
  rw [Demand.complete_all, List.forall_mem_map]
  exact fun ring hring => complete_pathDemand (h ring hring)

mutual

theorem complete_geometry : ∀ {g : Geometry}, g.Finite → g.demand.complete = true
  | .point none, _ => rfl
  | .point (some c), h => h c rfl
  | .lineString _, h => complete_pathDemand h
  | .polygon _, h => complete_ringsDemand h
  | .multiPoint _, h => complete_pathDemand h
  | .multiLineString _, h => complete_ringsDemand h
  | .multiPolygon polygons, h => by
      unfold Geometry.demand
      rw [Demand.complete_all, List.forall_mem_map]
      exact fun rings hrings => complete_ringsDemand (h rings hrings)
  | .collection [], _ => rfl
  | .collection (first :: others), h => by
      have hmembers : Geometry.FiniteAll (first :: others) := h
      obtain ⟨hfirst, hothers⟩ := hmembers
      change (first.demand.andThen (.all (Geometry.demandAll others))).complete = true
      rw [Demand.complete_andThen]
      exact ⟨complete_geometry hfirst, complete_geometries hothers⟩
  | .envelope bounds, h => by
      unfold Geometry.demand
      rw [Demand.complete_all]
      simp only [List.forall_mem_cons, List.not_mem_nil, false_implies, implies_true, and_true]
      exact ⟨h.minX, h.maxX, h.maxY, h.minY⟩

theorem complete_geometries : ∀ {members : List Geometry}, Geometry.FiniteAll members →
    (Demand.all (Geometry.demandAll members)).complete = true
  | [], _ => rfl
  | _ :: _, ⟨hfirst, hothers⟩ => by
      rw [Geometry.demandAll, Demand.all, Demand.complete_andThen]
      exact ⟨complete_geometry hfirst, complete_geometries hothers⟩

end

mutual

theorem complete_expression : ∀ {e : Expression}, e.WellFormed d → e.demand.complete = true
  | .literal value, h => by
      cases value with
      | geometry g => exact complete_geometry h.finite
      | _ => rfl
  | .property _, _ => rfl
  | .arithmetic op left right, ⟨_, hleft, hright⟩ => by
      unfold Expression.demand
      rw [Demand.complete_andThen, Demand.complete_withinIf]
      exact ⟨complete_expression hleft,
        (Demand.complete_withinIf _ _).trans (complete_expression hright)⟩
  | .call _ _, ⟨_, harguments⟩ => by
      unfold Expression.demand
      rw [Demand.complete_withinIf]
      exact complete_expressions harguments

theorem complete_expressions : ∀ {expressions : List Expression},
    Expression.EveryAll (Expression.NodeWellFormed d) expressions →
    (Demand.all (Expression.demandAll expressions)).complete = true
  | [], _ => rfl
  | _ :: _, ⟨hfirst, hothers⟩ => by
      rw [Expression.demandAll, Demand.all, Demand.complete_andThen]
      exact ⟨complete_expression hfirst, complete_expressions hothers⟩

end

theorem complete_list {expressions : List Expression} (h : ∀ e ∈ expressions, e.WellFormed d) :
    (Demand.all (expressions.map Expression.demand)).complete = true := by
  rw [Demand.complete_all, List.forall_mem_map]
  exact fun e he => complete_expression (h e he)

mutual

theorem complete_filter : ∀ {f : Filter}, f.WellFormed d → f.demand.complete = true
  | .everything, _ => rfl
  | .nothing, _ => rfl
  | .comparison _ left right, ⟨_, h⟩ => by
      unfold Filter.demand
      rw [Demand.complete_andThen]
      exact ⟨complete_expression (h left (by simp [Filter.expressions])),
        complete_expression (h right (by simp [Filter.expressions]))⟩
  | .like _, ⟨_, h⟩ => complete_expression (h _ List.mem_cons_self)
  | .between operand lower upper, ⟨_, h⟩ => by
      unfold Filter.demand
      rw [Demand.complete_andThen, Demand.complete_andThen]
      exact ⟨complete_expression (h operand (by simp [Filter.expressions])),
        complete_expression (h lower (by simp [Filter.expressions])),
        complete_expression (h upper (by simp [Filter.expressions]))⟩
  | .isNull _, ⟨_, h⟩ => complete_expression (h _ List.mem_cons_self)
  | .oneOf _ values, ⟨_, h⟩ => by
      unfold Filter.demand
      rw [Demand.complete_andThen, Expression.demandAll_eq_map]
      exact ⟨complete_expression (h _ List.mem_cons_self),
        complete_list fun e he => h e (List.mem_cons_of_mem _ he)⟩
  | .ids _, _ => rfl
  | .spatial _, ⟨_, h⟩ => complete_list h
  | .logical _ first second others, ⟨_, hfirst, hsecond, hothers⟩ => by
      unfold Filter.demand
      rw [Demand.complete_andThen, Demand.complete_andThen, Demand.complete_withinIf,
        Demand.complete_withinIf]
      exact ⟨complete_filter hfirst, complete_filter hsecond, complete_operands hothers⟩
  | .not operand, ⟨_, h⟩ => by
      unfold Filter.demand
      exact (Demand.complete_withinIf _ _).trans (complete_filter h)

theorem complete_operands : ∀ {filters : List Filter},
    Filter.EveryAll (Expression.NodeWellFormed d) (Filter.NodeAccepted d) filters →
    (Filter.demandOperands filters).complete = true
  | [], _ => rfl
  | _ :: _, ⟨hfirst, hothers⟩ => by
      rw [Filter.demandOperands, Demand.complete_andThen, Demand.complete_withinIf]
      exact ⟨complete_filter hfirst, complete_operands hothers⟩

end

end Finite

section Errors

/-- An error that says that the depth of the dialect is exceeded. -/
def CompileError.TooDeep (d : Dialect) (error : CompileError) : Prop :=
  ∃ depth, error.message = (Fault.tooDeep depth d.maxDepth).message

theorem tooDeep_report {fault : Fault} (h : IsDepthFault d fault) (position : Option Position) :
    (CompileError.report fault position).TooDeep d := by
  obtain ⟨depth, rfl⟩ := h
  have hnameable : (Fault.tooDeep depth d.maxDepth).Nameable := trivial
  exact ⟨depth, (report_of_nameable hnameable position).2.1⟩

/-- No other fault is reported as one for want of depth. -/
theorem not_tooDeep_report_of_ne {fault : Fault} (h : ∀ depth limit, fault ≠ .tooDeep depth limit)
    (position : Option Position) : ¬(CompileError.report fault position).TooDeep d := by
  rintro ⟨depth, hmessage⟩
  by_cases hunclosed : fault = .unclosed
  · subst hunclosed
    have hnameable : Fault.unclosed.Nameable := trivial
    exact message_unclosed_ne_tooDeep depth d.maxDepth
      ((report_of_nameable hnameable position).2.1.symm.trans hmessage)
  · apply not_beginsElsewise_tooDeep depth d.maxDepth
    rw [← hmessage]
    exact beginsElsewise_report h hunclosed position

end Errors

section Parsing

variable {production : Parse α} {value : α} {demand : Demand}

/-- A text that is read as the tokens, with nothing behind it. -/
theorem tokenize_of_spells {text : String} {kinds : List TokenKind}
    (h : Spells d text.toList kinds) :
    ∃ tokens, tokenize d text = .ok tokens ∧ meaningfulKinds tokens = kinds := by
  have hlexed := h [] [] (by simp [Bounded]) (.done rfl)
  rw [List.append_nil, List.append_nil] at hlexed
  obtain ⟨tokens, htokens, hkinds⟩ := tokenize_of_lexed hlexed
  exact ⟨tokens, htokens, meaningfulKinds_of_kinds hkinds (endOfInput_not_mem hlexed.occurs)⟩

/-- What a parsed text comes to, if its tokens are read with a demand. -/
inductive Answers (d : Dialect) (demand : Demand) (value : α) : Except CompileError α → Prop where
  | value (hcomplete : demand.complete = true) (hdepth : demand.depth ≤ d.maxDepth) :
      Answers d demand value (.ok value)
  | tooDeep {error : CompileError} (hdepth : d.maxDepth < demand.depth) (h : error.TooDeep d) :
      Answers d demand value (.error error)
  | stopped {error : CompileError} (hdepth : demand.depth ≤ d.maxDepth)
      (hcomplete : demand.complete = false) (h : ¬error.TooDeep d) :
      Answers d demand value (.error error)

theorem answers_of_settles {text : String} {kinds : List TokenKind}
    (hspells : Spells d text.toList kinds)
    (hsettles : Settles d 0 demand value [] (production ⟨kinds, .resting 0⟩)) :
    Answers d demand value (do runOn production (← tokenize d text)) := by
  obtain ⟨tokens, htokens, hkinds⟩ := tokenize_of_spells hspells
  rw [htokens]
  change Answers d demand value (runOn production tokens)
  unfold runOn
  simp only [hkinds]
  cases hresult : production ⟨kinds, .resting 0⟩ with
  | ok result =>
      obtain ⟨found, later⟩ := result
      rw [hresult] at hsettles
      obtain ⟨hcomplete, hdepth, rfl, -, -⟩ := hsettles
      exact .value hcomplete hdepth
  | error failure =>
      rw [hresult] at hsettles
      rcases hsettles with ⟨hdepth, hfault⟩ | ⟨hdepth, hcomplete, hfault⟩
      · exact .tooDeep hdepth (tooDeep_report hfault _)
      · obtain ⟨found, expected, hunexpected⟩ := hfault
        have hother : ∀ depth limit, failure.fault ≠ .tooDeep depth limit := by
          rw [hunexpected]
          rintro depth limit ⟨⟩
        exact .stopped hdepth hcomplete (not_tooDeep_report_of_ne hother _)

theorem Answers.eq_ok {result : Except CompileError α} (h : Answers d demand value result)
    (hcomplete : demand.complete = true) (hdepth : demand.depth ≤ d.maxDepth) :
    result = .ok value := by
  cases h with
  | value => rfl
  | tooDeep hlarge => omega
  | stopped _ hstops => simp [hcomplete] at hstops

theorem Answers.tooDeep_iff {result : Except CompileError α} (h : Answers d demand value result) :
    (∃ error, result = .error error ∧ error.TooDeep d) ↔ d.maxDepth < demand.depth := by
  constructor
  · rintro ⟨error, rfl, herror⟩
    cases h with
    | tooDeep hdepth => exact hdepth
    | stopped _ _ hnot => exact absurd herror hnot
  · intro hdepth
    cases h with
    | value _ hle => omega
    | tooDeep _ herror => exact ⟨_, rfl, herror⟩
    | stopped hle => omega

theorem answers_filter {f : Filter} (h : f.Accepted d) :
    Answers d f.demand.within f (Filter.parse d (f.write d)) := by
  have hnamed : f.Every (Expression.NodeNamed d) (Filter.NodeResolved d) :=
    h.imp (fun _ hnode => hnode.named) fun _ hnode => hnode.resolved
  exact answers_of_settles (spells_filter hnamed) (settles_wholeFilter h)

theorem answers_expression {e : Expression} (h : e.Accepted d) :
    Answers d e.demand.within e (Expression.parse d (e.write d)) := by
  have hnamed : e.Every (Expression.NodeNamed d) := h.imp fun _ hnode => hnode.named
  exact answers_of_settles (spells_expression hnamed) (settles_wholeExpression h)

/-- The canonical text of a well-formed tree denotes the tree wherever enough depth is left. -/
theorem parse_write (d : Dialect) :
    (∀ f : Filter, f.WellFormed d → ∃ bound, ∀ depth, bound ≤ depth →
      Filter.parse { d with maxDepth := depth } (f.write d) = .ok f) ∧
      ∀ e : Expression, e.WellFormed d → ∃ bound, ∀ depth, bound ≤ depth →
        Expression.parse { d with maxDepth := depth } (e.write d) = .ok e := by
  constructor
  · intro f h
    refine ⟨f.demand.within.depth, fun depth hdepth => ?_⟩
    have hanswers := answers_filter (h.accepted depth)
    rw [Filter.write_withDepth] at hanswers
    exact hanswers.eq_ok (complete_filter h) hdepth
  · intro e h
    refine ⟨e.demand.within.depth, fun depth hdepth => ?_⟩
    have hanswers := answers_expression (h.accepted depth)
    rw [Expression.write_withDepth] at hanswers
    exact hanswers.eq_ok (complete_expression h) hdepth

/-- A distance from a point, and a property whose name has to be quoted. -/
def nearby : Filter :=
  .not (.spatial (.distance .dwithin (.property "the geom")
    (.literal (.geometry (.point (some ⟨1.5, -2, none⟩)))) 10 "km"))

/-- A right operand that has to stand between parentheses. -/
def shifted : Expression :=
  .arithmetic .subtract (.property "a")
    (.arithmetic .add (.integer 1) (.call "abs" [.literal (.float 0.5)]))

theorem wellFormed_nearby : nearby.WellFormed .standard := by
  have hproperty : (Expression.property "the geom").WellFormed .standard :=
    ⟨⟨trivial, .inl rfl, trivial⟩, trivial⟩
  have hpoint :
      (Expression.literal (.geometry (.point (some ⟨1.5, -2, none⟩)))).WellFormed .standard := by
    refine ⟨⟨.inr trivial, trivial, trivial⟩, ?_⟩
    rintro c ⟨⟩
    decide +kernel
  have hfits : (SpatialPredicate.distance .dwithin (.property "the geom")
      (.literal (.geometry (.point (some ⟨1.5, -2, none⟩)))) 10 "km").Fits :=
    ⟨by decide, trivial, trivial, by decide +kernel⟩
  have hlimit : (10 : Float).isFinite = true := by decide +kernel
  refine ⟨⟨trivial, trivial⟩, ⟨⟨by decide, hfits⟩, hlimit⟩, ?_⟩
  intro e he
  rcases List.mem_cons.mp he with rfl | hmem
  · exact hproperty
  · rw [List.mem_singleton.mp hmem]
    exact hpoint

theorem wellFormed_shifted : shifted.WellFormed .standard := by
  have hcall : Dialect.standard.Admits "abs" 1 :=
    Check.admits_of_functionFault? (by decide +kernel)
  have hnamed : isPlainWord .standard "abs" = true := by decide +kernel
  have hfinite : (0.5 : Float).isFinite = true := by decide +kernel
  have hproperty : (Expression.property "a").WellFormed .standard :=
    ⟨⟨trivial, .inl rfl, trivial⟩, trivial⟩
  have hone : (Expression.integer 1).WellFormed .standard :=
    ⟨⟨trivial, trivial, trivial⟩, trivial⟩
  have hargument : (Expression.literal (.float 0.5)).WellFormed .standard :=
    ⟨⟨trivial, trivial, hfinite⟩, trivial⟩
  refine ⟨⟨⟨trivial, trivial, trivial⟩, trivial⟩, hproperty,
    ⟨⟨trivial, trivial, trivial⟩, trivial⟩, hone, ⟨⟨hcall, hnamed, trivial⟩, trivial⟩, ?_⟩
  exact ⟨hargument, trivial⟩

theorem parse_write_standard :
    (nearby.WellFormed .standard ∧ ∃ bound, ∀ depth, bound ≤ depth →
      Filter.parse { Dialect.standard with maxDepth := depth } (nearby.write .standard) =
        .ok nearby) ∧
      shifted.WellFormed .standard ∧ ∃ bound, ∀ depth, bound ≤ depth →
        Expression.parse { Dialect.standard with maxDepth := depth } (shifted.write .standard) =
          .ok shifted :=
  ⟨⟨wellFormed_nearby, (parse_write .standard).1 nearby wellFormed_nearby⟩,
    wellFormed_shifted, (parse_write .standard).2 shifted wellFormed_shifted⟩

/-- The canonical text of a parsed tree exceeds the depth that the tree was parsed with exactly
where the demand of the tree does. -/
theorem tooDeep_write_iff (d : Dialect) (text : String) :
    (∀ f, Filter.parse d text = .ok f →
      ((∃ error, Filter.parse d (f.write d) = .error error ∧ error.TooDeep d) ↔
        d.maxDepth < f.demand.within.depth)) ∧
      ∀ e, Expression.parse d text = .ok e →
        ((∃ error, Expression.parse d (e.write d) = .error error ∧ error.TooDeep d) ↔
          d.maxDepth < e.demand.within.depth) :=
  ⟨fun _ h => (answers_filter (accepted_of_parseFilter h)).tooDeep_iff,
    fun _ h => (answers_expression (accepted_of_parseExpression h)).tooDeep_iff⟩

/-- A dialect with little depth. -/
abbrev shallow (depth : Nat) : Dialect := { Dialect.standard with maxDepth := depth }

theorem demand_negatedLike : ∃ f, Filter.parse (shallow 1) "a NOT LIKE 'x'" = .ok f ∧
    decide (1 < f.demand.within.depth) = true :=
  exists_ok_and (by decide +kernel)

theorem demand_signs : ∃ e, Expression.parse (shallow 3) "- -a" = .ok e ∧
    decide (3 < e.demand.within.depth) = true :=
  exists_ok_and (by decide +kernel)

/-- A negation that moves to the front, and signs that become subtractions, ask for a level
that the source did not have. -/
theorem tooDeep_write_shallow :
    (∃ f, Filter.parse (shallow 1) "a NOT LIKE 'x'" = .ok f ∧
      ∃ error, Filter.parse (shallow 1) (f.write (shallow 1)) = .error error ∧
        error.TooDeep (shallow 1)) ∧
      ∃ e, Expression.parse (shallow 3) "- -a" = .ok e ∧
        ∃ error, Expression.parse (shallow 3) (e.write (shallow 3)) = .error error ∧
          error.TooDeep (shallow 3) := by
  obtain ⟨f, hf, hfilter⟩ := demand_negatedLike
  obtain ⟨e, he, hexpression⟩ := demand_signs
  exact ⟨⟨f, hf, ((tooDeep_write_iff _ _).1 f hf).mpr (of_decide_eq_true hfilter)⟩,
    ⟨e, he, ((tooDeep_write_iff _ _).2 e he).mpr (of_decide_eq_true hexpression)⟩⟩

/-- The depth that a text was parsed with does not always do for its canonical text. -/
theorem not_forall_write_within_depth :
    ¬∀ (d : Dialect) (text : String),
      (∀ f, Filter.parse d text = .ok f →
        ∀ error, Filter.parse d (f.write d) = .error error → ¬error.TooDeep d) ∧
        ∀ e, Expression.parse d text = .ok e →
          ∀ error, Expression.parse d (e.write d) = .error error → ¬error.TooDeep d := by
  intro h
  obtain ⟨f, hf, hdepth⟩ := demand_negatedLike
  obtain ⟨error, herror, hdeep⟩ :=
    (answers_filter (accepted_of_parseFilter hf)).tooDeep_iff.mpr (of_decide_eq_true hdepth)
  exact (h _ _).1 f hf error herror hdeep

end Parsing

end GeoFilter
