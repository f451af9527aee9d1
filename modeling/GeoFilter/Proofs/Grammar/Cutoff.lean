import GeoFilter.Grammar.Filter
import GeoFilter.Proofs.Grammar.Reading

/-!
Productions under two limits of the depth. Under the lower one a production does exactly what
it does under the higher one, or it is cut off for want of depth: the counter decides on
nothing but whether to go on.
-/

namespace GeoFilter

/-- The same dialect with another limit. -/
abbrev Dialect.withDepth (d : Dialect) (limit : Nat) : Dialect :=
  { d with maxDepth := limit }

end GeoFilter

namespace GeoFilter.Grammar

variable {d : Dialect} {limit : Nat} {α β : Type}

/-- A production runs as another one does, unless it is cut off. -/
def Curtails (d : Dialect) (p p' : Parse α) : Prop :=
  ∀ cursor, (∃ failure, p cursor = .error failure ∧ IsDepthFault d failure.fault) ∨
    p cursor = p' cursor

section Combinators

theorem Curtails.refl (p : Parse α) : Curtails d p p :=
  fun _ => .inr rfl

theorem Curtails.bind {p p' : Parse α} {q q' : α → Parse β} (hp : Curtails d p p')
    (hq : ∀ value, Curtails d (q value) (q' value)) : Curtails d (p >>= q) (p' >>= q') := by
  intro cursor
  change (∃ failure, (p cursor >>= fun found => q found.1 found.2) = .error failure ∧
      IsDepthFault d failure.fault) ∨
    (p cursor >>= fun found => q found.1 found.2) =
      (p' cursor >>= fun found => q' found.1 found.2)
  rcases hp cursor with ⟨failure, hfailure, hdepth⟩ | hsame
  · rw [hfailure]
    exact .inl ⟨failure, rfl, hdepth⟩
  · rw [hsame]
    cases p' cursor with
    | error failure => exact .inr rfl
    | ok found => exact hq found.1 found.2

/-- A step that does not depend on the limit. -/
theorem Curtails.after {p : Parse α} {q q' : α → Parse β}
    (hq : ∀ value, Curtails d (q value) (q' value)) : Curtails d (p >>= q) (p >>= q') :=
  (Curtails.refl p).bind hq

/-- A last step that does not depend on the limit. -/
theorem Curtails.before {p p' : Parse α} (hp : Curtails d p p') {q : α → Parse β} :
    Curtails d (p >>= q) (p' >>= q) :=
  hp.bind fun _ => .refl _

theorem Curtails.ite {condition : Prop} [Decidable condition] {p p' q q' : Parse α}
    (hp : Curtails d p p') (hq : Curtails d q q') :
    Curtails d (if condition then p else q) (if condition then p' else q') := by
  split
  · exact hp
  · exact hq

/-- Whoever is let in under the lower limit is let in under the higher one. -/
theorem curtails_nested (hlimit : d.maxDepth ≤ limit) {p p' : Parse α} (h : Curtails d p p')
    (depth : Depth) (place : Mark) :
    Curtails d (nested d depth place p) (nested (d.withDepth limit) depth place p') := by
  have henter : Curtails d (enter d depth place) (enter (d.withDepth limit) depth place) := by
    intro cursor
    by_cases hroom : cursor.gauge.level < d.maxDepth
    · right
      simp [enter, hroom, hroom.trans_le hlimit]
    · left
      exact ⟨_, enter_of_not_lt hroom, depth, rfl⟩
  exact henter.bind fun _ => h.before

theorem curtails_listRest {item item' : Parse α} (h : Curtails d item item') (opening : Mark)
    (count : Nat) : Curtails d (listRest opening item count) (listRest opening item' count) := by
  induction count with
  | zero => exact .refl _
  | succ count ih =>
      apply Curtails.after
      intro here
      apply Curtails.after
      intro found
      cases found with
      | punctuation mark =>
          cases mark with
          | comma => exact h.bind fun _ => ih.before
          | _ => exact .refl _
      | _ => exact .refl _

theorem curtails_list {item item' : Parse α} (h : Curtails d item item') (opening : Mark) :
    Curtails d (list opening item) (list opening item') := by
  apply h.bind
  intro first
  apply Curtails.after
  intro count
  exact (curtails_listRest h opening count).before

end Combinators

section Productions

variable {inner inner' : Level}

/-- The productions of a level run as those of another one do, unless they are cut off. -/
def Level.Curtails (d : Dialect) (inner inner' : Level) : Prop :=
  ∀ production, Grammar.Curtails d (inner production) (inner' production)

theorem curtails_geometryBody (hlimit : d.maxDepth ≤ limit) (h : inner.Curtails d inner')
    (here opening : Mark) (type : GeometryType) :
    Curtails d (geometryBody d inner here opening type)
      (geometryBody (d.withDepth limit) inner' here opening type) := by
  cases type with
  | collection =>
      exact (curtails_nested hlimit (curtails_list (h .member) opening) .nesting here).before
  | _ => exact .refl _

theorem curtails_geometry (hlimit : d.maxDepth ≤ limit) (h : inner.Curtails d inner')
    (here : Mark) (type : GeometryType) :
    Curtails d (geometry d inner here type) (geometry (d.withDepth limit) inner' here type) := by
  apply Curtails.after
  intro empty
  apply Curtails.ite (.refl _)
  apply Curtails.after
  intro opening
  exact (curtails_geometryBody hlimit h here opening type).before

theorem curtails_member (hlimit : d.maxDepth ≤ limit) (h : inner.Curtails d inner') :
    Curtails d (member d inner) (member (d.withDepth limit) inner') := by
  apply Curtails.after
  intro here
  apply Curtails.after
  intro found
  cases found with
  | keyword word =>
      cases word with
      | geometry type => exact curtails_geometry hlimit h here type
      | _ => exact .refl _
  | _ => exact .refl _

theorem curtails_arguments (hlimit : d.maxDepth ≤ limit) (h : inner.Curtails d inner')
    (opening : Mark) :
    Curtails d (arguments d inner opening) (arguments (d.withDepth limit) inner' opening) :=
  curtails_nested hlimit (curtails_list (h .argument) opening) .nesting opening

theorem curtails_callArguments (hlimit : d.maxDepth ≤ limit) (h : inner.Curtails d inner') :
    Curtails d (callArguments d inner) (callArguments (d.withDepth limit) inner') := by
  apply Curtails.after
  intro opening
  apply Curtails.after
  intro closed
  exact Curtails.ite (.refl _) (curtails_arguments hlimit h opening)

theorem curtails_primary (hlimit : d.maxDepth ≤ limit) (h : inner.Curtails d inner') :
    Curtails d (primary d inner) (primary (d.withDepth limit) inner') := by
  apply Curtails.after
  intro here
  apply Curtails.after
  intro found
  cases found with
  | identifier name =>
      apply Curtails.after
      intro following
      exact Curtails.ite (curtails_callArguments hlimit h).before (.refl _)
  | keyword word =>
      cases word with
      | geometry type => exact (curtails_geometry hlimit h here type).before
      | spatial op => exact (curtails_callArguments hlimit h).before
      | _ => exact .refl _
  | punctuation mark =>
      cases mark with
      | openParen =>
          apply Curtails.after
          intro start
          exact (curtails_nested hlimit (h .group) .nesting start).before
      | _ => exact .refl _
  | _ => exact .refl _

theorem curtails_unary (hlimit : d.maxDepth ≤ limit) (h : inner.Curtails d inner') :
    Curtails d (unary d inner) (unary (d.withDepth limit) inner') := by
  have hsigned : ∀ here start, Curtails d
      (do
        let operand ← nested d .nesting here do requireExpression start (← inner .signed)
        return Parsed.expression (.arithmetic .subtract (.integer 0) operand))
      (do
        let operand ← nested (d.withDepth limit) .nesting here do
          requireExpression start (← inner' .signed)
        return Parsed.expression (.arithmetic .subtract (.integer 0) operand)) :=
    fun here start => (curtails_nested hlimit (h .signed).before .nesting here).before
  apply Curtails.after
  intro found
  refine Curtails.ite ?_ (curtails_primary hlimit h)
  apply Curtails.after
  intro here
  apply Curtails.after
  intro _
  apply Curtails.after
  intro start
  apply Curtails.after
  intro following
  cases following with
  | number digits => exact .refl _
  | _ => exact hsigned here start

theorem curtails_chainRest (hlimit : d.maxDepth ≤ limit) {operand operand' : Parse Parsed}
    (h : Curtails d operand operand') (operator? : TokenKind → Option ArithmeticOp) (start : Mark)
    (count : Nat) (left : Parsed) :
    Curtails d (chainRest d operator? operand start count left)
      (chainRest (d.withDepth limit) operator? operand' start count left) := by
  induction count generalizing left with
  | zero => exact .refl _
  | succ count ih =>
      apply Curtails.after
      intro found
      cases operator? found with
      | none => exact .refl _
      | some op =>
          apply Curtails.after
          intro here
          apply Curtails.after
          intro _
          apply curtails_nested hlimit
          apply Curtails.after
          intro first
          apply Curtails.after
          intro place
          apply h.bind
          intro parsed
          apply Curtails.after
          intro second
          exact ih _

theorem curtails_chain (hlimit : d.maxDepth ≤ limit) {operand operand' : Parse Parsed}
    (h : Curtails d operand operand') (operator? : TokenKind → Option ArithmeticOp) :
    Curtails d (chain d operator? operand) (chain (d.withDepth limit) operator? operand') := by
  apply Curtails.after
  intro start
  apply h.bind
  intro first
  apply Curtails.after
  intro count
  exact curtails_chainRest hlimit h operator? start count first

theorem curtails_additive (hlimit : d.maxDepth ≤ limit) (h : inner.Curtails d inner') :
    Curtails d (additive d inner) (additive (d.withDepth limit) inner') :=
  curtails_chain hlimit (curtails_chain hlimit (curtails_unary hlimit h) _) _

theorem curtails_operand (hlimit : d.maxDepth ≤ limit) (h : inner.Curtails d inner') :
    Curtails d (operand d inner) (operand (d.withDepth limit) inner') := by
  apply Curtails.after
  intro start
  exact (curtails_additive hlimit h).before

variable {tested : Expression}

theorem curtails_betweenTest (hlimit : d.maxDepth ≤ limit) (h : inner.Curtails d inner') :
    Curtails d (betweenTest d inner tested) (betweenTest (d.withDepth limit) inner' tested) := by
  apply (curtails_operand hlimit h).bind
  intro lower
  apply Curtails.after
  intro _
  exact (curtails_operand hlimit h).before

theorem curtails_membershipTest (hlimit : d.maxDepth ≤ limit) (h : inner.Curtails d inner') :
    Curtails d (membershipTest d inner tested)
      (membershipTest (d.withDepth limit) inner' tested) := by
  apply Curtails.after
  intro opening
  exact (curtails_arguments hlimit h opening).before

/-- Under both limits the same tokens begin a test. -/
theorem curtails_negatableTest? (hlimit : d.maxDepth ≤ limit) (h : inner.Curtails d inner')
    (word : TokenKind) :
    Option.Rel (Curtails d) (negatableTest? d inner tested word)
      (negatableTest? (d.withDepth limit) inner' tested word) := by
  cases word with
  | keyword word =>
      cases word with
      | like => exact .some (.refl _)
      | ilike => exact .some (.refl _)
      | between => exact .some (curtails_betweenTest hlimit h)
      | oneOf => exact .some (curtails_membershipTest hlimit h)
      | _ => exact .none
  | _ => exact .none

theorem curtails_test? (hlimit : d.maxDepth ≤ limit) (h : inner.Curtails d inner')
    (kind : TokenKind) :
    Option.Rel (Curtails d) (test? d inner tested kind)
      (test? (d.withDepth limit) inner' tested kind) := by
  have hnegatable := @curtails_negatableTest? d limit inner inner' tested hlimit h
  have hkind := hnegatable kind
  cases kind with
  | operator op =>
      cases op with
      | comparison op => exact .some (curtails_operand hlimit h).before
      | _ => exact hkind
  | keyword word =>
      cases word with
      | is => exact .some (.refl _)
      | not =>
          apply Option.Rel.some
          apply Curtails.after
          intro here
          apply Curtails.after
          intro word
          have hword := hnegatable word
          generalize negatableTest? d inner tested word = test at hword ⊢
          generalize negatableTest? (d.withDepth limit) inner' tested word = test' at hword ⊢
          cases hword with
          | some htest => exact htest.before
          | none => exact .refl _
      | _ => exact hkind
  | _ => exact hkind

theorem curtails_predicate (hlimit : d.maxDepth ≤ limit) (h : inner.Curtails d inner') :
    Curtails d (predicate d inner) (predicate (d.withDepth limit) inner') := by
  apply (curtails_additive hlimit h).bind
  intro parsed
  cases parsed with
  | filter value => exact .refl _
  | expression left =>
      apply Curtails.after
      intro kind
      have hkind := @curtails_test? d limit inner inner' left hlimit h kind
      generalize test? d inner left kind = test at hkind ⊢
      generalize test? (d.withDepth limit) inner' left kind = test' at hkind ⊢
      cases hkind with
      | none => exact .refl _
      | some htest =>
          apply Curtails.after
          intro _
          exact htest.before

theorem curtails_negation (hlimit : d.maxDepth ≤ limit) (h : inner.Curtails d inner') :
    Curtails d (negation d inner) (negation (d.withDepth limit) inner') := by
  apply Curtails.after
  intro found
  refine Curtails.ite ?_ (curtails_predicate hlimit h)
  apply Curtails.after
  intro here
  apply Curtails.after
  intro _
  refine (curtails_nested hlimit ?_ .nesting here).before
  apply Curtails.after
  intro start
  exact (h .negated).before

theorem curtails_operandsRest {operand operand' : Parse Parsed} (h : Curtails d operand operand')
    (op : LogicalOp) (count : Nat) :
    Curtails d (operandsRest op operand count) (operandsRest op operand' count) := by
  induction count with
  | zero => exact .refl _
  | succ count ih =>
      apply Curtails.after
      intro joined
      refine Curtails.ite ?_ (.refl _)
      apply Curtails.after
      intro start
      apply h.bind
      intro parsed
      apply Curtails.after
      intro value
      exact ih.before

theorem curtails_logical {operand operand' : Parse Parsed} (h : Curtails d operand operand')
    (op : LogicalOp) : Curtails d (logical op operand) (logical op operand') := by
  apply Curtails.after
  intro start
  apply h.bind
  intro first
  apply Curtails.after
  intro found
  refine Curtails.ite ?_ (.refl _)
  apply Curtails.after
  intro value
  apply Curtails.after
  intro count
  exact (curtails_operandsRest h op count).before

end Productions

section Tower

theorem curtails_levelAbove (hlimit : d.maxDepth ≤ limit) {inner inner' : Level}
    (h : inner.Curtails d inner') :
    (levelAbove d inner).Curtails d (levelAbove (d.withDepth limit) inner') := by
  intro production
  cases production with
  | group => exact curtails_logical (curtails_logical (curtails_negation hlimit h) .and) .or
  | negated => exact curtails_negation hlimit h
  | signed => exact curtails_unary hlimit h
  | argument => exact curtails_operand hlimit h
  | member => exact curtails_member hlimit h

/-- A lower tower curtails a higher one: where it ends, so do the levels of the dialect. -/
theorem curtails_level (hlimit : d.maxDepth ≤ limit) {count count' : Nat} (h : count ≤ count') :
    (level d count).Curtails d (level (d.withDepth limit) count') := by
  induction count generalizing count' with
  | zero => exact fun production cursor => .inl ⟨_, rfl, .nesting, rfl⟩
  | succ count ih =>
      cases count' with
      | zero => omega
      | succ count' => exact curtails_levelAbove hlimit (ih (Nat.le_of_succ_le_succ h))

theorem curtails_whole (hlimit : d.maxDepth ≤ limit) :
    Curtails d (whole d) (whole (d.withDepth limit)) := by
  apply Curtails.after
  intro start
  exact (curtails_nested hlimit (curtails_level hlimit hlimit .group) .nesting start).before

theorem curtails_wholeFilter (hlimit : d.maxDepth ≤ limit) :
    Curtails d (wholeFilter d) (wholeFilter (d.withDepth limit)) :=
  (curtails_whole hlimit).before

theorem curtails_wholeExpression (hlimit : d.maxDepth ≤ limit) :
    Curtails d (wholeExpression d) (wholeExpression (d.withDepth limit)) :=
  (curtails_whole hlimit).before

end Tower

end GeoFilter.Grammar
