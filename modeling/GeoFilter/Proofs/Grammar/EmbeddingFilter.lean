import GeoFilter.Proofs.Grammar.EmbeddingExpression

/-!
Filters on the front of a longer list, and the tower of levels. A filter stops in front of a
token that is no further test and no operator between filters.
-/

namespace GeoFilter.Grammar

variable {d : Dialect} {limit : Nat} {tail rest : List TokenKind} {stops : Prop}

section Tests

variable {inner inner' : Level} (h : inner.Carries d limit tail inner') (tested : Expression)

theorem carries_likeTest (matchCase : Bool) :
    Carries d limit tail stops rest (likeTest d tested matchCase)
      (likeTest (d.withDepth limit) tested matchCase) := by
  apply Carries.after_mark
  intro here here'
  apply Carries.after_next (stuck_unexpected _ _ _)
  intro kind more _
  cases kind with
  | string pattern => exact carries_pure _
  | _ => exact carries_unexpected _ _ _

theorem carries_nullTest :
    Carries d limit tail stops rest (nullTest tested) (nullTest tested) := by
  have hnull : ∀ (negated : Bool) (more : List TokenKind), Carries d limit tail stops more
      (do
        let _ ← expectKeyword .null
        return if negated then .not (.isNull tested) else Filter.isNull tested)
      (do
        let _ ← expectKeyword .null
        return if negated then .not (.isNull tested) else Filter.isNull tested) := by
    intro negated more
    apply Carries.after_expect (by simp)
    intro _ _ _
    exact carries_pure _
  exact Carries.after_accept (by simp) (.inl ((stuck_expectKeyword _).bind _)) (hnull false rest)
    fun more _ => hnull true more

include h

theorem carries_betweenTest :
    Carries d limit tail (Follows 1 tail) rest (betweenTest d inner tested)
      (betweenTest (d.withDepth limit) inner' tested) := by
  apply Carries.bind_stuck ((carries_operand h).weaken False.elim)
  · intro lower more
    apply Carries.after_expect (by simp)
    intro _ _ _
    apply Carries.bind (carries_operand h)
    intro upper _ _
    exact carries_pure _
  · exact fun _ => (stuck_expectKeyword _).bind _

theorem carries_membershipTest :
    Carries d limit tail stops rest (membershipTest d inner tested)
      (membershipTest (d.withDepth limit) inner' tested) := by
  apply Carries.after_openValues
  · intro opening
    exact (stuck_nested (stuck_list (h.stuck .argument) opening) .nesting opening).bind _
  · intro opening opening' more
    apply Carries.bind (carries_arguments h opening opening')
    intro values _ _
    exact carries_pure _

/-- The same tokens begin a test, and the tests are carried. -/
theorem carries_negatableTest? (kind : TokenKind) :
    Option.Rel (fun p p' => ∀ rest, Carries d limit tail (Follows 1 tail) rest p p')
      (negatableTest? d inner tested kind)
      (negatableTest? (d.withDepth limit) inner' tested kind) := by
  cases kind with
  | keyword word =>
      cases word with
      | like => exact .some fun _ => carries_likeTest tested true
      | ilike => exact .some fun _ => carries_likeTest tested false
      | between => exact .some fun _ => carries_betweenTest h tested
      | oneOf => exact .some fun _ => carries_membershipTest h tested
      | _ => exact .none
  | _ => exact .none

theorem carries_test? (kind : TokenKind) :
    Option.Rel (fun p p' => ∀ rest, Carries d limit tail (Follows 1 tail) rest p p')
      (test? d inner tested kind) (test? (d.withDepth limit) inner' tested kind) := by
  have hnegatable := carries_negatableTest? h tested
  have hkind := hnegatable kind
  cases kind with
  | operator op =>
      cases op with
      | comparison op =>
          apply Option.Rel.some
          intro rest
          apply Carries.bind (carries_operand h)
          intro right _ _
          exact carries_pure _
      | _ => exact hkind
  | keyword word =>
      cases word with
      | is => exact .some fun _ => carries_nullTest tested
      | not =>
          apply Option.Rel.some
          intro rest
          apply Carries.after_mark
          intro here here'
          apply Carries.after_next (stuck_unexpected _ _ _)
          intro word more _
          have hword := hnegatable word
          generalize negatableTest? d inner tested word = test at hword ⊢
          generalize negatableTest? (d.withDepth limit) inner' tested word = test' at hword ⊢
          cases hword with
          | some htest =>
              apply Carries.bind (htest more)
              intro value _ _
              exact carries_pure _
          | none => exact carries_unexpected _ _ _
      | _ => exact hkind
  | _ => exact hkind

end Tests

section Filters

theorem test?_eq_none {inner : Level} {kind : TokenKind} (hnegated : kind ≠ .keyword .not)
    (htest : beginsTest kind = false) (tested : Expression) : test? d inner tested kind = none := by
  cases kind with
  | operator op =>
      cases op with
      | comparison op => cases htest
      | _ => rfl
  | keyword word =>
      cases word with
      | not => exact absurd rfl hnegated
      | _ => first | rfl | cases htest
  | _ => rfl

variable {inner inner' : Level} (h : inner.Carries d limit tail inner')
include h

theorem carries_predicate :
    Carries d limit tail (EndsPredicate tail) rest (predicate d inner)
      (predicate (d.withDepth limit) inner') := by
  apply Carries.bind ((carries_additive h).weaken EndsPredicate.follows)
  intro parsed more _
  cases parsed with
  | filter value => exact carries_pure _
  | expression left =>
      apply Carries.after_peek
      · intro _
        refine Carries.replace (carries_pure _) fun hends => ?_
        rw [test?_eq_none hends.negated hends.test]
      · intro kind further _
        have hkind := carries_test? h left kind
        generalize test? d inner left kind = test at hkind ⊢
        generalize test? (d.withDepth limit) inner' left kind = test' at hkind ⊢
        cases hkind with
        | none => exact carries_pure _
        | some htest =>
            apply Carries.after_next_cons
            apply Carries.bind ((htest further).weaken EndsPredicate.follows)
            intro value later _
            apply Carries.after_peek
            · intro _
              refine Carries.replace (carries_pure _) fun hends => ?_
              simp only [hends.test, Bool.false_eq_true, if_false]
            · intro following last _
              cases beginsTest following with
              | true => exact carries_fail _ _
              | false => exact carries_pure _

omit h in
theorem stuck_predicate : Stuck (predicate d inner) :=
  stuck_additive.bind _

theorem carries_negation :
    Carries d limit tail (EndsPredicate tail) rest (negation d inner)
      (negation (d.withDepth limit) inner') := by
  apply Carries.after_peek
  · intro _
    rw [if_neg (by simp)]
    exact stuck_predicate.carries
  · intro kind more _
    by_cases hnot : kind = .keyword .not
    · rw [if_pos hnot, if_pos hnot]
      apply Carries.after_mark
      intro here here'
      apply Carries.after_next_cons
      apply Carries.bind
      · apply carries_nested
        apply Carries.after_mark
        intro start start'
        apply Carries.bind (h.reads .negated more)
        intro parsed _ _
        exact carries_requireFilter start start' parsed
      · intro negated _ _
        exact carries_pure _
    · rw [if_neg hnot, if_neg hnot]
      exact carries_predicate h

omit h in
theorem stuck_negation : Stuck (negation d inner) := by
  apply Stuck.after_peek
  rw [if_neg (by simp)]
  exact stuck_predicate

end Filters

section Operands

variable {operand operand' : Parse Parsed} {op : LogicalOp}

theorem reads_operandsRest_nil (operand : Level → Parse Parsed)
    (hhead : tail.headD .endOfInput ≠ .keyword op.keyword) (count : Nat) :
    Reads d (fun inner => operandsRest op (operand inner) count) tail [] tail .free := by
  cases count with
  | zero => exact reads_pure
  | succ count =>
      apply Reads.step (reads_acceptNot hhead)
      exact reads_pure

theorem carries_operandsRest (hstops : stops → tail.headD .endOfInput ≠ .keyword op.keyword)
    (h : ∀ more, Carries d limit tail stops more operand operand') {count count' : Nat}
    (hcount : rest.length ≤ count) (hcount' : rest.length ≤ count') :
    Carries d limit tail stops rest (operandsRest op operand count)
      (operandsRest op operand' count') := by
  have hended : ∀ count count', Carries d limit tail stops [] (operandsRest op operand count)
      (operandsRest op operand' count') :=
    fun count count' => carries_ended
      (@reads_operandsRest_nil d [] op (fun _ => operand) (by simp) count) fun htail =>
        reads_operandsRest_nil (fun _ => operand') (hstops htail) count'
  induction count generalizing rest count' with
  | zero =>
      rw [List.eq_nil_of_length_eq_zero (Nat.le_zero.mp hcount)]
      exact hended 0 count'
  | succ count ih =>
      cases count' with
      | zero =>
          rw [List.eq_nil_of_length_eq_zero (Nat.le_zero.mp hcount')]
          exact hended (count + 1) 0
      | succ count' =>
          refine Carries.after_accept (by simp) (.inr hstops) ?_ ?_
          · exact carries_pure _
          · intro more hmore
            apply Carries.after_mark
            intro start start'
            apply Carries.bind (h more)
            intro parsed further hfurther
            apply Carries.bind (carries_requireFilter start start' parsed)
            intro value later hlater
            apply Carries.bind (ih (by omega) (by omega))
            intro others _ _
            exact carries_pure _

theorem stuck_logical (h : Stuck operand) : Stuck (logical op operand) :=
  Stuck.after_mark (h.bind _)

theorem carries_logical (hstops : stops → tail.headD .endOfInput ≠ .keyword op.keyword)
    (h : ∀ more, Carries d limit tail stops more operand operand') :
    Carries d limit tail stops rest (logical op operand) (logical op operand') := by
  apply Carries.after_mark
  intro start start'
  apply Carries.bind (h rest)
  intro first more _
  apply Carries.after_peek
  · intro _
    rw [if_neg (by simp)]
    exact Carries.replace (carries_pure _) fun htail => if_neg (hstops htail)
  · intro kind further _
    by_cases hjoined : kind = .keyword op.keyword
    · rw [if_pos hjoined, if_pos hjoined]
      apply Carries.bind (carries_requireFilter start start' first)
      intro value later _
      apply Carries.after_tokensLeft
      intro count hcount
      apply Carries.bind (carries_operandsRest hstops h le_rfl hcount)
      intro others _ _
      exact carries_pure _
    · rw [if_neg hjoined, if_neg hjoined]
      exact carries_pure _

end Operands

section Tower

theorem carries_disjunction {inner inner' : Level} (h : inner.Carries d limit tail inner') :
    Carries d limit tail (Stops tail .group) rest (disjunction d inner)
      (disjunction (d.withDepth limit) inner') := by
  refine carries_logical (fun hstops => hstops.2 .or) fun more => ?_
  refine carries_logical (fun hstops => hstops.2 .and) fun more => ?_
  exact (carries_negation h).weaken And.left

theorem carries_levelAbove {inner inner' : Level} (h : inner.Carries d limit tail inner') :
    (levelAbove d inner).Carries d limit tail (levelAbove (d.withDepth limit) inner') where
  reads := by
    intro production rest
    cases production with
    | group => exact carries_disjunction h
    | negated => exact carries_negation h
    | signed => exact carries_unary h
    | argument => exact carries_operand h
    | member => exact carries_member h
  stuck := by
    intro production
    cases production with
    | group => exact stuck_logical (stuck_logical stuck_negation)
    | negated => exact stuck_negation
    | signed => exact stuck_unary
    | argument => exact stuck_operand
    | member => exact Stuck.after_mark (Stuck.after_next (stuck_unexpected _ _ _))

/-- A tower reads on a longer list as one that is no higher does on its own. -/
theorem carries_level {count count' : Nat} (h : count ≤ count') :
    (level d count).Carries d limit tail (level (d.withDepth limit) count') := by
  induction count generalizing count' with
  | zero =>
      constructor
      · exact fun production rest gauge gauge' value later _ hresult => nomatch hresult
      · exact fun production gauge value later hresult => nomatch hresult
  | succ count ih =>
      cases count' with
      | zero => omega
      | succ count' => exact carries_levelAbove (ih (Nat.le_of_succ_le_succ h))

end Tower

end GeoFilter.Grammar
