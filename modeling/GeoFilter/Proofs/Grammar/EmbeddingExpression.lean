import GeoFilter.Proofs.Grammar.Embedding

/-!
Geometries and expressions on the front of a longer list. Each nested production is carried with
what it asks of the tail, and the productions of a level follow from those of the next.
-/

namespace GeoFilter.Grammar

variable {d : Dialect} {limit : Nat} {tail rest : List TokenKind} {stops : Prop} {β : Type}

section Geometries

theorem stuck_signedNumber : Stuck signedNumber := by
  apply Stuck.after_accept (by simp)
  exact Stuck.after_mark (Stuck.after_next (stuck_unexpected _ _ _))

theorem carries_signedNumber : Carries d limit tail stops rest signedNumber signedNumber := by
  -- With the minus sign read or without it, what remains to be read is the same.
  refine Carries.after_accept (by simp) (.inl ?_) ?_ fun more _ => ?_
  · exact Stuck.after_mark (Stuck.after_next (stuck_unexpected _ _ _))
  all_goals
    apply Carries.after_mark
    intro here here'
    apply Carries.after_next (stuck_unexpected _ _ _)
    intro kind further _
    cases kind with
    | number digits => exact carries_check _ _ _
    | _ => exact carries_unexpected _ _ _

theorem stuck_coordinate : Stuck coordinate :=
  stuck_signedNumber.bind _

/-- Whether a coordinate has a third number is only known from what comes behind it. -/
theorem carries_coordinate : Carries d limit tail False rest coordinate coordinate := by
  have hthird : ∀ (x y : Float) (more : List TokenKind), Carries d limit tail False more
      (do let z ← signedNumber; return (⟨x, y, some z⟩ : Coordinate))
      (do let z ← signedNumber; return (⟨x, y, some z⟩ : Coordinate)) :=
    fun x y more => carries_signedNumber.bind fun z further _ => carries_pure _
  apply Carries.bind carries_signedNumber
  intro x more _
  apply Carries.bind carries_signedNumber
  intro y further _
  apply Carries.after_peek
  · intro _
    exact carries_ended reads_pure False.elim
  · intro kind later _
    cases kind with
    | number digits => exact hthird x y _
    | operator op =>
        cases op with
        | minus => exact hthird x y _
        | _ => exact carries_pure _
    | _ => exact carries_pure _

theorem carries_path : Carries d limit tail stops rest path path := by
  apply Carries.after_expect (by simp)
  intro opening opening' more
  exact carries_list (fun _ => carries_coordinate) opening opening'

theorem carries_rings : Carries d limit tail stops rest rings rings := by
  apply Carries.after_expect (by simp)
  intro opening opening' more
  exact carries_list (fun _ => carries_path) opening opening'

/-- A coordinate in front of the parenthesis that closes it. -/
theorem carries_coordinate_close {q q' : Coordinate → Parse β} (opening opening' : Mark)
    (h : ∀ c more, Carries d limit tail stops more (q c) (q' c)) :
    Carries d limit tail stops rest (do let c ← coordinate; close opening; q c)
      (do let c ← coordinate; close opening'; q' c) := by
  apply Carries.bind_stuck carries_coordinate
  · intro c more
    apply Carries.bind (carries_close opening opening')
    intro _ further _
    exact h c further
  · exact fun _ => (stuck_close opening).bind _

theorem carries_multiPointMember :
    Carries d limit tail False rest multiPointMember multiPointMember := by
  apply Carries.after_mark
  intro here here'
  apply Carries.after_accept (by simp) (.inl stuck_coordinate)
  · exact carries_coordinate
  · intro more _
    exact carries_coordinate_close here here' fun _ _ => carries_pure _

theorem carries_envelopeBounds (opening opening' : Mark) :
    Carries d limit tail stops rest (envelopeBounds opening) (envelopeBounds opening') := by
  apply Carries.bind carries_signedNumber
  intro minX _ _
  apply Carries.after_expect (by simp)
  intro _ _ _
  apply Carries.bind carries_signedNumber
  intro maxX _ _
  apply Carries.after_expect (by simp)
  intro _ _ _
  apply Carries.bind carries_signedNumber
  intro maxY _ _
  apply Carries.after_expect (by simp)
  intro _ _ _
  apply Carries.bind carries_signedNumber
  intro minY _ _
  apply Carries.bind (carries_close opening opening')
  intro _ _ _
  exact carries_pure _

end Geometries

section Levels

/-- A tail in front of which a predicate is over: neither its expression goes on nor a test. -/
structure EndsPredicate (tail : List TokenKind) : Prop where
  follows : Follows 1 tail
  negated : tail.headD .endOfInput ≠ .keyword .not
  test : beginsTest (tail.headD .endOfInput) = false

/-- What each of the nested productions asks of a tail that it is to stop at. -/
def Stops (tail : List TokenKind) : Nested → Prop
  | .group => EndsPredicate tail ∧ ∀ op : LogicalOp, tail.headD .endOfInput ≠ .keyword op.keyword
  | .negated => EndsPredicate tail
  | .signed => Follows 3 tail
  | .argument => Follows 1 tail
  | .member => True

/-- The productions of a level read on a longer list as those of another one do. -/
structure Level.Carries (d : Dialect) (limit : Nat) (tail : List TokenKind)
    (inner inner' : Level) : Prop where
  reads : ∀ production rest,
    Grammar.Carries d limit tail (Stops tail production) rest (inner production) (inner' production)
  stuck : ∀ production, Stuck (inner production)

/-- A production of the level with something behind it that needs more tokens. -/
theorem Level.Carries.within {inner inner' : Level} (h : inner.Carries d limit tail inner')
    (production : Nested) (rest : List TokenKind) :
    Grammar.Carries d limit tail False rest (inner production) (inner' production) :=
  (h.reads production rest).weaken False.elim

variable {inner inner' : Level} (h : inner.Carries d limit tail inner')
include h

theorem carries_geometryBody (here here' opening opening' : Mark) (type : GeometryType) :
    Carries d limit tail stops rest (geometryBody d inner here opening type)
      (geometryBody (d.withDepth limit) inner' here' opening' type) := by
  have hbind : ∀ {α : Type} {p p' : Parse α} {f : α → Geometry},
      Carries d limit tail stops rest p p' →
      Carries d limit tail stops rest (p >>= fun value => pure (f value))
        (p' >>= fun value => pure (f value)) :=
    fun hp => hp.bind fun _ _ _ => carries_pure _
  cases type with
  | point => exact carries_coordinate_close opening opening' fun _ _ => carries_pure _
  | lineString => exact hbind (carries_list (fun _ => carries_coordinate) opening opening')
  | polygon => exact hbind (carries_list (fun _ => carries_path) opening opening')
  | multiPoint => exact hbind (carries_list (fun _ => carries_multiPointMember) opening opening')
  | multiLineString => exact hbind (carries_list (fun _ => carries_path) opening opening')
  | multiPolygon => exact hbind (carries_list (fun _ => carries_rings) opening opening')
  | collection =>
      exact hbind (carries_nested (carries_list (h.within .member) opening opening') .nesting _ _)
  | envelope => exact hbind (carries_envelopeBounds opening opening')

theorem carries_geometry (here here' : Mark) (type : GeometryType) :
    Carries d limit tail stops rest (geometry d inner here type)
      (geometry (d.withDepth limit) inner' here' type) := by
  apply Carries.after_accept (by simp) (.inl ((stuck_expectPunctuation _).bind _))
  · apply Carries.after_expect (by simp)
    intro opening opening' more
    apply Carries.bind (carries_geometryBody h here here' opening opening' type)
    intro value further _
    apply Carries.bind (carries_checkNone _ here here')
    intro _ _ _
    exact carries_pure _
  · intro more _
    cases type with
    | envelope => exact carries_fail _ _
    | _ => exact carries_pure _

theorem carries_member :
    Carries d limit tail stops rest (member d inner) (member (d.withDepth limit) inner') := by
  apply Carries.after_mark
  intro here here'
  apply Carries.after_next (stuck_unexpected _ _ _)
  intro kind more _
  cases kind with
  | keyword word =>
      cases word with
      | geometry type => exact carries_geometry h here here' type
      | _ => exact carries_unexpected _ _ _
  | _ => exact carries_unexpected _ _ _

theorem carries_arguments (opening opening' : Mark) :
    Carries d limit tail stops rest (arguments d inner opening)
      (arguments (d.withDepth limit) inner' opening') :=
  carries_nested (carries_list (h.within .argument) opening opening') .nesting opening opening'

theorem carries_callArguments :
    Carries d limit tail stops rest (callArguments d inner)
      (callArguments (d.withDepth limit) inner') := by
  apply Carries.after_expect (by simp)
  intro opening opening' more
  refine Carries.after_accept (by simp) (.inl ?_) (carries_arguments h opening opening') fun _ _ =>
    carries_pure _
  exact stuck_nested (stuck_list (h.stuck .argument) opening) .nesting opening

omit h in
theorem carries_pathSegments {count count' : Nat} (hcount : rest.length ≤ count)
    (hcount' : rest.length ≤ count') :
    Carries d limit tail (Follows 3 tail) rest (pathSegments count) (pathSegments count') := by
  have hended : ∀ count count',
      Carries d limit tail (Follows 3 tail) [] (pathSegments count) (pathSegments count') :=
    fun count count' =>
      carries_ended (@reads_pathSegments d [] (by simp) [] count (Nat.zero_le _)) fun hfollows =>
        @reads_pathSegments _ tail hfollows.dot [] count' (Nat.zero_le _)
  induction count generalizing rest count' with
  | zero =>
      rw [List.eq_nil_of_length_eq_zero (Nat.le_zero.mp hcount)]
      exact hended 0 count'
  | succ count ih =>
      cases count' with
      | zero =>
          rw [List.eq_nil_of_length_eq_zero (Nat.le_zero.mp hcount')]
          exact hended (count + 1) 0
      | succ count' =>
          refine Carries.after_accept (by simp) (.inr fun hfollows => hfollows.dot) ?_ ?_
          · exact carries_pure _
          · intro more hmore
            apply Carries.after_mark
            intro here here'
            apply Carries.after_next (stuck_unexpected _ _ _)
            intro kind further hrest
            have hbind : ∀ name : String, Carries d limit tail (Follows 3 tail) further
                (pathSegments count >>= fun others => pure (name :: others))
                (pathSegments count' >>= fun others => pure (name :: others)) := by
              intro name
              rw [hrest, List.length_cons] at hmore
              exact (ih (by omega) (by omega)).bind fun _ _ _ => carries_pure _
            cases kind with
            | identifier name => exact hbind name
            | quotedIdentifier name => exact hbind name
            | _ => exact carries_unexpected _ _ _

omit h in
theorem carries_property (name : String) :
    Carries d limit tail (Follows 3 tail) rest (property name) (property name) := by
  apply Carries.after_tokensLeft
  intro count hcount
  apply Carries.bind (carries_pathSegments le_rfl hcount)
  intro segments _ _
  exact carries_pure _

omit h in
theorem carries_featureIdentifier :
    Carries d limit tail stops rest featureIdentifier featureIdentifier := by
  apply Carries.after_mark
  intro here here'
  apply Carries.after_next (stuck_unexpected _ _ _)
  intro kind more _
  cases kind with
  | string name => exact carries_pure _
  | number name => exact carries_pure _
  | _ => exact carries_unexpected _ _ _

omit h in
/-- The opening of a list, in front of the list. -/
theorem Carries.after_openValues {q q' : Mark → Parse β} (hstuck : ∀ here, Stuck (q here))
    (hq : ∀ here here' more, Carries d limit tail stops more (q here) (q' here')) :
    Carries d limit tail stops rest (openValues >>= q) (openValues >>= q') := by
  have hopen : ∀ q : Mark → Parse β, (openValues >>= q) = (do
      let opening ← expectPunctuation .openParen
      let kind ← peek
      if kind = .punctuation .closeParen then fail .noValues opening else q opening) := by
    intro q
    unfold openValues
    simp only [bind_assoc]
    congr 1
    funext opening
    congr 1
    funext kind
    split <;> rfl
  rw [hopen, hopen]
  apply Carries.after_expect (by simp)
  intro opening opening' more
  apply Carries.after_peek
  · intro _
    exact (hstuck opening).carries
  · intro kind further _
    by_cases hclosed : kind = .punctuation .closeParen
    · rw [if_pos hclosed]
      exact carries_fail _ _
    · rw [if_neg hclosed, if_neg hclosed]
      exact hq _ _ _

omit h in
theorem stuck_primary : Stuck (primary d inner) :=
  Stuck.after_mark (Stuck.after_next (stuck_unexpected _ _ _))

theorem carries_primary :
    Carries d limit tail (Follows 3 tail) rest (primary d inner)
      (primary (d.withDepth limit) inner') := by
  apply Carries.after_mark
  intro here here'
  apply Carries.after_next (stuck_unexpected _ _ _)
  intro kind more _
  cases kind with
  | number digits =>
      apply Carries.bind (carries_check _ here here')
      intro value _ _
      exact carries_pure _
  | string value => exact carries_pure _
  | identifier name =>
      have hproperty : ∀ further, Carries d limit tail (Follows 3 tail) further
          (property name >>= fun value => pure (Parsed.expression value))
          (property name >>= fun value => pure (Parsed.expression value)) :=
        fun further => (carries_property name).bind fun _ _ _ => carries_pure _
      apply Carries.after_peek
      · intro _
        rw [if_neg (by simp)]
        exact (hproperty []).replace fun hfollows => if_neg hfollows.openParen
      · intro kind further _
        by_cases hopen : kind = .punctuation .openParen
        · rw [if_pos hopen, if_pos hopen]
          apply Carries.bind (carries_callArguments h)
          intro given _ _
          apply Carries.bind (carries_checkNone _ here here')
          intro _ _ _
          exact carries_pure _
        · rw [if_neg hopen, if_neg hopen]
          exact hproperty _
  | quotedIdentifier name => exact (carries_property name).bind fun _ _ _ => carries_pure _
  | keyword word =>
      cases word with
      | truth => exact carries_pure _
      | falsity => exact carries_pure _
      | null => exact carries_pure _
      | geometry type => exact (carries_geometry h here here' type).bind fun _ _ _ => carries_pure _
      | spatial op =>
          apply Carries.bind (carries_callArguments h)
          intro given _ _
          apply Carries.bind (carries_check _ here here')
          intro predicate _ _
          exact carries_pure _
      | everything => exact carries_pure _
      | nothing => exact carries_pure _
      | oneOf =>
          apply Carries.after_openValues
          · intro opening
            exact ((Stuck.after_mark (Stuck.after_next (stuck_unexpected _ _ _))).bind _).bind _
          · intro opening opening' further
            apply Carries.bind (carries_list (fun _ => carries_featureIdentifier) opening opening')
            intro identifiers _ _
            exact carries_pure _
      | _ => exact carries_unexpected _ _ _
  | punctuation symbol =>
      cases symbol with
      | openParen =>
          apply Carries.after_mark
          intro start start'
          apply Carries.bind_stuck (carries_nested (h.within .group more) .nesting start start')
          · intro parsed further
            apply Carries.bind (carries_close here here')
            intro _ _ _
            exact carries_pure _
          · exact fun _ => (stuck_close here).bind _
      | _ => exact carries_unexpected _ _ _
  | _ => exact carries_unexpected _ _ _

omit h in
theorem stuck_unary : Stuck (unary d inner) := by
  apply Stuck.after_peek
  rw [if_neg (by simp)]
  exact stuck_primary

theorem carries_unary :
    Carries d limit tail (Follows 3 tail) rest (unary d inner)
      (unary (d.withDepth limit) inner') := by
  apply Carries.after_peek
  · intro _
    rw [if_neg (by simp)]
    exact stuck_primary.carries
  · intro kind more _
    by_cases hsign : kind = .operator .minus
    · rw [if_pos hsign, if_pos hsign]
      have hsigned : ∀ (here here' start start' : Mark) (further : List TokenKind),
          Carries d limit tail (Follows 3 tail) further
            (do
              let operand ← nested d .nesting here do requireExpression start (← inner .signed)
              return Parsed.expression (.arithmetic .subtract (.integer 0) operand))
            (do
              let operand ← nested (d.withDepth limit) .nesting here' do
                requireExpression start' (← inner' .signed)
              return Parsed.expression (.arithmetic .subtract (.integer 0) operand)) := by
        intro here here' start start' further
        apply Carries.bind
        · apply carries_nested
          apply Carries.bind (h.reads .signed further)
          intro parsed _ _
          exact carries_requireExpression _ _ _
        · intro operand _ _
          exact carries_pure _
      apply Carries.after_mark
      intro here here'
      apply Carries.after_next_cons
      apply Carries.after_mark
      intro start start'
      apply Carries.after_peek
      · rintro rfl
        apply Stuck.carries
        exact (stuck_nested ((h.stuck .signed).bind _) .nesting here).bind _
      · intro following further _
        cases following with
        | number digits =>
            apply Carries.after_next_cons
            apply Carries.bind (carries_check _ start start')
            intro value _ _
            exact carries_pure _
        | _ => exact hsigned here here' start start' _
    · rw [if_neg hsign, if_neg hsign]
      exact carries_primary h

end Levels

section Chains

variable {operand operand' : Parse Parsed} {operator? : TokenKind → Option ArithmeticOp}

/-- A chain goes on with an operand that is carried, and ends in front of anything but one of its
operators. -/
theorem carries_chainRest (hend : operator? .endOfInput = none)
    (hstops : stops → operator? (tail.headD .endOfInput) = none)
    (h : ∀ more, Carries d limit tail stops more operand operand') (start start' : Mark)
    {count count' : Nat} (hcount : rest.length ≤ count) (hcount' : rest.length ≤ count')
    (left : Parsed) :
    Carries d limit tail stops rest (chainRest d operator? operand start count left)
      (chainRest (d.withDepth limit) operator? operand' start' count' left) := by
  have hended : ∀ count count' left, Carries d limit tail stops []
      (chainRest d operator? operand start count left)
      (chainRest (d.withDepth limit) operator? operand' start' count' left) :=
    fun count count' left => carries_ended
      (@reads_chainRest_nil d [] operator? (fun _ => operand) hend start count left) fun htail =>
        reads_chainRest_nil operator? (fun _ => operand') (hstops htail) start' count' left
  induction count generalizing rest count' left with
  | zero =>
      rw [List.eq_nil_of_length_eq_zero (Nat.le_zero.mp hcount)]
      exact hended 0 count' left
  | succ count ih =>
      cases rest with
      | nil => exact hended (count + 1) count' left
      | cons kind more =>
          cases count' with
          | zero => cases hcount'
          | succ count' =>
              have hshort := Nat.le_of_succ_le_succ hcount
              have hshort' := Nat.le_of_succ_le_succ hcount'
              apply Carries.after_peek (by simp)
              rintro kind more ⟨⟩
              cases operator? kind with
              | none => exact carries_pure _
              | some op =>
                  apply Carries.after_mark
                  intro here here'
                  apply Carries.after_next_cons
                  apply carries_nested
                  apply Carries.bind (carries_requireExpression start start' left)
                  intro first later hlater
                  apply Carries.after_mark
                  intro place place'
                  apply Carries.bind (h later)
                  intro parsed further hfurther
                  apply Carries.bind (carries_requireExpression place place' parsed)
                  intro second last hlast
                  exact ih (by omega) (by omega) _

theorem carries_chain (hend : operator? .endOfInput = none)
    (hstops : stops → operator? (tail.headD .endOfInput) = none)
    (h : ∀ more, Carries d limit tail stops more operand operand') :
    Carries d limit tail stops rest (chain d operator? operand)
      (chain (d.withDepth limit) operator? operand') := by
  apply Carries.after_mark
  intro start start'
  apply Carries.bind (h rest)
  intro first more _
  apply Carries.after_tokensLeft
  intro count hcount
  exact carries_chainRest hend hstops h start start' le_rfl hcount first

end Chains

section Arithmetic

variable {inner inner' : Level} (h : inner.Carries d limit tail inner')
include h

theorem carries_multiplicative :
    Carries d limit tail (Follows 2 tail) rest (multiplicative d inner)
      (multiplicative (d.withDepth limit) inner') :=
  carries_chain rfl (fun hfollows => hfollows.operator 2 le_rfl)
    fun _ => (carries_unary h).weaken fun hfollows => hfollows.mono (Nat.le_succ 2)

theorem carries_additive :
    Carries d limit tail (Follows 1 tail) rest (additive d inner)
      (additive (d.withDepth limit) inner') :=
  carries_chain rfl (fun hfollows => hfollows.operator 1 le_rfl)
    fun _ => (carries_multiplicative h).weaken fun hfollows => hfollows.mono (Nat.le_succ 1)

omit h in
theorem stuck_additive : Stuck (additive d inner) :=
  Stuck.after_mark ((Stuck.after_mark (stuck_unary.bind _)).bind _)

theorem carries_operand :
    Carries d limit tail (Follows 1 tail) rest (operand d inner)
      (operand (d.withDepth limit) inner') := by
  apply Carries.after_mark
  intro start start'
  apply Carries.bind (carries_additive h)
  intro parsed _ _
  exact carries_requireExpression start start' parsed

omit h in
theorem stuck_operand : Stuck (operand d inner) :=
  Stuck.after_mark (stuck_additive.bind _)

end Arithmetic

end GeoFilter.Grammar
