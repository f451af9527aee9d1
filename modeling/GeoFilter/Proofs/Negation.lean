import GeoFilter.Proofs.Grammar.Composition

/-!
Negation in front of a predicate and within it. A test with NOT in front of its keyword is read
by another production than a predicate with NOT in front of its operand, and both make the same
filter of any operand and of anything that the test holds.
-/

namespace GeoFilter

open Grammar

variable {d : Dialect} {limit : Nat}

/-- A text that is a single string literal. -/
def IsStringLiteral (d : Dialect) (text value : String) : Prop :=
  ∃ tokens, tokenize d text = .ok tokens ∧ meaningfulKinds tokens = [.string value]

/-- The text of a test that NOT can stand in front of, and what it makes of the expression that
is tested. -/
inductive IsTest (d : Dialect) : String → (Expression → Filter) → Prop where
  | like {text pattern : String} (h : IsStringLiteral d text pattern) :
      IsTest d ("LIKE " ++ text) fun e => .like ⟨e, pattern, d.like, true⟩
  | ilike {text pattern : String} (h : IsStringLiteral d text pattern) :
      IsTest d ("ILIKE " ++ text) fun e => .like ⟨e, pattern, d.like, false⟩
  | between {lower upper : String} {a b : Expression} (hlower : Expression.parse d lower = .ok a)
      (hupper : Expression.parse d upper = .ok b) :
      IsTest d ("BETWEEN " ++ lower ++ " AND " ++ upper) fun e => .between e a b
  | oneOf {values : List (String × Expression)} (hvalues : values ≠ [])
      (h : ∀ value ∈ values, Expression.parse d value.1 = .ok value.2) :
      IsTest d ("IN (" ++ ", ".intercalate (values.map Prod.fst) ++ ")") fun e =>
        .oneOf e (values.map Prod.snd)

theorem Lexed.spaced {a b : List Char} {ka kb : List TokenKind} (ha : Lexed d a ka)
    (hb : Lexed d b kb) : Lexed d (a ++ ' ' :: b) (ka ++ kb) :=
  ha.append hb.blank (separated_cons rfl b)

namespace Grammar

section Operands

variable {text : String} {e : Expression} {kinds tail : List TokenKind} {bound : Nat}

theorem textReads_additive (h : Expression.parse d text = .ok e) :
    TextReads d additive (Follows 1) text.toList (.expression e) := by
  obtain ⟨kinds, hlexed, hconsumes⟩ := consumes_of_parseExpression h
  refine ⟨kinds, d.maxDepth - 1, hlexed, fun limit tail hfollows => ?_⟩
  exact hconsumes.additive.readsWithin hfollows fun _ _ hlevel => carries_additive hlevel

theorem ReadsWithin.operand
    (h : ReadsWithin d (Grammar.additive d) kinds (.expression e) tail bound) :
    ReadsWithin d (Grammar.operand d) kinds e tail bound := by
  apply ReadsWithin.step reads_mark
  apply ReadsWithin.bind h
  exact reads_pure.freely

theorem separated_further (values : List (String × Expression)) :
    Separated (values.flatMap fun value => ',' :: ' ' :: value.1.toList) := by
  cases values with
  | nil => exact separated_nil
  | cons first others => exact separated_cons rfl _

/-- The further values of a list, each behind a comma. -/
theorem textReads_listRest {values : List (String × Expression)}
    (h : ∀ value ∈ values, Expression.parse d value.1 = .ok value.2) :
    ∃ (kinds : List TokenKind) (bound : Nat),
      Lexed d (values.flatMap fun value => ',' :: ' ' :: value.1.toList) kinds ∧
        values.length ≤ kinds.length ∧
        ∀ limit tail opening count, values.length < count →
          EndsItem (kinds ++ .punctuation .closeParen :: tail) ∧
            ReadsWithin (d.withDepth limit)
              (fun inner => listRest opening (Grammar.operand (d.withDepth limit) inner) count)
              (kinds ++ .punctuation .closeParen :: tail) (values.map Prod.snd) tail bound := by
  induction values with
  | nil =>
      refine ⟨[], 0, lexed_gap (by simp), le_rfl, fun limit tail opening count hcount => ?_⟩
      refine ⟨.inr rfl, ?_⟩
      cases count with
      | zero => cases hcount
      | succ count =>
          apply ReadsWithin.step reads_mark
          apply ReadsWithin.step reads_next
          exact reads_pure.freely
  | cons value others ih =>
      obtain ⟨ks, more, hlexed, hlength, hothers⟩ :=
        ih fun value hvalue => h value (List.mem_cons_of_mem _ hvalue)
      obtain ⟨kinds, bound, hvalue, hreads⟩ := textReads_additive (h value List.mem_cons_self)
      refine ⟨.punctuation .comma :: (kinds ++ ks), max bound more, ?_, ?_, ?_⟩
      · have hcomma := opens_comma _ _ (hvalue.append hlexed (separated_further others)).blank
        simpa using hcomma
      · simp only [List.length_cons, List.length_append]
        omega
      · intro limit tail opening count hcount
        refine ⟨.inl rfl, ?_⟩
        cases count with
        | zero => cases hcount
        | succ count =>
            obtain ⟨hends, hrest⟩ :=
              hothers limit tail opening count (Nat.lt_of_succ_lt_succ hcount)
            have hfirst := ReadsWithin.operand (hreads limit _ (hends.ends.follows 1))
            rw [List.cons_append, List.append_assoc]
            apply ReadsWithin.step reads_mark
            apply ReadsWithin.step reads_next
            apply ReadsWithin.bind (hfirst.mono (Nat.le_max_left _ _))
            apply ReadsWithin.bind (hrest.mono (Nat.le_max_right _ _))
            exact reads_pure.freely

/-- What an expression is read from does not begin with a closing parenthesis. -/
theorem headD_of_readsWithin {value : Parsed}
    (h : ∀ limit, ReadsWithin (d.withDepth limit) (Grammar.additive (d.withDepth limit)) kinds
      value tail bound) : kinds.headD .endOfInput ≠ .punctuation .closeParen := by
  obtain ⟨later, hresult, -⟩ := h bound bound (.resting 0) (Nat.sub_le _ _) le_rfl
  exact headD_of_additive (.inr rfl) hresult

/-- The values of a list that is not empty, in front of the parenthesis that closes it. -/
theorem textReads_arguments {values : List (String × Expression)} (hvalues : values ≠ [])
    (h : ∀ value ∈ values, Expression.parse d value.1 = .ok value.2) :
    ∃ (kinds : List TokenKind) (bound : Nat),
      Lexed d (", ".intercalate (values.map Prod.fst)).toList kinds ∧
        ∀ limit tail opening,
          (kinds ++ .punctuation .closeParen :: tail).headD .endOfInput ≠
              .punctuation .closeParen ∧
            ReadsWithin (d.withDepth limit)
              (fun inner => arguments (d.withDepth limit) inner opening)
              (kinds ++ .punctuation .closeParen :: tail) (values.map Prod.snd) tail bound := by
  obtain ⟨first, others, rfl⟩ := List.exists_cons_of_ne_nil hvalues
  obtain ⟨kinds, bound, hfirst, hreads⟩ := textReads_additive (h first List.mem_cons_self)
  obtain ⟨ks, more, hothers, hlength, hrest⟩ :=
    textReads_listRest fun value hvalue => h value (List.mem_cons_of_mem _ hvalue)
  refine ⟨kinds ++ ks, max bound more + 1, ?_, fun limit tail opening => ?_⟩
  · rw [List.map_cons, toList_intercalate_cons, List.flatMap_map]
    exact hfirst.append hothers (separated_further others)
  · have hends : EndsItem (ks ++ .punctuation .closeParen :: tail) :=
      (hrest limit tail opening _ (Nat.lt_succ_self _)).1
    have hitem := fun limit => hreads limit _ (hends.ends.follows 1)
    have hcount : others.length < (ks ++ TokenKind.punctuation .closeParen :: tail).length := by
      rw [List.length_append, List.length_cons]
      omega
    obtain ⟨-, hfurther⟩ := hrest limit tail opening _ hcount
    rw [List.append_assoc]
    refine ⟨headD_of_readsWithin hitem, ?_⟩
    apply @ReadsWithin.nested _ _ _ _ _ _ (fun inner => list opening (inner .argument))
    apply ReadsWithin.bind (ReadsWithin.operand ((hitem limit).mono (Nat.le_max_left _ _)))
    apply ReadsWithin.step reads_tokensLeft
    apply ReadsWithin.bind (hfurther.mono (Nat.le_max_right _ _))
    exact reads_pure.freely

end Operands

section Tests

variable {text : String} {test : Expression → Filter} {x : Expression} {f g : Filter}

/-- A text whose first token selects a test, and that is read as this test in front of the end of
a predicate, whatever is tested. -/
def TestReads (d : Dialect) (text : List Char) (test : Expression → Filter)
    (select? : Dialect → Level → Expression → TokenKind → Option (Parse Filter)) : Prop :=
  ∃ (kind : TokenKind) (kinds : List TokenKind) (bound : Nat), Lexed d text (kind :: kinds) ∧
    Ends kind ∧ ∀ limit tail x, EndsPredicate tail → ∃ p : Level → Parse Filter,
      (∀ inner, select? (d.withDepth limit) inner x kind = some (p inner)) ∧
        ReadsWithin (d.withDepth limit) p (kinds ++ tail) (test x) tail bound

theorem testReads_like {pattern : String} (h : IsStringLiteral d text pattern) (word : Keyword)
    (matchCase : Bool) (hword : Keyword.reserved.contains word = true)
    (hselect : ∀ d inner x, negatableTest? d inner x (.keyword word) =
      some (likeTest d x matchCase)) :
    TestReads d (word.name.toList ++ ' ' :: text.toList)
      (fun x => .like ⟨x, pattern, d.like, matchCase⟩) negatableTest? := by
  obtain ⟨tokens, htokens, hkinds⟩ := h
  have hliteral := lexed_of_tokenize htokens
  rw [hkinds] at hliteral
  refine ⟨_, _, 0, (spells_keyword hword).lexed.spaced hliteral, ends_keyword _, ?_⟩
  refine fun limit tail x _ => ⟨fun _ => likeTest _ x matchCase, fun inner => hselect _ _ _, ?_⟩
  apply ReadsWithin.step reads_mark
  apply ReadsWithin.step reads_next
  exact reads_pure.freely

theorem testReads_between {lower upper : String} {a b : Expression}
    (hlower : Expression.parse d lower = .ok a) (hupper : Expression.parse d upper = .ok b) :
    TestReads d ("BETWEEN " ++ lower ++ " AND " ++ upper).toList (fun x => .between x a b)
      negatableTest? := by
  obtain ⟨kinds, bound, hlexed, hreads⟩ := textReads_additive hlower
  obtain ⟨ks, more, hlexed', hreads'⟩ := textReads_additive hupper
  have hkeyword := (@spells_keyword d .between rfl).lexed
  have hand := (@spells_keyword d .and rfl).lexed
  refine ⟨.keyword .between, kinds ++ .keyword .and :: ks, max bound more, ?_, ends_keyword _,
    fun limit tail x htail => ⟨fun inner => betweenTest _ inner x, fun _ => rfl, ?_⟩⟩
  · simpa [Keyword.name] using hkeyword.spaced (hlexed.spaced (hand.spaced hlexed'))
  · have hends : Ends ((TokenKind.keyword .and :: (ks ++ tail)).headD .endOfInput) :=
      ends_keyword _
    have hfirst := hreads limit _ (hends.follows 1)
    have hsecond := hreads' limit _ htail.follows
    rw [List.append_assoc, List.cons_append]
    apply ReadsWithin.bind (ReadsWithin.operand (hfirst.mono (Nat.le_max_left _ _)))
    apply ReadsWithin.step reads_expect
    apply ReadsWithin.bind (ReadsWithin.operand (hsecond.mono (Nat.le_max_right _ _)))
    exact reads_pure.freely

theorem testReads_oneOf {values : List (String × Expression)} (hvalues : values ≠ [])
    (h : ∀ value ∈ values, Expression.parse d value.1 = .ok value.2) :
    TestReads d ("IN (" ++ ", ".intercalate (values.map Prod.fst) ++ ")").toList
      (fun x => .oneOf x (values.map Prod.snd)) negatableTest? := by
  obtain ⟨kinds, bound, hlexed, hreads⟩ := textReads_arguments hvalues h
  have hkeyword := (@spells_keyword d .oneOf rfl).lexed
  refine ⟨.keyword .oneOf, enclosed kinds, bound, ?_, ends_keyword _,
    fun limit tail x _ => ⟨fun inner => membershipTest _ inner x, fun _ => rfl, ?_⟩⟩
  · have hspaced := hkeyword.spaced (lexed_parenthesised hlexed)
    simpa [Keyword.name] using hspaced
  · rw [append_enclosed]
    apply ReadsWithin.step (reads_openValues (hreads limit tail []).1)
    apply ReadsWithin.bind (hreads limit tail _).2
    exact reads_pure.freely

theorem testReads_isNull : TestReads d "IS NULL".toList .isNull test? := by
  have his := (@spells_keyword d .is rfl).lexed
  have hnull := (@spells_keyword d .null rfl).lexed
  refine ⟨.keyword .is, [.keyword .null], 0, his.spaced hnull, ends_keyword _,
    fun limit tail x _ => ⟨fun _ => nullTest x, fun _ => rfl, ?_⟩⟩
  apply ReadsWithin.step (reads_acceptNot (by simp))
  apply ReadsWithin.step reads_expect
  exact reads_pure.freely

theorem testReads_isNotNull :
    TestReads d "IS NOT NULL".toList (fun x => .not (.isNull x)) test? := by
  have his := (@spells_keyword d .is rfl).lexed
  have hnot := (@spells_keyword d .not rfl).lexed
  have hnull := (@spells_keyword d .null rfl).lexed
  refine ⟨.keyword .is, [.keyword .not, .keyword .null], 0, his.spaced (hnot.spaced hnull),
    ends_keyword _, fun limit tail x _ => ⟨fun _ => nullTest x, fun _ => rfl, ?_⟩⟩
  apply ReadsWithin.step reads_accept
  apply ReadsWithin.step reads_expect
  exact reads_pure.freely

/-- What NOT can stand in front of is a test without it. -/
theorem test?_of_negatableTest? {inner : Level} {kind : TokenKind} {p : Parse Filter}
    (h : negatableTest? d inner x kind = some p) : test? d inner x kind = some p := by
  unfold negatableTest? at h
  split at h
  · exact h
  · exact h
  · exact h
  · exact h
  · cases h

theorem TestReads.plain {text : List Char} (h : TestReads d text test negatableTest?) :
    TestReads d text test test? := by
  obtain ⟨kind, kinds, bound, hlexed, hends, hreads⟩ := h
  refine ⟨kind, kinds, bound, hlexed, hends, fun limit tail x htail => ?_⟩
  obtain ⟨p, hselect, hp⟩ := hreads limit tail x htail
  exact ⟨p, fun inner => test?_of_negatableTest? (hselect inner), hp⟩

/-- A test with NOT in front of its keyword. -/
theorem TestReads.negated {text : List Char} (h : TestReads d text test negatableTest?) :
    TestReads d ("NOT".toList ++ ' ' :: text) (fun x => .not (test x)) test? := by
  obtain ⟨kind, kinds, bound, hlexed, hends, hreads⟩ := h
  have hnot := (@spells_keyword d .not rfl).lexed
  refine ⟨.keyword .not, kind :: kinds, bound, hnot.spaced hlexed, ends_keyword _,
    fun limit tail x htail => ⟨_, fun inner => rfl, ?_⟩⟩
  obtain ⟨p, hselect, hp⟩ := hreads limit tail x htail
  apply ReadsWithin.step reads_mark
  apply ReadsWithin.step reads_next
  simp only [hselect]
  apply ReadsWithin.bind hp
  exact reads_pure.freely

/-- An expression with a test behind it. -/
theorem TestReads.behind {operand tested : List Char} (h : TestReads d tested test test?)
    (hoperand : TextReads d additive (Follows 1) operand (.expression x)) :
    TextReads d negation EndsPredicate (operand ++ ' ' :: tested) (.filter (test x)) := by
  obtain ⟨kinds, bound, hlexed, hreads⟩ := hoperand
  obtain ⟨kind, ks, more, hlexed', hends, hreads'⟩ := h
  refine ⟨kinds ++ kind :: ks, max bound more, hlexed.spaced hlexed', ?_⟩
  intro limit tail htail
  obtain ⟨p, hselect, hp⟩ := hreads' limit tail x htail
  have hkind : Ends ((kind :: (ks ++ tail)).headD .endOfInput) := hends
  rw [List.append_assoc, List.cons_append]
  apply ReadsWithin.of_predicate
  apply ReadsWithin.bind ((hreads limit _ (hkind.follows 1)).mono (Nat.le_max_left _ _))
  apply ReadsWithin.step reads_peek
  simp only [List.headD_cons, hselect]
  apply ReadsWithin.step reads_next
  apply ReadsWithin.bind (hp.mono (Nat.le_max_right _ _))
  apply ReadsWithin.step reads_peek
  simp only [htail.test]
  exact reads_pure.freely

/-- A predicate with NOT in front of it. -/
theorem TextReads.negated {text : List Char}
    (h : TextReads d Grammar.negation EndsPredicate text (.filter f)) :
    TextReads d Grammar.negation EndsPredicate ("NOT".toList ++ ' ' :: text)
      (.filter (.not f)) := by
  obtain ⟨kinds, bound, hlexed, hreads⟩ := h
  have hnot := (@spells_keyword d .not rfl).lexed
  refine ⟨.keyword .not :: kinds, bound + 1, hnot.spaced hlexed, fun limit tail htail => ?_⟩
  apply ReadsWithin.step reads_peek
  simp only [List.cons_append, List.headD_cons, if_true]
  apply ReadsWithin.step reads_mark
  apply ReadsWithin.step reads_next
  refine ReadsWithin.bind (@ReadsWithin.nested _ _ _ _ _ _ (fun inner => do
    let start ← mark
    requireFilter start (← inner .negated)) _ _ ?_) reads_pure.freely
  apply ReadsWithin.step reads_mark
  apply ReadsWithin.bind (hreads limit tail htail)
  exact reads_pure.freely

theorem TextReads.whole {text : List Char}
    (h : TextReads d Grammar.negation EndsPredicate text (.filter f)) :
    TextReads d Grammar.disjunction (Stops · .group) text (.filter f) := by
  obtain ⟨kinds, bound, hlexed, hreads⟩ := h
  refine ⟨kinds, bound, hlexed, fun limit tail hstops => ?_⟩
  exact (hreads limit tail hstops.1).disjunction hstops

/-- A text is read as one filter only. -/
theorem TextReads.filter_unique
    (hf : TextReads d Grammar.disjunction (Stops · .group) text.toList (.filter f))
    (hg : TextReads d Grammar.disjunction (Stops · .group) text.toList (.filter g)) : f = g := by
  have hends : Stops [] .group := stops_of_closes (.inl rfl)
  obtain ⟨bound, hparse⟩ := hf.parseFilter hends
  obtain ⟨more, hparse'⟩ := hg.parseFilter hends
  have hboth := hparse (max bound more) (Nat.le_max_left _ _)
  rw [hparse' _ (Nat.le_max_right _ _)] at hboth
  exact (Except.ok.inj hboth).symm

end Tests

end Grammar

/-- Two texts that are read as a filter denote it under every limit from some on. -/
theorem parse_both {a b : String} {f : Filter}
    (ha : TextReads d negation EndsPredicate a.toList (.filter f))
    (hb : TextReads d negation EndsPredicate b.toList (.filter f)) :
    ∃ bound, ∀ depth, bound ≤ depth →
      Filter.parse { d with maxDepth := depth } a = .ok f ∧
        Filter.parse { d with maxDepth := depth } b = .ok f := by
  have hends : Stops [] .group := stops_of_closes (.inl rfl)
  obtain ⟨bound, hparse⟩ := ha.whole.parseFilter hends
  obtain ⟨more, hparse'⟩ := hb.whole.parseFilter hends
  refine ⟨max bound more, fun depth hdepth => ⟨hparse depth ?_, hparse' depth ?_⟩⟩
  · exact (Nat.le_max_left _ _).trans hdepth
  · exact (Nat.le_max_right _ _).trans hdepth

theorem IsTest.reads {text : String} {test : Expression → Filter} (h : IsTest d text test) :
    TestReads d text.toList test negatableTest? := by
  cases h with
  | like h => simpa [Keyword.name] using testReads_like h .like true rfl fun _ _ _ => rfl
  | ilike h => simpa [Keyword.name] using testReads_like h .ilike false rfl fun _ _ _ => rfl
  | between hlower hupper => exact testReads_between hlower hupper
  | oneOf hvalues h => exact testReads_oneOf hvalues h

/-- NOT in front of a test and NOT in front of its operand make the same filter, the negation of
what the test is without NOT. -/
theorem parse_negated (d : Dialect) (text : String) (e : Expression)
    (he : Expression.parse d text = .ok e) :
    (∀ tested test f, IsTest d tested test → Filter.parse d (text ++ " " ++ tested) = .ok f →
      f = test e ∧ ∃ bound, ∀ depth, bound ≤ depth →
        Filter.parse { d with maxDepth := depth } (text ++ " NOT " ++ tested) = .ok (.not f) ∧
          Filter.parse { d with maxDepth := depth } ("NOT " ++ text ++ " " ++ tested) =
            .ok (.not f)) ∧
    ∃ bound, ∀ depth, bound ≤ depth →
      Filter.parse { d with maxDepth := depth } (text ++ " IS NOT NULL") =
          .ok (.not (.isNull e)) ∧
        Filter.parse { d with maxDepth := depth } ("NOT " ++ text ++ " IS NULL") =
          .ok (.not (.isNull e)) := by
  have hoperand := textReads_additive he
  constructor
  · intro tested test f htest hf
    have hreads := htest.reads
    have hplain := hreads.plain.behind hoperand
    have hinfix : TextReads d negation EndsPredicate (text ++ " NOT " ++ tested).toList
        (.filter (.not (test e))) := by
      simpa using hreads.negated.behind hoperand
    have hbefore : TextReads d negation EndsPredicate ("NOT " ++ text ++ " " ++ tested).toList
        (.filter (.not (test e))) := by
      simpa using hplain.negated
    have hwhole : TextReads d disjunction (Stops · .group) (text ++ " " ++ tested).toList
        (.filter (test e)) := by
      simpa using hplain.whole
    obtain rfl := (textReads_of_parseFilter hf).filter_unique hwhole
    exact ⟨rfl, parse_both hinfix hbefore⟩
  · have hinfix : TextReads d negation EndsPredicate (text ++ " IS NOT NULL").toList
        (.filter (.not (.isNull e))) := by
      simpa using testReads_isNotNull.behind hoperand
    have hbefore : TextReads d negation EndsPredicate ("NOT " ++ text ++ " IS NULL").toList
        (.filter (.not (.isNull e))) := by
      simpa using (testReads_isNull.behind hoperand).negated
    exact parse_both hinfix hbefore

/-- A list of values behind an operand that begins with a sign in front of a group. -/
theorem parse_negated_standard : ∃ (e a b : Expression) (f : Filter),
    Expression.parse .standard "-(a + 1)" = .ok e ∧
      IsTest .standard "IN (1, -b)" (fun e => .oneOf e [a, b]) ∧
      Filter.parse .standard "-(a + 1) IN (1, -b)" = .ok f ∧ f = .oneOf e [a, b] ∧
      (∃ bound, ∀ depth, bound ≤ depth →
        Filter.parse { Dialect.standard with maxDepth := depth } "-(a + 1) NOT IN (1, -b)" =
            .ok (.not f) ∧
          Filter.parse { Dialect.standard with maxDepth := depth } "NOT -(a + 1) IN (1, -b)" =
            .ok (.not f)) ∧
      ∃ bound, ∀ depth, bound ≤ depth →
        Filter.parse { Dialect.standard with maxDepth := depth } "-(a + 1) IS NOT NULL" =
            .ok (.not (.isNull e)) ∧
          Filter.parse { Dialect.standard with maxDepth := depth } "NOT -(a + 1) IS NULL" =
            .ok (.not (.isNull e)) := by
  have hparse : ∀ text, (Expression.parse .standard text).toOption.isSome = true →
      ∃ e, Expression.parse .standard text = .ok e := fun _ => exists_ok
  obtain ⟨e, he⟩ := hparse "-(a + 1)" (by decide +kernel)
  obtain ⟨a, ha⟩ := hparse "1" (by decide +kernel)
  obtain ⟨b, hb⟩ := hparse "-b" (by decide +kernel)
  obtain ⟨f, hf⟩ := exists_ok (show
    (Filter.parse .standard "-(a + 1) IN (1, -b)").toOption.isSome = true by decide +kernel)
  have hvalues : ∀ value ∈ [("1", a), ("-b", b)],
      Expression.parse .standard value.1 = .ok value.2 := by
    simp only [List.forall_mem_cons]
    exact ⟨ha, hb, by simp⟩
  have htest : IsTest .standard "IN (1, -b)" (fun e => .oneOf e [a, b]) :=
    .oneOf (List.cons_ne_nil _ _) hvalues
  obtain ⟨htests, hnull⟩ := parse_negated .standard "-(a + 1)" e he
  obtain ⟨hfilter, hnegated⟩ := htests _ _ f htest hf
  exact ⟨e, a, b, f, he, htest, hf, hfilter, hnegated, hnull⟩

end GeoFilter
