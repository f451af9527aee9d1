import GeoFilter.Proofs.Grammar.Composition

/-!
AND binds tighter than OR. Operands that are joined by AND, and then by OR, are read as the
disjunction of the conjunctions, each operand in its place. What the operands are does not
matter: a range test has an AND of its own and a negation stops in front of the next one, and
only a conjunction or disjunction has to stand between parentheses.
-/

namespace GeoFilter

open Grammar

variable {d : Dialect}

/-- A text that stands for a filter beside a logical operator: the text of a filter that joins no
others, or the text of any filter between parentheses. The depth is no part of it. -/
inductive IsOperand (d : Dialect) : String → Filter → Prop where
  | plain {text : String} {f : Filter} {depth : Nat}
      (h : Filter.parse { d with maxDepth := depth } text = .ok f)
      (hlogical : f.isLogical = false) : IsOperand d text f
  | group {text : String} {f : Filter} {depth : Nat}
      (h : Filter.parse { d with maxDepth := depth } text = .ok f) :
      IsOperand d ("(" ++ text ++ ")") f

/-- Operands with AND between those of a clause, and with OR between the clauses. -/
def clausesText (clauses : List (List (String × Filter))) : String :=
  " OR ".intercalate (clauses.map fun clause => " AND ".intercalate (clause.map Prod.fst))

/-- The disjunction of the clauses, each of which is the conjunction of its operands. -/
def clausesFilter (clauses : List (List (String × Filter))) : Filter :=
  .join .or (clauses.map fun clause => .join .and (clause.map Prod.snd))

/-- In front of either of the logical operators a predicate is over. -/
theorem endsPredicate_keyword (op : LogicalOp) (more : List TokenKind) :
    EndsPredicate (.keyword op.keyword :: more) := by
  have hends : Ends ((TokenKind.keyword op.keyword :: more).headD .endOfInput) := ends_keyword _
  refine ⟨hends.follows 1, ?_, ?_⟩
  · cases op <;> simp [LogicalOp.keyword]
  · cases op <;> rfl

theorem IsOperand.reads {text : String} {f : Filter} (h : IsOperand d text f) :
    TextReads d negation EndsPredicate text.toList (.filter f) := by
  cases h with
  | @plain _ _ depth h hlogical =>
      obtain ⟨kinds, hlexed, hconsumes⟩ := consumes_of_parseFilter h
      refine ⟨kinds, depth - 1, hlexed.withDepth d.maxDepth, fun limit tail hends => ?_⟩
      exact (hconsumes.negation hlogical).readsWithin hends fun _ _ hlevel =>
        carries_negation hlevel
  | group h =>
      obtain ⟨kinds, bound, hlexed, hreads⟩ := (textReads_of_parseFilter h).group
      refine ⟨enclosed kinds, bound, hlexed, fun limit tail hends => ?_⟩
      exact ((hreads limit tail).additive hends.follows).negation hends

/-- The operands of a clause are read up to an OR, or up to the end. -/
theorem textReads_clause {clause : List (String × Filter)} (hclause : clause ≠ [])
    (h : ∀ operand ∈ clause, IsOperand d operand.1 operand.2) :
    TextReads d conjunction
      (fun tail => EndsPredicate tail ∧ tail.headD .endOfInput ≠ .keyword .and)
      (" AND ".intercalate (clause.map Prod.fst)).toList
      (.filter (.join .and (clause.map Prod.snd))) :=
  textReads_logical (endsPredicate_keyword .and) (fun _ htail => htail) hclause
    fun operand hoperand => (h operand hoperand).reads

/-- The clauses are read as the disjunction of their conjunctions wherever enough depth is left. -/
theorem parse_clauses (d : Dialect) (clauses : List (List (String × Filter)))
    (hclauses : clauses ≠ []) (hnonempty : ∀ clause ∈ clauses, clause ≠ [])
    (hoperands : ∀ clause ∈ clauses, ∀ operand ∈ clause, IsOperand d operand.1 operand.2) :
    ∃ bound, ∀ depth, bound ≤ depth →
      Filter.parse { d with maxDepth := depth } (clausesText clauses) =
        .ok (clausesFilter clauses) := by
  have hends : ∀ more, EndsPredicate (.keyword .or :: more) ∧
      (TokenKind.keyword .or :: more).headD .endOfInput ≠ .keyword .and :=
    fun more => ⟨endsPredicate_keyword .or more, by simp⟩
  have hstops : ∀ tail, Stops tail .group →
      (EndsPredicate tail ∧ tail.headD .endOfInput ≠ .keyword .and) ∧
        tail.headD .endOfInput ≠ .keyword .or :=
    fun tail htail => ⟨⟨htail.1, htail.2 .and⟩, htail.2 .or⟩
  have hparts : ∀ part ∈ clauses.map fun clause =>
        (" AND ".intercalate (clause.map Prod.fst), Filter.join .and (clause.map Prod.snd)),
      TextReads d conjunction
        (fun tail => EndsPredicate tail ∧ tail.headD .endOfInput ≠ .keyword .and)
        part.1.toList (.filter part.2) := by
    rw [List.forall_mem_map]
    exact fun clause hclause =>
      textReads_clause (hnonempty clause hclause) (hoperands clause hclause)
  have hreads := @textReads_logical d .or _ _ _ _ hends hstops (by simpa using hclauses)
    hparts
  rw [List.map_map, List.map_map] at hreads
  exact TextReads.parseFilter hreads (stops_of_closes (.inl rfl))

/-- A range test, a negation, a list of identifiers and a disjunction as operands. -/
theorem parse_clauses_standard : ∃ between negated ids either : Filter,
    IsOperand .standard "a BETWEEN 1 AND 2" between ∧ IsOperand .standard "NOT b IS NULL" negated ∧
      IsOperand .standard "IN ('x')" ids ∧ IsOperand .standard "(c = 1 OR d = 2)" either ∧
      ∃ bound, ∀ depth, bound ≤ depth →
        Filter.parse { Dialect.standard with maxDepth := depth }
            "a BETWEEN 1 AND 2 AND NOT b IS NULL OR IN ('x') AND (c = 1 OR d = 2)" =
          .ok (.join .or [.join .and [between, negated], .join .and [ids, either]]) := by
  have hplain : ∀ text, (Filter.parse .standard text).toOption.any (fun f => !f.isLogical) = true →
      ∃ f, IsOperand .standard text f := by
    intro text h
    obtain ⟨f, hf, hlogical⟩ := exists_ok_and h
    exact ⟨f, @IsOperand.plain .standard text f 128 hf (by simpa using hlogical)⟩
  obtain ⟨between, hbetween⟩ := hplain "a BETWEEN 1 AND 2" (by decide +kernel)
  obtain ⟨negated, hnegated⟩ := hplain "NOT b IS NULL" (by decide +kernel)
  obtain ⟨ids, hids⟩ := hplain "IN ('x')" (by decide +kernel)
  obtain ⟨either, heither⟩ := exists_ok
    (show (Filter.parse .standard "c = 1 OR d = 2").toOption.isSome = true by decide +kernel)
  have hgroup : IsOperand .standard "(c = 1 OR d = 2)" either :=
    @IsOperand.group .standard "c = 1 OR d = 2" either 128 heither
  refine ⟨between, negated, ids, either, hbetween, hnegated, hids, hgroup, ?_⟩
  refine parse_clauses .standard
    [[("a BETWEEN 1 AND 2", between), ("NOT b IS NULL", negated)],
      [("IN ('x')", ids), ("(c = 1 OR d = 2)", either)]] (by simp) ?_ ?_
  · simp
  · simp only [List.forall_mem_cons]
    exact ⟨⟨hbetween, hnegated, by simp⟩, ⟨hids, hgroup, by simp⟩, by simp⟩

end GeoFilter
