import GeoFilter.Proofs.Grammar.EmbeddingFilter
import GeoFilter.Proofs.Grammar.Height
import GeoFilter.Proofs.RoundTrip
import GeoFilter.Proofs.Token.Joining

/-!
What a successful reading has gone through. The productions between a whole text and a primary
mostly hand on what the next one has read: only an operator or a test makes something of its own.
A text that denotes something without an operator at its root was therefore read, token by token,
by the production beneath, and that production can be put to use in a longer text.
-/

namespace GeoFilter

open Grammar

variable {d : Dialect} {limit : Nat}

theorem Lexed.withDepth {text : List Char} {kinds : List TokenKind} (h : Lexed d text kinds)
    (limit : Nat) : Lexed (d.withDepth limit) text kinds := by
  induction h with
  | done h => exact .done h
  | token h hlexeme hkinds ih => exact .token h hlexeme ih

/-- What a number denotes is a floating-point number or an integer. -/
theorem Check.numberLiteral_cases {negative : Bool} {digits : String} {value : Literal}
    (h : Check.numberLiteral negative digits = .ok value) :
    (∃ x, value = .float x) ∨ ∃ n, value = .integer n := by
  unfold Check.numberLiteral at h
  simp only at h
  split at h
  · split at h <;> cases h
    exact .inl ⟨_, rfl⟩
  · split at h <;> cases h
    exact .inr ⟨_, rfl⟩

namespace Grammar

section Inversion

variable {cursor last : Cursor} {value : Parsed} {e : Expression} {f : Filter} {inner : Level}

/-- A production that reads the next token leaves the cursor where it was if it only looks. -/
theorem peek_bind {α : Type} {q : TokenKind → Parse α} {result : α × Cursor}
    (h : (peek >>= q) cursor = .ok result) :
    q (cursor.rest.headD .endOfInput) cursor = .ok result :=
  h

theorem requireExpression_eq {start : Mark}
    (h : requireExpression start value cursor = .ok (e, last)) :
    value = .expression e ∧ cursor = last := by
  cases value with
  | filter f => cases h
  | expression found =>
      cases h
      exact ⟨rfl, rfl⟩

theorem requireFilter_eq {start : Mark} (h : requireFilter start value cursor = .ok (f, last)) :
    value = .filter f ∧ cursor = last := by
  cases value with
  | filter found =>
      cases h
      exact ⟨rfl, rfl⟩
  | expression e => cases h

/-- A chain is its first operand by itself, or it has an operator at its root. -/
theorem chainRest_cases {operator? : TokenKind → Option ArithmeticOp} {operand : Parse Parsed}
    {start : Mark} {count : Nat} {left : Parsed}
    (h : chainRest d operator? operand start count left cursor = .ok (value, last)) :
    value = left ∧ last = cursor ∨ ∃ op a b, value = .expression (.arithmetic op a b) := by
  induction count generalizing left cursor value last with
  | zero =>
      cases h
      exact .inl ⟨rfl, rfl⟩
  | succ count ih =>
      have hnext := peek_bind h
      cases hop : operator? (cursor.rest.headD .endOfInput) with
      | none =>
          rw [hop] at hnext
          cases hnext
          exact .inl ⟨rfl, rfl⟩
      | some op =>
          rw [hop] at hnext
          obtain ⟨_, _, hmark, hnext⟩ := exists_of_bind hnext
          obtain ⟨_, ⟨tokens, gauge⟩, _, hnested⟩ := exists_of_bind hnext
          obtain ⟨-, later, hinner, -⟩ := exists_of_nested hnested
          obtain ⟨first, _, _, hinner⟩ := exists_of_bind hinner
          obtain ⟨_, _, _, hinner⟩ := exists_of_bind hinner
          obtain ⟨_, _, _, hinner⟩ := exists_of_bind hinner
          obtain ⟨second, _, _, hinner⟩ := exists_of_bind hinner
          rcases ih hinner with ⟨rfl, -⟩ | hroot
          · exact .inr ⟨op, first, second, rfl⟩
          · exact .inr hroot

theorem chain_cases {operator? : TokenKind → Option ArithmeticOp} {operand : Parse Parsed}
    (h : chain d operator? operand cursor = .ok (value, last)) :
    operand cursor = .ok (value, last) ∨ ∃ op a b, value = .expression (.arithmetic op a b) := by
  obtain ⟨_, _, hmark, h⟩ := exists_of_bind h
  cases hmark
  obtain ⟨first, _, hfirst, h⟩ := exists_of_bind h
  obtain ⟨_, _, hcount, h⟩ := exists_of_bind h
  cases hcount
  rcases chainRest_cases h with ⟨rfl, rfl⟩ | hroot
  · exact .inl hfirst
  · exact .inr hroot

/-- An expression that is no operator was read without one. -/
theorem unary_of_additive (hroot : ∀ op a b, e ≠ .arithmetic op a b)
    (h : additive d inner cursor = .ok (.expression e, last)) :
    unary d inner cursor = .ok (.expression e, last) := by
  have hnot : ¬∃ op a b, Parsed.expression e = .expression (.arithmetic op a b) := by
    rintro ⟨op, a, b, heq⟩
    exact hroot op a b (Parsed.expression.inj heq)
  exact (chain_cases ((chain_cases h).resolve_right hnot)).resolve_right hnot

theorem additive_of_predicate (h : predicate d inner cursor = .ok (.expression e, last)) :
    additive d inner cursor = .ok (.expression e, last) := by
  obtain ⟨parsed, later, hadditive, h⟩ := exists_of_bind h
  cases parsed with
  | filter value => cases h
  | expression left =>
      have hnext := peek_bind h
      cases htest : test? d inner left (later.rest.headD .endOfInput) with
      | none =>
          rw [htest] at hnext
          cases hnext
          exact hadditive
      | some test =>
          rw [htest] at hnext
          obtain ⟨_, _, _, hnext⟩ := exists_of_bind hnext
          obtain ⟨_, _, _, hnext⟩ := exists_of_bind hnext
          have hlast := peek_bind hnext
          split at hlast
          · cases hlast
          · cases hlast

theorem additive_of_negation (h : negation d inner cursor = .ok (.expression e, last)) :
    additive d inner cursor = .ok (.expression e, last) := by
  have hnext := peek_bind h
  split at hnext
  · obtain ⟨_, _, _, hnext⟩ := exists_of_bind hnext
    obtain ⟨_, _, _, hnext⟩ := exists_of_bind hnext
    obtain ⟨_, _, _, hnext⟩ := exists_of_bind hnext
    cases hnext
  · exact additive_of_predicate hnext

/-- Behind the operator of a conjunction or disjunction at least one operand was read. -/
theorem operandsRest_ne_nil {op : LogicalOp} {operand : Parse Parsed} {count : Nat}
    {filters : List Filter} (hhead : cursor.rest.headD .endOfInput = .keyword op.keyword)
    (h : operandsRest op operand (count + 1) cursor = .ok (filters, last)) : filters ≠ [] := by
  obtain ⟨joined, _, haccept, h⟩ := exists_of_bind h
  obtain rfl : joined = true := by
    have hpeek := peek_bind haccept
    rw [if_pos hhead] at hpeek
    obtain ⟨_, _, _, hpeek⟩ := exists_of_bind hpeek
    cases hpeek
    rfl
  obtain ⟨_, _, _, h⟩ := exists_of_bind h
  obtain ⟨_, _, _, h⟩ := exists_of_bind h
  obtain ⟨_, _, _, h⟩ := exists_of_bind h
  obtain ⟨_, _, _, h⟩ := exists_of_bind h
  cases h
  simp

/-- What was read as operands is the first of them by itself, or it joins several. -/
theorem logical_cases {op : LogicalOp} {operand : Parse Parsed}
    (h : logical op operand cursor = .ok (value, last)) :
    operand cursor = .ok (value, last) ∨ ∃ f : Filter, value = .filter f ∧ f.isLogical = true := by
  obtain ⟨_, _, hmark, h⟩ := exists_of_bind h
  cases hmark
  obtain ⟨first, later, hfirst, h⟩ := exists_of_bind h
  have hnext := peek_bind h
  split at hnext
  · rename_i hhead
    obtain ⟨found, _, hfound, hjoin⟩ := exists_of_bind hnext
    obtain ⟨-, rfl⟩ := requireFilter_eq hfound
    obtain ⟨_, _, hleft, hjoin⟩ := exists_of_bind hjoin
    cases hleft
    obtain ⟨others, _, hothers, hjoin⟩ := exists_of_bind hjoin
    cases hjoin
    have hcount : ∃ count, later.rest.length = count + 1 := by
      cases htokens : later.rest with
      | nil =>
          rw [htokens] at hhead
          cases hhead
      | cons kind more => exact ⟨more.length, rfl⟩
    obtain ⟨count, hcount⟩ := hcount
    rw [hcount] at hothers
    obtain ⟨second, others, rfl⟩ :=
      List.exists_cons_of_ne_nil (operandsRest_ne_nil hhead hothers)
    exact .inr ⟨_, rfl, rfl⟩
  · cases hnext
    exact .inl hfirst

/-- A filter that joins no others was read as an operand. -/
theorem negation_of_disjunction (hlogical : f.isLogical = false)
    (h : disjunction d inner cursor = .ok (.filter f, last)) :
    negation d inner cursor = .ok (.filter f, last) := by
  have hnot : ¬∃ g : Filter, Parsed.filter f = .filter g ∧ g.isLogical = true := by
    rintro ⟨g, heq, hg⟩
    rw [Parsed.filter.inj heq, hg] at hlogical
    cases hlogical
  exact (logical_cases ((logical_cases h).resolve_right hnot)).resolve_right hnot

theorem additive_of_disjunction (h : disjunction d inner cursor = .ok (.expression e, last)) :
    additive d inner cursor = .ok (.expression e, last) := by
  have hnot : ¬∃ g : Filter, Parsed.expression e = .filter g ∧ g.isLogical = true := by
    rintro ⟨g, heq, -⟩
    cases heq
  exact additive_of_negation
    ((logical_cases ((logical_cases h).resolve_right hnot)).resolve_right hnot)

theorem headD_of_finish {result : Unit × Cursor} (h : finish cursor = .ok result) :
    cursor.rest.headD .endOfInput = .endOfInput := by
  obtain ⟨_, _, hmark, h⟩ := exists_of_bind h
  cases hmark
  obtain ⟨kind, _, hkind, h⟩ := exists_of_bind h
  cases hkind
  cases hhead : cursor.rest.headD .endOfInput with
  | endOfInput => rfl
  | _ =>
      rw [hhead] at h
      cases h

/-- A chain has read its first operand. -/
theorem exists_unary_of_additive (h : additive d inner cursor = .ok (value, last)) :
    ∃ result, unary d inner cursor = .ok result := by
  obtain ⟨_, _, hmark, h⟩ := exists_of_bind h
  cases hmark
  obtain ⟨_, _, h, -⟩ := exists_of_bind h
  obtain ⟨_, _, hmark, h⟩ := exists_of_bind h
  cases hmark
  obtain ⟨first, later, hfirst, -⟩ := exists_of_bind h
  exact ⟨(first, later), hfirst⟩

/-- Neither NOT nor a closing parenthesis begins an expression. -/
theorem headD_of_additive {kind : TokenKind}
    (hkind : kind = .keyword .not ∨ kind = .punctuation .closeParen)
    (h : additive d inner cursor = .ok (value, last)) : cursor.rest.headD .endOfInput ≠ kind := by
  obtain ⟨result, hresult⟩ := exists_unary_of_additive h
  have hnext := peek_bind hresult
  intro hhead
  have hminus : kind ≠ .operator .minus := by rcases hkind with rfl | rfl <;> simp
  rw [hhead, if_neg hminus] at hnext
  obtain ⟨_, _, hmark, hnext⟩ := exists_of_bind hnext
  cases hmark
  obtain ⟨_, _, hfound, hnext⟩ := exists_of_bind hnext
  cases hfound
  rw [hhead] at hnext
  rcases hkind with rfl | rfl
  · cases hnext
  · cases hnext

/-- A number is read as the literal that it denotes. -/
theorem unary_number {digits : String} {more : List TokenKind} {gauge : Gauge}
    (h : unary d inner ⟨.number digits :: more, gauge⟩ = .ok (.expression e, last)) :
    ∃ value, Check.numberLiteral false digits = .ok value ∧ e = .literal value := by
  have hnext := peek_bind h
  rw [if_neg (by simp)] at hnext
  obtain ⟨_, _, hmark, hnext⟩ := exists_of_bind hnext
  cases hmark
  obtain ⟨kind, _, hkind, hnext⟩ := exists_of_bind hnext
  cases hkind
  obtain ⟨value, _, hvalue, hnext⟩ := exists_of_bind hnext
  cases hnext
  cases hliteral : Check.numberLiteral false digits with
  | error fault =>
      rw [hliteral] at hvalue
      cases hvalue
  | ok found =>
      rw [hliteral] at hvalue
      cases hvalue
      exact ⟨_, rfl, rfl⟩

end Inversion

section Wholes

variable {α : Type} {kinds tail : List TokenKind} {parsed : Parsed} {e : Expression} {f : Filter}

/-- A production of some level, entered at least once, reads all of the tokens as the value. -/
def Consumes (d : Dialect) (p : Level → Parse α) (kinds : List TokenKind) (value : α) : Prop :=
  ∃ (count : Nat) (gauge later : Gauge), (0 < gauge.level ∧ gauge.level + count = d.maxDepth) ∧
    p (level d count) ⟨kinds, gauge⟩ = .ok (value, ⟨[], later⟩)

/-- What was read as a whole is read in front of any tail to stop at, with the levels that were
left within the outermost one. -/
theorem Consumes.readsWithin {stops : Prop} {p p' : Level → Parse α} {value : α}
    (h : Consumes d p kinds value) (hstops : stops)
    (hcarries : ∀ inner inner', inner.Carries d limit tail inner' →
      Carries d limit tail stops kinds (p inner) (p' inner')) :
    ReadsWithin (d.withDepth limit) p' (kinds ++ tail) value tail (d.maxDepth - 1) := by
  obtain ⟨count, gauge, later, hcount, hresult⟩ := h
  intro height gauge' hheight hdepth
  change limit - gauge'.level ≤ height at hheight
  change d.maxDepth - 1 ≤ limit - gauge'.level at hdepth
  have hlevel : (level d count).Carries d limit tail (level (d.withDepth limit) height) :=
    carries_level (by omega)
  exact (hcarries _ _ hlevel gauge gauge' value _ (by omega) hresult).2.2 fun _ => hstops

theorem Consumes.maxDepth_pos {p : Level → Parse α} {value : α} (h : Consumes d p kinds value) :
    0 < d.maxDepth := by
  obtain ⟨count, gauge, later, hcount, -⟩ := h
  omega

theorem Consumes.negation (h : Consumes d (disjunction d) kinds (.filter f))
    (hlogical : f.isLogical = false) : Consumes d (Grammar.negation d) kinds (.filter f) := by
  obtain ⟨count, gauge, later, hcount, hresult⟩ := h
  exact ⟨count, gauge, later, hcount, negation_of_disjunction hlogical hresult⟩

theorem Consumes.additive (h : Consumes d (disjunction d) kinds (.expression e)) :
    Consumes d (Grammar.additive d) kinds (.expression e) := by
  obtain ⟨count, gauge, later, hcount, hresult⟩ := h
  exact ⟨count, gauge, later, hcount, additive_of_disjunction hresult⟩

/-- What is no number does not begin with one. -/
theorem Consumes.head_ne_number (h : Consumes d (Grammar.unary d) kinds (.expression e))
    (hnumber : e.literal?.bind Literal.toFloat? = none) (tail : List TokenKind) (digits : String) :
    (kinds ++ tail).headD .endOfInput ≠ .number digits := by
  obtain ⟨count, gauge, later, -, hresult⟩ := h
  cases kinds with
  | nil => cases hresult
  | cons first more =>
      rintro rfl
      obtain ⟨value, hvalue, rfl⟩ := unary_number hresult
      rw [show (Expression.literal value).literal?.bind Literal.toFloat? = value.toFloat? from rfl]
        at hnumber
      rcases Check.numberLiteral_cases hvalue with ⟨x, rfl⟩ | ⟨n, rfl⟩ <;> cases hnumber

theorem Consumes.unary (h : Consumes d (disjunction d) kinds (.expression e))
    (hroot : ∀ op a b, e ≠ .arithmetic op a b) :
    Consumes d (Grammar.unary d) kinds (.expression e) := by
  obtain ⟨count, gauge, later, hcount, hresult⟩ := h
  exact ⟨count, gauge, later, hcount, unary_of_additive hroot (additive_of_disjunction hresult)⟩

/-- The whole of some tokens is read by the outermost level, and nothing is left. -/
theorem consumes_of_whole {start : Mark} {last : Cursor} (hkinds : .endOfInput ∉ kinds)
    (h : whole d ⟨kinds, .resting 0⟩ = .ok ((parsed, start), last)) :
    Consumes d (disjunction d) kinds parsed := by
  obtain ⟨_, _, hmark, h⟩ := exists_of_bind h
  cases hmark
  obtain ⟨found, ⟨tokens, gauge⟩, hnested, h⟩ := exists_of_bind h
  obtain ⟨_, _, hfinish, h⟩ := exists_of_bind h
  cases h
  obtain ⟨hroom, later, hinner, -⟩ := exists_of_nested hnested
  have hcourse := @low_level d kinds d.maxDepth (d.maxDepth - 1)
    (Nat.sub_lt hroom Nat.one_pos) kinds.length .group kinds List.suffix_rfl le_rfl
    (Gauge.resting 0).rise (Nat.add_sub_cancel' hroom)
  rw [hinner] at hcourse
  have hended : tokens = [] := by
    have hhead := headD_of_finish hfinish
    cases tokens with
    | nil => rfl
    | cons kind more =>
        have hmem := hcourse.2.1.subset List.mem_cons_self
        rw [show kind = .endOfInput from hhead] at hmem
        exact absurd hmem hkinds
  subst hended
  obtain ⟨count, hcount⟩ : ∃ count, d.maxDepth = count + 1 :=
    ⟨d.maxDepth - 1, (Nat.succ_pred_eq_of_pos hroom).symm⟩
  rw [hcount] at hinner
  exact ⟨count, _, later, ⟨Nat.one_pos, by rw [hcount]; exact Nat.add_comm 1 count⟩, hinner⟩

end Wholes

section Texts

variable {α : Type} {kinds : List TokenKind} {text : String} {e : Expression} {f : Filter}
  {depth : Nat}

/-- What a text denotes was read from all of its tokens. -/
theorem consumes_of_parse {production : Parse α} {value : α} {parsed : Parsed}
    (hproduction : ∀ kinds last, production ⟨kinds, .resting 0⟩ = .ok (value, last) →
      ∃ start later, whole d ⟨kinds, .resting 0⟩ = .ok ((parsed, start), later))
    (h : (do runOn production (← tokenize d text)) = .ok value) :
    ∃ kinds, Lexed d text.toList kinds ∧ Consumes d (disjunction d) kinds parsed := by
  rcases ofTokens_of_parse h with ⟨_, _, herror⟩ | ⟨tokens, htokens, hrun⟩
  · cases herror
  · have hlexed := lexed_of_tokenize htokens
    obtain ⟨last, hresult⟩ := exists_of_runOn hrun
    obtain ⟨start, later, hwhole⟩ := hproduction _ last hresult
    exact ⟨_, hlexed, consumes_of_whole (endOfInput_not_mem hlexed.occurs) hwhole⟩

theorem consumes_of_parseExpression (h : Expression.parse d text = .ok e) :
    ∃ kinds, Lexed d text.toList kinds ∧ Consumes d (disjunction d) kinds (.expression e) := by
  refine consumes_of_parse (fun kinds last hresult => ?_) h
  obtain ⟨⟨parsed, start⟩, later, hwhole, hrest⟩ := exists_of_bind hresult
  obtain ⟨rfl, -⟩ := requireExpression_eq hrest
  exact ⟨start, later, hwhole⟩

theorem consumes_of_parseFilter (h : Filter.parse d text = .ok f) :
    ∃ kinds, Lexed d text.toList kinds ∧ Consumes d (disjunction d) kinds (.filter f) := by
  refine consumes_of_parse (fun kinds last hresult => ?_) h
  obtain ⟨⟨parsed, start⟩, later, hwhole, hrest⟩ := exists_of_bind hresult
  obtain ⟨rfl, -⟩ := requireFilter_eq hrest
  exact ⟨start, later, hwhole⟩

/-- A text whose tokens are all read as a filter or an expression. -/
theorem readsWithin_whole {parsed : Parsed}
    (h : ReadsWithin d (disjunction d) kinds parsed [] depth) :
    ReadsWithin d (fun inner => do
      let start ← mark
      let parsed ← nested d .nesting start (inner .group)
      finish
      return (parsed, start)) kinds (parsed, kinds) [] (depth + 1) := by
  apply ReadsWithin.step reads_mark
  apply ReadsWithin.bind (@ReadsWithin.nested d _ _ _ _ _ (fun inner => inner .group) _ _ h)
  apply ReadsWithin.step reads_finish
  exact reads_pure.freely

theorem parse_of_readsWithin {production : Parse α} {value : α}
    (hlexed : Lexed d text.toList kinds) {last : Cursor}
    (h : production ⟨kinds, .resting 0⟩ = .ok (value, last)) :
    (do runOn production (← tokenize d text)) = .ok value := by
  obtain ⟨tokens, htokens, hkinds⟩ := tokenize_of_lexed hlexed
  rw [htokens]
  change runOn production tokens = _
  unfold runOn
  simp only [meaningfulKinds_of_kinds hkinds (endOfInput_not_mem hlexed.occurs), h]

theorem parseExpression_of_readsWithin (hlexed : Lexed d text.toList kinds)
    (h : ReadsWithin d (disjunction d) kinds (.expression e) [] depth)
    (hdepth : depth + 1 ≤ d.maxDepth) : Expression.parse d text = .ok e := by
  obtain ⟨later, hwhole, -⟩ :=
    readsWithin_whole h d.maxDepth (.resting 0) (Nat.sub_le _ _) hdepth
  exact parse_of_readsWithin hlexed (bind_eq hwhole)

theorem parseFilter_of_readsWithin (hlexed : Lexed d text.toList kinds)
    (h : ReadsWithin d (disjunction d) kinds (.filter f) [] depth)
    (hdepth : depth + 1 ≤ d.maxDepth) : Filter.parse d text = .ok f := by
  obtain ⟨later, hwhole, -⟩ :=
    readsWithin_whole h d.maxDepth (.resting 0) (Nat.sub_le _ _) hdepth
  exact parse_of_readsWithin hlexed (bind_eq hwhole)

end Texts

end Grammar

end GeoFilter
