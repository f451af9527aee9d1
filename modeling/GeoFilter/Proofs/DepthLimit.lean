import GeoFilter.Proofs.Grammar.Cutoff
import GeoFilter.Proofs.Grammar.Height
import GeoFilter.Proofs.RoundTrip

/-!
The limit of the depth only ever cuts off. What a list of tokens comes to under one limit it
comes to under every higher one, unless the depth was exceeded; and the depth is never exceeded
by a list with fewer tokens than the limit.
-/

namespace GeoFilter

open Grammar

variable {d : Dialect} {α : Type}

section Limits

variable {production production' : Parse α} {tokens : List Token} {limit : Nat}

theorem runOn_of_curtails (h : Curtails d production production') (tokens : List Token) :
    (∃ error, runOn production tokens = .error error ∧ error.TooDeep d) ∨
      runOn production' tokens = runOn production tokens := by
  unfold runOn
  simp only
  rcases h ⟨meaningfulKinds tokens, .resting 0⟩ with ⟨failure, hfailure, hdepth⟩ | hsame
  · rw [hfailure]
    exact .inl ⟨_, rfl, tooDeep_report hdepth _⟩
  · rw [hsame]
    exact .inr rfl

theorem runOn_eq_of_curtails (h : Curtails d production production')
    (hresult : ∀ error, runOn production tokens = .error error → ¬error.TooDeep d) :
    runOn production' tokens = runOn production tokens := by
  rcases runOn_of_curtails h tokens with ⟨error, herror, hdeep⟩ | hsame
  · exact absurd hdeep (hresult error herror)
  · exact hsame

theorem length_meaningfulKinds_le (tokens : List Token) :
    (meaningfulKinds tokens).length ≤ tokens.length := by
  have hprefix := (List.takeWhile_prefix (· ≠ .endOfInput) (l := tokens.map Token.kind)).length_le
  rwa [List.length_map] at hprefix

theorem not_tooDeep_of_proceedsOn {Q : α → Prop}
    (h : ProceedsOn d (meaningfulKinds tokens) production Q) (hlength : tokens.length < d.maxDepth)
    {error : CompileError} (herror : runOn production tokens = .error error) :
    ¬error.TooDeep d := by
  obtain ⟨failure, position, hfounded, rfl⟩ := h.report herror
  apply not_tooDeep_report_of_ne
  intro depth limit hdepth
  have hfew := hfounded.depth depth limit hdepth
  have hkinds := length_meaningfulKinds_le tokens
  omega

/-- A higher limit changes no result but an excess of depth, and where the limit is greater than
the number of tokens there is none. -/
theorem ofTokens_withDepth (d : Dialect) (tokens : List Token) (h : d.maxDepth ≤ limit) :
    ((∀ error, Filter.ofTokens d tokens = .error error → ¬error.TooDeep d) →
      Filter.ofTokens { d with maxDepth := limit } tokens = Filter.ofTokens d tokens) ∧
    ((∀ error, Expression.ofTokens d tokens = .error error → ¬error.TooDeep d) →
      Expression.ofTokens { d with maxDepth := limit } tokens = Expression.ofTokens d tokens) ∧
    (tokens.length < d.maxDepth →
      (∀ error, Filter.ofTokens d tokens = .error error → ¬error.TooDeep d) ∧
        ∀ error, Expression.ofTokens d tokens = .error error → ¬error.TooDeep d) :=
  ⟨runOn_eq_of_curtails (curtails_wholeFilter h),
    runOn_eq_of_curtails (curtails_wholeExpression h),
    fun hlength => ⟨fun _ => not_tooDeep_of_proceedsOn proceeds_wholeFilter hlength,
      fun _ => not_tooDeep_of_proceedsOn proceeds_wholeExpression hlength⟩⟩

/-- Tokens that were not read from a text. -/
def tokensOf (kinds : List TokenKind) : List Token :=
  kinds.map fun kind => ⟨kind, "", ⟨0, 0, 0⟩⟩

/-- A test and a sum, under limits that do for them. -/
theorem ofTokens_withDepth_shallow :
    (shallow 1).maxDepth ≤ 128 ∧
      (∃ f, Filter.ofTokens (shallow 1) (tokensOf [.identifier "a", .keyword .is, .keyword .null]) =
          .ok f ∧
        Filter.ofTokens .standard (tokensOf [.identifier "a", .keyword .is, .keyword .null]) =
          .ok f) ∧
      (shallow 2).maxDepth ≤ 128 ∧
      (∃ e, Expression.ofTokens (shallow 2)
          (tokensOf [.identifier "a", .operator .plus, .identifier "b"]) = .ok e ∧
        Expression.ofTokens .standard
          (tokensOf [.identifier "a", .operator .plus, .identifier "b"]) = .ok e) ∧
      (tokensOf [.identifier "a", .operator .plus, .identifier "b"]).length < (shallow 4).maxDepth ∧
      ∀ error, Filter.ofTokens (shallow 4)
          (tokensOf [.identifier "a", .operator .plus, .identifier "b"]) = .error error →
        ¬error.TooDeep (shallow 4) := by
  have htest : (shallow 1).maxDepth ≤ 128 := by decide
  have hsum : (shallow 2).maxDepth ≤ 128 := by decide
  have hlength : (tokensOf [.identifier "a", .operator .plus, .identifier "b"]).length <
      (shallow 4).maxDepth := by decide
  obtain ⟨f, hf⟩ := exists_ok (show (Filter.ofTokens (shallow 1)
    (tokensOf [.identifier "a", .keyword .is, .keyword .null])).toOption.isSome = true by
      decide +kernel)
  obtain ⟨e, he⟩ := exists_ok (show (Expression.ofTokens (shallow 2)
    (tokensOf [.identifier "a", .operator .plus, .identifier "b"])).toOption.isSome = true by
      decide +kernel)
  have hfilter := (ofTokens_withDepth _ _ htest).1 (by rw [hf]; rintro error ⟨⟩)
  have hexpression := (ofTokens_withDepth _ _ hsum).2.1 (by rw [he]; rintro error ⟨⟩)
  exact ⟨htest, ⟨f, hf, hfilter.trans hf⟩, hsum, ⟨e, he, hexpression.trans he⟩, hlength,
    ((ofTokens_withDepth (shallow 4) _ le_rfl).2.2 hlength).1⟩

end Limits

end GeoFilter
