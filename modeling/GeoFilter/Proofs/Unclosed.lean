import GeoFilter.Proofs.Diagnostic.Fault
import GeoFilter.Proofs.Grammar.Balance
import GeoFilter.Proofs.Kinds

/-!
Parentheses in a list of tokens. A list that denotes something has balanced parentheses, and an
error for want of a closing one stands at the last opening parenthesis that is not closed.
-/

namespace GeoFilter

open Grammar

variable {d : Dialect} {α : Type} {tokens : List Token} {kinds : List TokenKind}

theorem endOfInput_not_mem_meaningfulKinds (tokens : List Token) :
    .endOfInput ∉ meaningfulKinds tokens := by
  intro hmem
  have hkind := List.mem_takeWhile_imp hmem
  simp at hkind

/-- Where no end of input occurs, all tokens are in front of it. -/
theorem eq_nil_of_headD {last : List TokenKind} (hkinds : .endOfInput ∉ kinds)
    (hlast : last <:+ kinds) (hend : last.headD .endOfInput = .endOfInput) : last = [] := by
  cases last with
  | nil => rfl
  | cons kind more =>
      obtain rfl : kind = .endOfInput := hend
      exact absurd (hlast.subset List.mem_cons_self) hkinds

theorem BalancedToEnd.balanced (h : BalancedToEnd kinds) (hkinds : .endOfInput ∉ kinds) :
    Balanced kinds := by
  obtain ⟨last, ⟨used, rfl, hused⟩, hend⟩ := h
  obtain rfl := eq_nil_of_headD hkinds (List.suffix_append _ _) hend
  rwa [List.append_nil]

/-- The parenthesis that a failure blames is the last one that is not closed. -/
theorem lastUnclosed_of_blames {failure : Failure} (hkinds : .endOfInput ∉ kinds)
    (hplace : failure.place <:+ kinds) (hblames : failure.Blames)
    (hfault : failure.fault = .unclosed) :
    LastUnclosed kinds (kinds.length - failure.place.length) := by
  obtain ⟨last, ⟨used, hused, hbalanced⟩, hend⟩ := hblames hfault
  have hlast : last <:+ failure.place := by
    rw [hused]
    exact (List.suffix_append used last).trans (List.suffix_cons _ _)
  obtain rfl := eq_nil_of_headD hkinds (hlast.trans hplace) hend
  obtain ⟨front, rfl⟩ := hplace
  rw [List.length_append, Nat.add_sub_cancel, hused, List.append_nil]
  exact lastUnclosed_of_balanced hbalanced

/-- What a result tells of the parentheses among the tokens: those of a value are balanced, and an
error for want of a closing parenthesis stands at the last one that is not closed. -/
def TellsParentheses (tokens : List Token) : Except CompileError α → Prop
  | .ok _ => Balanced (meaningfulKinds tokens)
  | .error error => error.message = Fault.unclosed.message →
      ∃ index token, LastUnclosed (meaningfulKinds tokens) index ∧ tokens[index]? = some token ∧
        error.position = token.position?

theorem tellsParentheses_runOn {production : Parse α} {Q : α → Prop}
    (hproceeds : ProceedsOn d (meaningfulKinds tokens) production Q)
    (hcomes : Comes production (meaningfulKinds tokens) fun _ =>
      BalancedToEnd (meaningfulKinds tokens)) :
    TellsParentheses tokens (runOn production tokens) := by
  have hkinds := endOfInput_not_mem_meaningfulKinds tokens
  have harrives := hproceeds.arrives
  have hlands := hcomes (.resting 0)
  unfold runOn
  simp only
  cases hresult : production ⟨meaningfulKinds tokens, .resting 0⟩ with
  | ok found =>
      rw [hresult] at hlands
      exact BalancedToEnd.balanced hlands hkinds
  | error failure =>
      rw [hresult] at hlands harrives
      intro hmessage
      have hlast := lastUnclosed_of_blames hkinds harrives.1.place hlands
        (eq_unclosed_of_message hmessage)
      obtain ⟨token, htoken, -⟩ := exists_token_of_getElem? hlast.opening
      refine ⟨_, token, hlast, htoken, ?_⟩
      rw [position_report, htoken]
      rfl

/-- Parentheses balance in every list of tokens that denotes something, and the innermost one is
blamed where they do not for want of a closing one. -/
theorem ofTokens_tellsParentheses (d : Dialect) (tokens : List Token) :
    TellsParentheses tokens (Filter.ofTokens d tokens) ∧
      TellsParentheses tokens (Expression.ofTokens d tokens) :=
  ⟨tellsParentheses_runOn proceeds_wholeFilter (comes_wholeFilter _),
    tellsParentheses_runOn proceeds_wholeExpression (comes_wholeExpression _)⟩

/-- Of two parentheses that are not closed the inner one is blamed, and not the one behind it that
is closed. -/
example : (match Filter.ofTokens .standard [⟨.punctuation .openParen, "(", ⟨1, 1, 0⟩⟩,
      ⟨.punctuation .openParen, "(", ⟨1, 2, 1⟩⟩, ⟨.punctuation .openParen, "(", ⟨1, 3, 2⟩⟩,
      ⟨.identifier "a", "a", ⟨1, 4, 3⟩⟩, ⟨.punctuation .closeParen, ")", ⟨1, 5, 4⟩⟩] with
    | .ok _ => none
    | .error error => some (error.message, error.position)) =
      some (Fault.unclosed.message, some ⟨1, 2, 1⟩) := by
  decide +kernel

end GeoFilter
