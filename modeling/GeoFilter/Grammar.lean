import GeoFilter.Diagnostic
import GeoFilter.Grammar.Filter
import GeoFilter.Token.Stream

/-!
Filters and expressions from tokens and from texts.
-/

namespace GeoFilter

open Grammar

/-- The kinds of the tokens in front of the first end of input. What stands behind it
is not looked at, and a list without one ends with its last token. -/
def meaningfulKinds (tokens : List Token) : List TokenKind :=
  (tokens.map Token.kind).takeWhile (· ≠ .endOfInput)

/-- Runs a production on a list of tokens, and places its failure in the text that the
tokens were read from. -/
def runOn {α : Type} (production : Parse α) (tokens : List Token) : Except CompileError α :=
  let kinds := meaningfulKinds tokens
  match production ⟨kinds, .resting 0⟩ with
  | .ok (value, _) => .ok value
  | .error failure =>
      let index := kinds.length - failure.place.length
      .error (.report failure.fault (tokens[index]?.bind Token.position?))

section Runs

variable {α : Type} {production : Parse α} {tokens : List Token}

theorem exists_of_runOn {value : α} (h : runOn production tokens = .ok value) :
    ∃ last, production ⟨meaningfulKinds tokens, .resting 0⟩ = .ok (value, last) := by
  unfold runOn at h
  simp only at h
  split at h
  · rename_i found last hresult
    cases h
    exact ⟨last, hresult⟩
  · cases h

theorem exists_failure_of_runOn {error : CompileError} (h : runOn production tokens = .error error) :
    ∃ failure, production ⟨meaningfulKinds tokens, .resting 0⟩ = .error failure ∧
      error = .report failure.fault
        (tokens[(meaningfulKinds tokens).length - failure.place.length]?.bind Token.position?) := by
  unfold runOn at h
  simp only at h
  split at h
  · cases h
  · rename_i failure hresult
    cases h
    exact ⟨failure, hresult, rfl⟩

end Runs

/-- The filter that a list of tokens denotes. -/
def Filter.ofTokens (d : Dialect) (tokens : List Token) : Except CompileError Filter :=
  runOn (wholeFilter d) tokens

/-- The expression that a list of tokens denotes. -/
def Expression.ofTokens (d : Dialect) (tokens : List Token) :
    Except CompileError Expression :=
  runOn (wholeExpression d) tokens

/-- The filter that a text denotes. -/
def Filter.parse (d : Dialect) (text : String) : Except CompileError Filter := do
  Filter.ofTokens d (← tokenize d text)

/-- The expression that a text denotes. -/
def Expression.parse (d : Dialect) (text : String) : Except CompileError Expression := do
  Expression.ofTokens d (← tokenize d text)

end GeoFilter
