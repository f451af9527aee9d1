import GeoFilter.Proofs.Grammar.Height

/-!
The meaning of a list of tokens lies in their kinds. Lists with the same kinds denote the same,
or fail in the same way at the same index; the texts and places of the tokens show in nothing
but the place of an error.
-/

namespace GeoFilter

open Grammar

variable {d : Dialect} {α : Type} {tokens tokens' : List Token}

/-- A fault at one of the tokens in front of the first end of input, or at that end. A token
that the fault names is of the kind that stands there. -/
structure Fault.FoundAt (kinds : List TokenKind) (index : Nat) (fault : Fault) : Prop where
  place : index ≤ kinds.length
  found : ∀ found, fault.found? = some found → found = kinds.getD index .endOfInput

theorem report_eq_located (fault : Fault) (position : Option Position) :
    CompileError.report fault position = (CompileError.report fault none).located position := by
  unfold CompileError.report
  cases fault.cause? with
  | none => rfl
  | some cause => rfl

theorem position_report (fault : Fault) (position : Option Position) :
    (CompileError.report fault position).position = position := by
  rw [report_eq_located]
  rfl

theorem foundAt_of_founded {kinds : List TokenKind} {room bound : Nat} {failure : Failure}
    (h : failure.Founded kinds room bound) :
    failure.fault.FoundAt kinds (kinds.length - failure.place.length) := by
  refine ⟨Nat.sub_le _ _, fun found hfound => ?_⟩
  have hplace : failure.place = kinds.drop (kinds.length - failure.place.length) :=
    List.suffix_iff_eq_drop.mp h.place
  rw [h.found found hfound, List.headD_eq_head?_getD, List.getD_eq_getElem?_getD, ← List.head?_drop,
    ← hplace]

/-- What stands at an index in front of the first end of input is the kind of the token there. -/
theorem exists_token_of_getElem? {index : Nat} {kind : TokenKind}
    (h : (meaningfulKinds tokens)[index]? = some kind) :
    ∃ token, tokens[index]? = some token ∧ token.kind = kind := by
  obtain ⟨behind, hbehind⟩ : meaningfulKinds tokens <+: tokens.map Token.kind :=
    List.takeWhile_prefix _
  have hindex := (List.getElem?_eq_some_iff.mp h).1
  have hkind : (tokens.map Token.kind)[index]? = some kind := by
    rw [← hbehind, List.getElem?_append_left hindex, h]
  rwa [List.getElem?_map, Option.map_eq_some_iff] at hkind

/-- A parenthesis that is not closed. -/
def unclosed : List Token :=
  [⟨.punctuation .openParen, "(", ⟨1, 1, 0⟩⟩, ⟨.identifier "a", "a", ⟨1, 2, 1⟩⟩]

end GeoFilter
