import GeoFilter.Proofs.Grammar.Accepted
import GeoFilter.Proofs.Kinds

/-!
What the errors of a list of tokens show, also of tokens that no text contains. Every message
passes the screening. A diagnostic whose own message does not pass gives way to an internal
error at its place. The rejection stays behind that error, unless the diagnostic is about a
number: what is wrong with the number then takes the place of the rejection.
-/

namespace GeoFilter

open Grammar

variable {d : Dialect} {α : Type} {tokens : List Token}

/-- An error as screening makes it of the diagnostic for a fault at a place. -/
structure CompileError.Screens (error : CompileError) (fault : Fault)
    (position : Option Position) : Prop where
  fit : validateMessage error.message = .ok ()
  shown : error.kind ≠ .internal → error.toDiagnostic = fault.diagnostic position ∧
    error.causes = (fault.cause?.map Cause.number).toList
  internal : error.kind = .internal → ∃ rejected,
    validateMessage fault.message = .error rejected ∧ rejected.message = fault.message ∧
      error.toDiagnostic = ⟨.internal, internalMessage, position⟩ ∧
      error.causes = [(fault.cause?.map Cause.number).getD (.rejected rejected)]

/-- An error that screening made of the failure of a production on a list of tokens. It is only
internal if there is a token in the list that no text of the dialect contains. -/
structure CompileError.ScreenedFrom (d : Dialect) (production : Parse α) (tokens : List Token)
    (error : CompileError) : Prop where
  screens : ∃ failure index, production ⟨meaningfulKinds tokens, .resting 0⟩ = .error failure ∧
    failure.place = (meaningfulKinds tokens).drop index ∧
    failure.fault.FoundAt (meaningfulKinds tokens) index ∧
    error.Screens failure.fault (tokens[index]?.bind Token.position?)
  foreign : error.kind = .internal → ∃ kind ∈ meaningfulKinds tokens, ¬kind.Occurs d

theorem validateMessage_internalMessage :
    validateMessage CompileError.internalMessage = .ok () := by
  unfold validateMessage
  rw [CompileError.messageFault?_internalMessage]

theorem message_of_rejected {message : String} {rejected : RejectedMessage}
    (h : validateMessage message = .error rejected) : rejected.message = message := by
  unfold validateMessage at h
  split at h
  · cases h
    rfl
  · cases h

theorem screens_report (fault : Fault) (position : Option Position) :
    (CompileError.report fault position).Screens fault position := by
  cases h : validateMessage fault.message with
  | ok _ =>
      rw [report_of_fit h]
      exact ⟨h, fun _ => ⟨rfl, rfl⟩, fun hinternal => absurd hinternal fault.kind_ne_internal⟩
  | error rejected =>
      rw [report_of_rejected h]
      exact ⟨validateMessage_internalMessage, fun hkind => absurd rfl hkind,
        fun _ => ⟨rejected, h, message_of_rejected h, rfl, rfl⟩⟩

/-- A fault that the grammar finds among tokens that a text can contain is shown as it is. -/
theorem kind_ne_internal_of_occurring {production : Parse α} {Q : α → Prop}
    (hyields : Yields (.all d) production Q) {kinds : List TokenKind}
    (hkinds : ∀ kind ∈ kinds, kind.Occurs d) {failure : Failure}
    (h : production ⟨kinds, .resting 0⟩ = .error failure) (position : Option Position) :
    (CompileError.report failure.fault position).kind ≠ .internal := by
  have hnameable := hyields ⟨kinds, .resting 0⟩ hkinds
  rw [h] at hnameable
  rw [(report_of_nameable hnameable position).1]
  exact failure.fault.kind_ne_internal

theorem screenedFrom_of_runOn {production : Parse α} {Q R : α → Prop}
    (hproceeds : ProceedsOn d (meaningfulKinds tokens) production Q)
    (hyields : Yields (.all d) production R) {error : CompileError}
    (h : runOn production tokens = .error error) : error.ScreenedFrom d production tokens := by
  have harrives := hproceeds.arrives
  obtain ⟨failure, hresult, rfl⟩ := exists_failure_of_runOn h
  rw [hresult] at harrives
  constructor
  · exact ⟨failure, _, hresult, List.suffix_iff_eq_drop.mp harrives.1.place,
      foundAt_of_founded harrives.1, screens_report _ _⟩
  · intro hinternal
    by_contra hnone
    have hall : ∀ kind ∈ meaningfulKinds tokens, kind.Occurs d := by
      intro kind hkind
      by_contra hforeign
      exact hnone ⟨kind, hkind, hforeign⟩
    exact kind_ne_internal_of_occurring hyields hall hresult _ hinternal

/-- Every error of a list of tokens comes from the screening of what the grammar finds in the
list. -/
theorem ofTokens_screenedFrom (d : Dialect) (tokens : List Token) :
    (∀ error, Filter.ofTokens d tokens = .error error →
      error.ScreenedFrom d (wholeFilter d) tokens) ∧
    ∀ error, Expression.ofTokens d tokens = .error error →
      error.ScreenedFrom d (wholeExpression d) tokens :=
  ⟨fun _ h => screenedFrom_of_runOn proceeds_wholeFilter yields_wholeFilter h,
    fun _ h => screenedFrom_of_runOn proceeds_wholeExpression yields_wholeExpression h⟩

/-- A filter with a name behind it that cannot be shown. -/
def unshowableName : List Token :=
  [⟨.identifier "a", "a", ⟨1, 1, 0⟩⟩, ⟨.keyword .is, "IS", ⟨1, 3, 2⟩⟩,
    ⟨.keyword .null, "NULL", ⟨1, 6, 5⟩⟩, ⟨.identifier "\x7b\x7d", "\x7b\x7d", ⟨1, 11, 10⟩⟩]

/-- A number whose digits are none and cannot be shown. -/
def unshowableNumber : List Token :=
  [⟨.number "\x7b\x7d", "\x7b\x7d", ⟨1, 1, 0⟩⟩]

theorem ofTokens_unshowableName : Filter.ofTokens .standard unshowableName =
    .error ⟨⟨.internal, CompileError.internalMessage, some ⟨1, 11, 10⟩⟩,
      [.rejected ⟨"unexpected trailing input: identifier `\x7b\x7d`", .placeholder⟩]⟩ := by
  rfl

theorem ofTokens_unshowableNumber : Expression.ofTokens .standard unshowableNumber =
    .error ⟨⟨.internal, CompileError.internalMessage, some ⟨1, 1, 0⟩⟩,
      [.number .invalidDigit]⟩ := by
  rfl

theorem ofTokens_screenedFrom_unshowable :
    (∃ error, Filter.ofTokens .standard unshowableName = .error error ∧ error.kind = .internal ∧
      error.ScreenedFrom .standard (wholeFilter .standard) unshowableName) ∧
    ∃ error, Expression.ofTokens .standard unshowableNumber = .error error ∧
      error.kind = .internal ∧
      error.ScreenedFrom .standard (wholeExpression .standard) unshowableNumber :=
  ⟨⟨_, ofTokens_unshowableName, rfl, (ofTokens_screenedFrom _ _).1 _ ofTokens_unshowableName⟩,
    _, ofTokens_unshowableNumber, rfl, (ofTokens_screenedFrom _ _).2 _ ofTokens_unshowableNumber⟩

/-- Not every internal error has the rejection of a message behind it. -/
theorem not_forall_internal_rejected :
    ¬∀ (d : Dialect) (tokens : List Token) (error : CompileError),
      Expression.ofTokens d tokens = .error error → error.kind = .internal →
        ∃ rejected, .rejected rejected ∈ error.causes := by
  intro hall
  obtain ⟨rejected, hrejected⟩ := hall _ _ _ ofTokens_unshowableNumber rfl
  simp at hrejected

end GeoFilter
