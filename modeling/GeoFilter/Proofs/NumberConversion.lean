import GeoFilter.Proofs.IntegerLiterals
import GeoFilter.Proofs.Kinds
import GeoFilter.Proofs.Token.Scanner

/-!
The conversion of numbers. The scanner takes a number to be fractional exactly where the parser
looks for a floating-point number, and has then found it to be finite; any other number consists of
digits. So there is only one way in which the conversion of a number of a text can fail: the number
is an integer that 64 bits do not hold.
-/

namespace GeoFilter

open Grammar Number Text

variable {d : Dialect} {text : String} {α : Type}

/-- A number that has a point or an exponent and is read as a finite number, or that consists of
digits. -/
inductive IsConvertible (digits : String) : Prop where
  | float {value : Float} (hfloat : Check.isFloatText digits = true)
      (hread : readFloat digits.toList = .ok value) (hfinite : value.isFinite = true) :
      IsConvertible digits
  | integer (h : IsDigits digits.toList) : IsConvertible digits

section Scanning

variable {parts : NumberParts}

/-- A point or an exponent mark in the text of a number belongs to a part of its own. -/
theorem isFloatText_text (h : parts.WellFormed) :
    Check.isFloatText (String.ofList parts.text) = parts.fractional := by
  have hof : NumberParts.of parts.text = parts := by
    have hof := @NumberParts.of_append _ h [] (by simp)
    rwa [List.append_nil] at hof
  unfold Check.isFloatText
  rw [String.toList_ofList, Bool.eq_iff_iff]
  constructor
  · intro hmark
    have hfractional := @fractional_of_mark parts.text
    rw [hof] at hfractional
    exact hfractional hmark
  · intro hfractional
    have hparts : parts.fraction ≠ [] ∨ parts.exponent ≠ [] := by
      simpa [NumberParts.fractional] using hfractional
    rw [List.any_eq_true]
    rcases hparts with hfraction | hexponent
    · have hpoint : parts.fraction = '.' :: parts.fraction.tail :=
        h.fraction.point.1.resolve_left fun hnone => hfraction hnone.1
      refine ⟨'.', ?_, rfl⟩
      rw [NumberParts.text, hpoint]
      simp
    · obtain ⟨mark, digits, hexponent⟩ := List.exists_cons_of_ne_nil hexponent
      have hmark : isExponentMark mark = true := h.exponent.mark mark (by rw [hexponent]; rfl)
      refine ⟨mark, ?_, ?_⟩
      · simp [NumberParts.text, hexponent]
      · rw [Bool.or_assoc]
        exact Bool.or_eq_true_iff.mpr (.inr hmark)

theorem isConvertible_text (h : parts.WellFormed)
    (hchecked : parts.fractional = true → parts.value < overflowBound) :
    IsConvertible (String.ofList parts.text) := by
  have hfloat := isFloatText_text h
  cases hfractional : parts.fractional with
  | true =>
      obtain ⟨value, hread, hsaturates⟩ := NumberParts.saturates_text h
      rw [← String.toList_ofList (l := parts.text)] at hread
      exact .float (hfloat.trans hfractional) hread
        (hsaturates.isFinite.mpr (hchecked hfractional))
  | false =>
      have hparts : parts.fraction = [] ∧ parts.exponent = [] := by
        simpa [NumberParts.fractional] using hfractional
      have htext : parts.text = parts.whole := by
        simp [NumberParts.text, hparts]
      have hdigits : IsDigits parts.whole :=
        ⟨h.nonempty.resolve_right fun hfraction => hfraction hparts.1, h.whole⟩
      rw [htext]
      exact .integer (by rwa [String.toList_ofList])

/-- Every number that is read from a text converts, also one in front of an error. -/
theorem isConvertible_of_mem {token : Token} (h : token ∈ (tokenStream d text).tokens)
    {digits : String} (hkind : token.kind = .number digits) : IsConvertible digits := by
  obtain ⟨c, rest, run, hlexeme⟩ :=
    (tokenized_tokenStream d text).lexemes token h (by simp [hkind])
  rw [hkind] at hlexeme
  obtain ⟨parts, hparts, rfl, hchecked⟩ := number_of_lexeme hlexeme
  exact isConvertible_text hparts hchecked

/-- More calls yield the same first. -/
theorem Scanner.calls_prefix (count more : Nat) (scanner : Scanner) :
    scanner.calls d count <+: scanner.calls d (count + more) := by
  induction count generalizing scanner with
  | zero => exact List.nil_prefix
  | succ count ih =>
      rw [Nat.succ_add]
      exact (List.prefix_cons_inj _).mpr (ih _)

/-- What a call yields is a token of the text. -/
theorem mem_tokens_of_calls {count : Nat} {token : Token}
    (h : some (.ok token) ∈ (Scanner.ofText text).calls d count) :
    token ∈ (tokenStream d text).tokens := by
  have hmore := (Scanner.calls_prefix count (tokenStream d text).items.length _).subset h
  rw [Nat.add_comm, Scanner.ofText, (tokenized_tokenStream d text).calls count] at hmore
  simpa [TokenStream.items] using hmore

end Scanning

section Converting

variable {digits : String}

theorem IsConvertible.exists_readFloat (h : IsConvertible digits) :
    ∃ value, readFloat digits.toList = .ok value := by
  cases h with
  | float hfloat hread hfinite => exact ⟨_, hread⟩
  | integer hdigits =>
      obtain ⟨value, hread, -⟩ := exists_readFloat_digits hdigits
      exact ⟨value, hread⟩

/-- An integer that 64 bits do not hold, as a fault in its digits. -/
def Fault.IsOutOfRange (digits : String) (fault : Fault) : Prop :=
  IsDigits digits.toList ∧ ∃ negative,
    ¬FitsInteger (signed negative (natOfDigits digits.toList)) ∧
      fault = .integerOutOfRange (String.ofList (signedDigits negative digits.toList))
        (overflowFault negative)

/-- The conversion to an ordinate does not fail, and the one to a literal does so only for an
integer out of range. -/
theorem IsConvertible.isOutOfRange (h : IsConvertible digits) {fault : Fault}
    (hfault : fault.InNumber digits) : fault.IsOutOfRange digits := by
  obtain ⟨value, hread⟩ := h.exists_readFloat
  obtain ⟨negative, hliteral | hordinate⟩ := hfault
  · cases h with
    | float hfloat _ _ =>
        simp only [Check.numberLiteral, hfloat, if_true, hread] at hliteral
        cases hliteral
    | integer hdigits =>
        have hnumber := numberLiteral_digits hdigits.all negative
        rw [String.ofList_toList, hliteral] at hnumber
        by_cases hfits : FitsInteger (signed negative (natOfDigits digits.toList))
        · rw [readInteger_of_fits hdigits.nonempty hdigits.all hfits] at hnumber
          cases hnumber
        · rw [readInteger_of_not_fits hdigits.nonempty hdigits.all hfits] at hnumber
          cases hnumber
          exact ⟨hdigits, negative, hfits, rfl⟩
  · rw [Check.ordinate, hread] at hordinate
    cases hordinate

end Converting

/-- An error of a text about one of its numbers: its digits, with a sign or without one, denote an
integer that 64 bits do not hold. -/
def CompileError.IsOutOfRange (d : Dialect) (text : String) (error : CompileError) : Prop :=
  ∃ token ∈ (tokenStream d text).tokens, ∃ (digits : List Char) (negative : Bool),
    token.kind = .number (String.ofList digits) ∧ IsDigits digits ∧
      ¬FitsInteger (signed negative (natOfDigits digits)) ∧
        error = ⟨⟨.semantic, "integer literal `" ++ String.ofList (signedDigits negative digits) ++
          "` is out of range", some token.start⟩, [.number (overflowFault negative)]⟩

/-- What an error of a text has to do with the conversion of numbers. It calls no number and no
coordinate invalid; and if it has a cause, as the failure of any conversion has, then it is about an
integer that is out of range. -/
structure CompileError.ConvertsNumbers (d : Dialect) (text : String) (error : CompileError) :
    Prop where
  number : ∀ written, error.message ≠ "invalid number `" ++ written ++ "`"
  coordinate : ∀ written, error.message ≠ "invalid coordinate `" ++ written ++ "`"
  integer : error.causes ≠ [] → error.IsOutOfRange d text

section Errors

/-- If only integers are out of range, nothing is said to be an invalid number or ordinate. -/
theorem not_beginsWith_invalid {fault : Fault}
    (hcause : ∀ cause, fault.cause? = some cause → ∃ digits, fault.IsOutOfRange digits)
    {initial : Char} (hinitial : initial ≠ 'D') :
    ¬BeginsWith ['i', 'n', 'v', 'a', 'l', 'i', 'd', ' ', initial] fault.message := by
  intro hbegins
  obtain ⟨written, cause, rfl | rfl⟩ := Fault.invalid_of_begins hinitial hbegins
  · obtain ⟨digits, -, negative, -, hfault⟩ := hcause cause rfl
    cases hfault
  · obtain ⟨digits, -, negative, -, hfault⟩ := hcause cause rfl
    cases hfault

theorem cause?_of_lexical {fault : Fault} (h : fault.kind = .lexical) : fault.cause? = none := by
  cases fault <;> first | rfl | cases h

theorem convertsNumbers_report {fault : Fault} {position : Option Position}
    (hnameable : fault.Nameable)
    (hcause : ∀ cause, fault.cause? = some cause → ∃ token ∈ (tokenStream d text).tokens,
      ∃ digits, token.kind = .number digits ∧ fault.IsOutOfRange digits ∧
        position = some token.start) :
    (CompileError.report fault position).ConvertsNumbers d text := by
  have hrange : ∀ cause, fault.cause? = some cause → ∃ digits, fault.IsOutOfRange digits := by
    intro cause h
    obtain ⟨token, -, digits, -, hfault, -⟩ := hcause cause h
    exact ⟨digits, hfault⟩
  rw [report_of_fit (validateMessage_of_nameable hnameable)]
  refine ⟨fun written hmessage => ?_, fun written hmessage => ?_, fun hcauses => ?_⟩
  · have hbegins : BeginsWith ['i', 'n', 'v', 'a', 'l', 'i', 'd', ' ', 'n'] fault.message := by
      rw [show fault.message = _ from hmessage]
      exact ((beginsWith_literal rfl).append _).append _
    exact not_beginsWith_invalid hrange (by decide) hbegins
  · have hbegins : BeginsWith ['i', 'n', 'v', 'a', 'l', 'i', 'd', ' ', 'c'] fault.message := by
      rw [show fault.message = _ from hmessage]
      exact ((beginsWith_literal rfl).append _).append _
    exact not_beginsWith_invalid hrange (by decide) hbegins
  · cases hfault : fault.cause? with
    | none =>
        rw [hfault] at hcauses
        exact absurd rfl hcauses
    | some cause =>
        obtain ⟨token, htoken, digits, hkind, ⟨hdigits, negative, hbeyond, rfl⟩, rfl⟩ :=
          hcause cause hfault
        cases hfault
        refine ⟨token, htoken, digits.toList, negative, ?_, hdigits, hbeyond, rfl⟩
        rw [hkind, String.ofList_toList]

theorem convertsNumbers_of_tokenize {error : CompileError} (h : tokenize d text = .error error) :
    error.ConvertsNumbers d text := by
  obtain ⟨before, c, rest, fault, p, -, hblank, hlexeme, -, rfl⟩ :=
    (readFrom_tokenStream d text).failed _ (tokenize_eq_error_iff.mp h)
  obtain ⟨hnameable, run, after, -, -, hblames⟩ := offends_lexeme hblank hlexeme
  apply convertsNumbers_report hnameable
  intro cause hcause
  rw [cause?_of_lexical hblames.kind] at hcause
  cases hcause

/-- A number that a failure blames is the token at its place. -/
theorem exists_number_of_place {tokens : List Token} {place : Mark} {digits : String}
    (hplace : place <:+ meaningfulKinds tokens)
    (hdigits : place.headD .endOfInput = .number digits) :
    ∃ token, tokens[(meaningfulKinds tokens).length - place.length]? = some token ∧
      token.kind = .number digits := by
  apply exists_token_of_getElem?
  obtain ⟨more, rfl⟩ := exists_of_headD (by simp) hdigits
  have hdrop := List.suffix_iff_eq_drop.mp hplace
  rw [← List.head?_drop, ← hdrop]
  rfl

theorem convertsNumbers_of_runOn {production : Parse α} {Q R : α → Prop} {tokens : List Token}
    (hproceeds : ProceedsOn d (meaningfulKinds tokens) production Q)
    (hyields : Yields (.all d) production R) (htokens : tokenize d text = .ok tokens)
    {error : CompileError} (h : runOn production tokens = .error error) :
    error.ConvertsNumbers d text := by
  obtain ⟨hoccurring, -, hplaced⟩ := tokens_of_tokenize htokens
  obtain ⟨-, hstream⟩ := tokenize_eq_ok_iff.mp htokens
  have harrives := hproceeds.arrives
  have hnameable := hyields ⟨meaningfulKinds tokens, .resting 0⟩ hoccurring
  obtain ⟨failure, hresult, rfl⟩ := exists_failure_of_runOn h
  rw [hresult] at harrives hnameable
  apply convertsNumbers_report hnameable
  intro cause hcause
  obtain ⟨digits, hdigits, hfault⟩ := harrives.1.number cause hcause
  obtain ⟨token, htoken, hkind⟩ := exists_number_of_place harrives.1.place hdigits
  have hmem : token ∈ tokens := List.mem_of_getElem? htoken
  obtain ⟨before, after, -, hstart⟩ := hplaced token hmem
  rw [htoken, Option.bind_some, position?_of_standsBehind hstart]
  rw [← hstream] at hmem
  exact ⟨token, hmem, digits, hkind, (isConvertible_of_mem hmem hkind).isOutOfRange hfault, rfl⟩

theorem convertsNumbers_of_parse {production : Parse α} {Q R : α → Prop}
    (hproceeds : ∀ kinds, ProceedsOn d kinds production Q) (hyields : Yields (.all d) production R)
    {error : CompileError} (h : (do runOn production (← tokenize d text)) = .error error) :
    error.ConvertsNumbers d text := by
  rcases ofTokens_of_parse h with ⟨other, htokens, hother⟩ | ⟨tokens, htokens, hrun⟩
  · cases hother
    exact convertsNumbers_of_tokenize htokens
  · exact convertsNumbers_of_runOn (hproceeds _) hyields htokens hrun

end Errors

/-- Every number that the scanner yields converts, so that the errors for an invalid number and an
invalid coordinate do not occur; what remains is the one for an integer out of range. -/
theorem parse_convertsNumbers (d : Dialect) (text : String) :
    (∀ count token digits, some (.ok token) ∈ (Scanner.ofText text).calls d count →
      token.kind = .number digits → IsConvertible digits) ∧
      (∀ error, Filter.parse d text = .error error → error.ConvertsNumbers d text) ∧
        ∀ error, Expression.parse d text = .error error → error.ConvertsNumbers d text :=
  ⟨fun _ _ _ hcall hkind => isConvertible_of_mem (mem_tokens_of_calls hcall) hkind,
    fun _ h => convertsNumbers_of_parse (fun _ => proceeds_wholeFilter) yields_wholeFilter h,
    fun _ h => convertsNumbers_of_parse (fun _ => proceeds_wholeExpression) yields_wholeExpression h⟩

/-- A number in front of a character that is no token, an integer that is too small by one, and an
exponent without digits. -/
theorem parse_convertsNumbers_standard :
    (∃ token, some (.ok token) ∈ (Scanner.ofText "a < .5E+3 ~").calls .standard 4 ∧
      token.kind = .number ".5E+3" ∧ IsConvertible ".5E+3") ∧
      (∃ error, Filter.parse .standard "a < - 9223372036854775809" = .error error ∧
        error.causes ≠ [] ∧ error.ConvertsNumbers .standard "a < - 9223372036854775809") ∧
        ∃ error, Expression.parse .standard "POINT(1 2e)" = .error error ∧
          error.kind = .lexical ∧ error.ConvertsNumbers .standard "POINT(1 2e)" := by
  have hcalls : ((Scanner.ofText "a < .5E+3 ~").calls .standard 4).any (fun item =>
      item.any fun result => result.toOption.any fun token =>
        token.kind == .number ".5E+3") = true := by
    decide +kernel
  obtain ⟨item, hitem, hyielded⟩ := List.any_eq_true.mp hcalls
  obtain ⟨result, rfl, hresult⟩ := (Option.any_eq_true _ _).mp hyielded
  obtain ⟨token, rfl, hkind⟩ := exists_ok_and hresult
  obtain ⟨low, hlow, hcauses⟩ :=
    @exists_error_and _ (Filter.parse .standard "a < - 9223372036854775809")
      (fun error => !error.causes.isEmpty) (by decide +kernel)
  obtain ⟨spoiled, hspoiled, hlexical⟩ :=
    @exists_error _ (Expression.parse .standard "POINT(1 2e)") .lexical (by decide +kernel)
  exact ⟨⟨token, hitem, eq_of_beq hkind,
      (parse_convertsNumbers _ _).1 4 token _ hitem (eq_of_beq hkind)⟩,
    ⟨low, hlow, by simpa using hcauses, (parse_convertsNumbers _ _).2.1 _ hlow⟩,
    ⟨spoiled, hspoiled, hlexical, (parse_convertsNumbers _ _).2.2 _ hspoiled⟩⟩

end GeoFilter
