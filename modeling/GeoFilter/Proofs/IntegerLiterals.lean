import GeoFilter.Proofs.Diagnostic.Fault
import GeoFilter.Proofs.Grammar.Inversion
import GeoFilter.Proofs.Numbers

/-!
Integer literals. Digits denote their value exactly wherever 64 bits hold it with its sign, however
many digits there are. The sign takes part in that: behind it the magnitude may be greater by one.
An integer beyond is a semantic error, with what is wrong with its text as the cause.
-/

namespace GeoFilter.Grammar

variable {d : Dialect} {α β : Type} {inner : Level}

/-- A production that fails with a fault on the tokens, wherever the depth counter stands. -/
def FailsOn (p : Parse α) (input : List TokenKind) (fault : Fault) : Prop :=
  ∀ gauge, ∃ failure, p ⟨input, gauge⟩ = .error failure ∧ failure.fault = fault

section Failures

variable {input : List TokenKind} {fault : Fault}

/-- What comes behind a failure is not reached. -/
theorem FailsOn.bind {p : Parse α} (h : FailsOn p input fault) (q : α → Parse β) :
    FailsOn (p >>= q) input fault := by
  intro gauge
  obtain ⟨failure, hfailure, hfault⟩ := h gauge
  exact ⟨failure, bind_eq_error hfailure q, hfault⟩

theorem FailsOn.after_mark {q : Mark → Parse β} (h : FailsOn (q input) input fault) :
    FailsOn (mark >>= q) input fault :=
  h

theorem FailsOn.after_peek {q : TokenKind → Parse β}
    (h : FailsOn (q (input.headD .endOfInput)) input fault) : FailsOn (peek >>= q) input fault :=
  h

theorem FailsOn.after_next {q : TokenKind → Parse β}
    (h : FailsOn (q (input.headD .endOfInput)) input.tail fault) :
    FailsOn (next >>= q) input fault :=
  h

theorem failsOn_check {checked : Except Fault α} (h : checked = .error fault) (place : Mark) :
    FailsOn (check place checked) input fault := by
  intro gauge
  rw [h]
  exact ⟨_, rfl, rfl⟩

/-- A number that its check refuses, without a sign or with the sign that belongs to it. -/
theorem failsOn_unary {negative : Bool} {digits : String}
    (h : Check.numberLiteral negative digits = .error fault) (tail : List TokenKind) :
    FailsOn (unary d inner)
      ((if negative then [.operator .minus] else []) ++ [.number digits] ++ tail) fault := by
  cases negative with
  | true =>
      apply FailsOn.after_peek
      apply FailsOn.after_mark
      apply FailsOn.after_next
      apply FailsOn.after_mark
      apply FailsOn.after_peek
      apply FailsOn.after_next
      exact (failsOn_check h _).bind _
  | false =>
      apply FailsOn.after_peek
      apply FailsOn.after_mark
      apply FailsOn.after_next
      exact (failsOn_check h _).bind _

theorem FailsOn.chain {operator? : TokenKind → Option ArithmeticOp} {operand : Parse Parsed}
    (h : FailsOn operand input fault) : FailsOn (Grammar.chain d operator? operand) input fault :=
  FailsOn.after_mark (h.bind _)

theorem FailsOn.logical {op : LogicalOp} {operand : Parse Parsed}
    (h : FailsOn operand input fault) : FailsOn (Grammar.logical op operand) input fault :=
  FailsOn.after_mark (h.bind _)

/-- A failure at the first operand of all is one of the whole. -/
theorem FailsOn.disjunction (h : FailsOn (unary d inner) input fault)
    (hbegins : input.headD .endOfInput ≠ .keyword .not) :
    FailsOn (Grammar.disjunction d inner) input fault := by
  have hadditive : FailsOn (additive d inner) input fault := h.chain.chain
  have hnegation : FailsOn (negation d inner) input fault := by
    apply FailsOn.after_peek
    simp only [hbegins, if_false]
    exact hadditive.bind _
  exact hnegation.logical.logical

/-- A single level is enough for a whole list to be entered. -/
theorem exists_failure_wholeExpression (hdepth : 1 ≤ d.maxDepth)
    (h : ∀ inner, FailsOn (disjunction d inner) input fault) :
    ∃ failure, wholeExpression d ⟨input, .resting 0⟩ = .error failure ∧ failure.fault = fault := by
  have hlevel : level d d.maxDepth .group = disjunction d (level d (d.maxDepth - 1)) := by
    rw [← Nat.sub_add_cancel hdepth]
    rfl
  obtain ⟨failure, hfailure, hfault⟩ := h (level d (d.maxDepth - 1)) (Gauge.resting 0).rise
  rw [← hlevel] at hfailure
  have hroom : (Gauge.resting 0).level < d.maxDepth := hdepth
  have hwhole : whole d ⟨input, .resting 0⟩ = .error failure :=
    (bind_eq rfl).trans (bind_eq_error (nested_eq_error hroom hfailure) _)
  exact ⟨failure, bind_eq_error hwhole _, hfault⟩

end Failures

end GeoFilter.Grammar

namespace GeoFilter

open Grammar Number Text

variable {d : Dialect}

section Literals

variable {negative : Bool} {digits gap : List Char}

/-- Digits behind white space, with a minus sign in front of it all or without white space and
sign. -/
def integerText (negative : Bool) (gap digits : List Char) : String :=
  String.ofList (if negative then '-' :: gap ++ digits else digits)

def integerTextKinds (negative : Bool) (digits : List Char) : List TokenKind :=
  (if negative then [.operator .minus] else []) ++ [.number (String.ofList digits)]

theorem lexed_integerText (hdigits : IsDigits digits) (hgap : ∀ c ∈ gap, isBlank c = true)
    (negative : Bool) :
    Lexed d (integerText negative gap digits).toList (integerTextKinds negative digits) := by
  have hnumber : Lexed d digits [.number (String.ofList digits)] := by
    have hspells := @spells_digits d digits hdigits
    rw [String.toList_ofList] at hspells
    exact hspells.lexed
  unfold integerText
  rw [String.toList_ofList]
  cases negative with
  | true => exact opens_minus _ _ (hnumber.gap hgap)
  | false => exact hnumber

theorem headD_integerTextKinds (negative : Bool) (digits : List Char) :
    (integerTextKinds negative digits).headD .endOfInput ≠ .keyword .not := by
  cases negative <;> simp [integerTextKinds]

/-- A literal that its check accepts is the whole expression. -/
theorem parse_integerText_of_ok (hdepth : 1 ≤ d.maxDepth) (hdigits : IsDigits digits)
    (hgap : ∀ c ∈ gap, isBlank c = true) {value : Literal}
    (h : Check.numberLiteral negative (String.ofList digits) = .ok value) :
    Expression.parse d (integerText negative gap digits) = .ok (.literal value) := by
  have hunary := @reads_numberLiteral d _ _ _ h []
  rw [List.append_nil] at hunary
  have hadditive : Reads d (additive d) (integerTextKinds negative digits)
      (.expression (.literal value)) [] .free :=
    reads_chain_alone (reads_chain_alone hunary rfl) rfl
  have hwithin : ReadsWithin d (disjunction d) (integerTextKinds negative digits)
      (.expression (.literal value)) [] 0 :=
    (reads_disjunction_of_additive hadditive (headD_integerTextKinds negative digits)
      (.inl rfl)).freely
  exact parseExpression_of_readsWithin (lexed_integerText hdigits hgap negative) hwithin hdepth

/-- A literal that its check refuses is the error of the whole text. -/
theorem parse_integerText_of_error (hdepth : 1 ≤ d.maxDepth) (hdigits : IsDigits digits)
    (hgap : ∀ c ∈ gap, isBlank c = true) {fault : Fault} (hnameable : fault.Nameable)
    (h : Check.numberLiteral negative (String.ofList digits) = .error fault) :
    ∃ position, Expression.parse d (integerText negative gap digits) =
      .error ⟨fault.diagnostic position, (fault.cause?.map Cause.number).toList⟩ := by
  have hunary : ∀ inner, FailsOn (unary d inner) (integerTextKinds negative digits) fault := by
    intro inner
    have hfails := @failsOn_unary d inner _ _ _ h []
    rwa [List.append_nil] at hfails
  obtain ⟨failure, hfailure, rfl⟩ := exists_failure_wholeExpression hdepth fun inner =>
    (hunary inner).disjunction (headD_integerTextKinds negative digits)
  have hlexed := @lexed_integerText d _ _ hdigits hgap negative
  obtain ⟨tokens, htokens, hkinds⟩ := tokenize_of_lexed hlexed
  unfold Expression.parse
  rw [htokens]
  change ∃ position, runOn (wholeExpression d) tokens = _
  unfold runOn
  simp only [meaningfulKinds_of_kinds hkinds (endOfInput_not_mem hlexed.occurs), hfailure,
    report_of_fit (validateMessage_of_nameable hnameable)]
  exact ⟨_, rfl⟩

end Literals

/-- What a text for an integer denotes: the integer itself if 64 bits hold it. Otherwise it is a
semantic error that shows the digits with their sign and has the overflow as its only cause. -/
structure DenotesInteger (text : String) (value : Int)
    (outcome : Except CompileError Expression) : Prop where
  within : FitsInteger value → ∃ n : Int64, n.toInt = value ∧ outcome = .ok (.literal (.integer n))
  beyond : ¬FitsInteger value → ∃ error : CompileError, outcome = .error error ∧
    error.kind = .semantic ∧
    error.message = "integer literal `" ++ text ++ "` is out of range" ∧
    error.causes = [.number (if value < 0 then .tooSmall else .tooLarge)]

section Integers

variable {digits gap : List Char}

theorem isPlain_signedDigits (hdigits : IsDigits digits) (negative : Bool) :
    IsPlain (String.ofList (signedDigits negative digits)) := by
  intro c hc
  rw [String.toList_ofList, signedDigits, List.mem_append] at hc
  rcases hc with hsign | hdigit
  · cases negative with
    | true => rw [List.mem_singleton.mp hsign]; decide
    | false => cases hsign
  · exact isPlainChar_of_isDigit (hdigits.all c hdigit)

theorem overflowFault_eq {negative : Bool} {magnitude : Nat}
    (h : ¬FitsInteger (signed negative magnitude)) :
    overflowFault negative = if signed negative magnitude < 0 then .tooSmall else .tooLarge := by
  rw [fitsInteger_signed_iff, not_le] at h
  cases negative with
  | true =>
      have hbelow : -(magnitude : Int) < 0 := by
        have hlarge : 2 ^ 63 < magnitude := h
        omega
      exact (if_pos hbelow).symm
  | false =>
      have hnonnegative : ¬(magnitude : Int) < 0 := by omega
      exact (if_neg hnonnegative).symm

theorem denotesInteger_integerText (hdepth : 1 ≤ d.maxDepth) (hdigits : IsDigits digits)
    (hgap : ∀ c ∈ gap, isBlank c = true) (negative : Bool) :
    DenotesInteger (String.ofList (signedDigits negative digits))
      (signed negative (natOfDigits digits))
      (Expression.parse d (integerText negative gap digits)) := by
  have hliteral := numberLiteral_digits hdigits.all negative
  constructor
  · intro hfits
    rw [readInteger_of_fits hdigits.nonempty hdigits.all hfits] at hliteral
    exact ⟨_, Int64.toInt_ofInt_of_le hfits.1 hfits.2,
      parse_integerText_of_ok hdepth hdigits hgap hliteral⟩
  · intro hbeyond
    rw [readInteger_of_not_fits hdigits.nonempty hdigits.all hbeyond] at hliteral
    have hnameable : (Fault.integerOutOfRange (String.ofList (signedDigits negative digits))
        (overflowFault negative)).Nameable := isPlain_signedDigits hdigits negative
    obtain ⟨position, hparse⟩ :=
      parse_integerText_of_error hdepth hdigits hgap hnameable hliteral
    refine ⟨_, hparse, rfl, rfl, ?_⟩
    rw [← overflowFault_eq hbeyond]
    rfl

/-- Digits are the integer of their value up to the greatest one of 64 bits, and with a minus sign
and any white space in front the negated value down to the least one. Beyond there is an error. -/
theorem parse_integer (hdepth : 1 ≤ d.maxDepth) (hdigits : IsDigits digits)
    (hgap : ∀ c ∈ gap, isBlank c = true) :
    DenotesInteger (String.ofList digits) (natOfDigits digits)
        (Expression.parse d (String.ofList digits)) ∧
      DenotesInteger (String.ofList ('-' :: digits)) (-(natOfDigits digits : Int))
        (Expression.parse d (String.ofList ('-' :: gap ++ digits))) :=
  ⟨denotesInteger_integerText hdepth hdigits (List.forall_mem_nil _) false,
    denotesInteger_integerText hdepth hdigits hgap true⟩

/-- The magnitude of the least integer is too large by one without its sign. -/
theorem parse_integer_least :
    (1 ≤ Dialect.standard.maxDepth ∧ IsDigits "009223372036854775808".toList ∧
        ∀ c ∈ [' ', '\t'], isBlank c = true) ∧
      (∃ error : CompileError,
        Expression.parse .standard "009223372036854775808" = .error error ∧
          error.kind = .semantic ∧ error.causes = [.number .tooLarge]) ∧
      ∃ n : Int64, n.toInt = -2 ^ 63 ∧
        Expression.parse .standard "- \t009223372036854775808" = .ok (.literal (.integer n)) := by
  have hdepth : 1 ≤ Dialect.standard.maxDepth := by decide
  have hdigits : IsDigits "009223372036854775808".toList :=
    ⟨by simp, List.all_eq_true.mp (by decide +kernel)⟩
  have hgap : ∀ c ∈ [' ', '\t'], isBlank c = true := List.all_eq_true.mp (by decide +kernel)
  obtain ⟨hplain, hsigned⟩ := parse_integer hdepth hdigits hgap
  obtain ⟨error, herror, hkind, -, hcauses⟩ := hplain.beyond (by decide +kernel)
  exact ⟨⟨hdepth, hdigits, hgap⟩, ⟨error, herror, hkind, hcauses⟩,
    hsigned.within (by decide +kernel)⟩

end Integers

end GeoFilter
