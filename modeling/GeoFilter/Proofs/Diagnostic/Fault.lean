import GeoFilter.Diagnostic
import GeoFilter.Proofs.Diagnostic.Message
import GeoFilter.Proofs.Token.Lexeme

/-!
The messages of faults. All of them pass the screening, as long as the words and numbers
in them are those of a text; an error therefore shows the message of its fault.
-/

namespace GeoFilter

open Text

/-- A token that can be named in a message. -/
def TokenKind.Nameable : TokenKind → Prop
  | .identifier name => IsPlain name
  | .number digits => IsPlain digits
  | _ => True

/-- A fault whose message holds nothing but what a text can contain. -/
def Fault.Nameable : Fault → Prop
  | .unrecognized c => isBlank c = false
  | .malformedNumber text => IsPlain text
  | .numberOutOfRange text => IsPlain text
  | .unexpected found _ => found.Nameable
  | .trailing found => found.Nameable
  | .chainedComparison found => found.Nameable
  | .invalidNumber text _ => IsPlain text
  | .integerOutOfRange text _ => IsPlain text
  | .invalidCoordinate text _ => IsPlain text
  | .functionArity name _ _ => IsPlain name
  | .unknownFunction name => IsPlain name
  | _ => True

theorem isPlainChar_of_isNumberChar {c : Char} (h : isNumberChar c = true) :
    isPlainChar c = true := by
  simp only [isNumberChar, isExponentMark, isSign, Bool.or_eq_true, beq_iff_eq] at h
  rcases h with ((hdigit | rfl) | rfl | rfl) | rfl | rfl
  · exact isPlainChar_of_isDigit hdigit
  all_goals decide

theorem TokenKind.Occurs.nameable {d : Dialect} {kind : TokenKind} (h : kind.Occurs d) :
    kind.Nameable := by
  cases kind with
  | identifier name => exact isPlain_of_isPlainWord h
  | number digits => exact fun c hc => isPlainChar_of_isNumberChar (h.chars c hc)
  | _ => trivial

theorem isPlain_spatialOp (op : SpatialOp) : IsPlain op.name := by
  cases op <;> exact isPlain_literal rfl

theorem isPlain_geometryType (type : GeometryType) : IsPlain type.name := by
  cases type <;> exact isPlain_literal rfl

theorem isPlain_keyword (word : Keyword) : IsPlain word.name := by
  cases word with
  | spatial op => exact isPlain_spatialOp op
  | geometry type => exact isPlain_geometryType type
  | _ => exact isPlain_literal rfl

theorem isPlain_operator (op : Operator) : IsPlain op.symbol := by
  cases op with
  | comparison op => cases op <;> exact isPlain_literal rfl
  | _ => exact isPlain_literal rfl

theorem isPlain_punctuation (mark : Punctuation) : IsPlain mark.symbol := by
  cases mark <;> exact isPlain_literal rfl

/-- A text between literals, as most messages have it. -/
theorem isPlain_between {before after : List Char} {text : String}
    (hbefore : before.all isPlainChar = true) (h : IsPlain text)
    (hafter : after.all isPlainChar = true) :
    IsPlain (toString (String.ofList before) ++ toString text ++ toString (String.ofList after)) :=
  isPlain_append.mpr
    ⟨isPlain_append.mpr ⟨isPlain_literal hbefore, h⟩, isPlain_literal hafter⟩

theorem isPlain_plural (count : Nat) : IsPlain (Arity.plural count) := by
  unfold Arity.plural
  split <;> exact isPlain_literal rfl

theorem isPlain_arity (arity : Arity) : IsPlain arity.describe := by
  unfold Arity.describe
  split
  · simp only [isPlain_append, isPlain_toString]
    exact ⟨⟨⟨isPlain_literal rfl, isPlain_repr _⟩, isPlain_literal rfl⟩,
      isPlain_plural _⟩
  · split
    · simp only [isPlain_append, isPlain_toString]
      exact ⟨⟨isPlain_repr _, isPlain_literal rfl⟩, isPlain_plural _⟩
    · split
      · simp only [isPlain_append, isPlain_toString]
        exact ⟨⟨⟨isPlain_repr _, isPlain_literal rfl⟩, isPlain_repr _⟩,
          isPlain_literal rfl⟩
      · simp only [isPlain_append, isPlain_toString]
        exact ⟨⟨⟨isPlain_repr _, isPlain_literal rfl⟩, isPlain_repr _⟩,
          isPlain_literal rfl⟩

theorem isPlain_given (given : Nat) : IsPlain (Arity.describeGiven given) := by
  unfold Arity.describeGiven
  split
  · exact isPlain_literal rfl
  · exact isPlain_append.mpr ⟨isPlain_repr _, isPlain_literal rfl⟩

theorem endsWell_given (given : Nat) : EndsWell (Arity.describeGiven given) := by
  unfold Arity.describeGiven
  split
  · exact endsWell_literal rfl
  · exact EndsWell.append (endsWell_literal rfl) _

theorem TokenKind.Nameable.isPlain {kind : TokenKind} (h : kind.Nameable) :
    IsPlain kind.describe := by
  cases kind with
  | keyword word => exact isPlain_between rfl (isPlain_keyword word) rfl
  | operator op => exact isPlain_between rfl (isPlain_operator op) rfl
  | punctuation mark => exact isPlain_between rfl (isPlain_punctuation mark) rfl
  | identifier name => exact isPlain_between rfl h rfl
  | number digits => exact isPlain_between rfl h rfl
  | quotedIdentifier name => exact isPlain_literal rfl
  | string value => exact isPlain_literal rfl
  | endOfInput => exact isPlain_literal rfl

theorem endsWell_mark (text : String) : EndsWell (text ++ toString "`") :=
  EndsWell.append (endsWell_literal rfl) text

theorem endsWell_describe (kind : TokenKind) : EndsWell kind.describe := by
  cases kind with
  | quotedIdentifier name => exact endsWell_literal rfl
  | string value => exact endsWell_literal rfl
  | endOfInput => exact endsWell_literal rfl
  | _ => exact endsWell_mark _

theorem isPlain_expectation (expected : Expectation) : IsPlain expected.describe := by
  cases expected with
  | keyword word => exact isPlain_between rfl (isPlain_keyword word) rfl
  | punctuation mark => exact isPlain_between rfl (isPlain_punctuation mark) rfl
  | _ => exact isPlain_literal rfl

theorem endsWell_expectation (expected : Expectation) : EndsWell expected.describe := by
  cases expected with
  | keyword word => exact endsWell_mark _
  | punctuation mark => exact endsWell_mark _
  | _ => exact endsWell_literal rfl

theorem isAlphanum_hexCode {c : Char} (h : isControl c = true) :
    (hexCode c).toList ≠ [] ∧ ∀ d ∈ (hexCode c).toList, d.isAlphanum = true := by
  have hsmall : c.toNat < 0xa0 := by
    simp only [isControl, Bool.or_eq_true, Bool.and_eq_true, decide_eq_true_eq] at h
    omega
  have hall : ∀ n ∈ List.range 0xa0, (hexCode (Char.ofNat n)).toList ≠ [] ∧
      (hexCode (Char.ofNat n)).toList.all Char.isAlphanum = true := by
    simp only [hexCode, String.toList_ofList]
    decide +kernel
  have hcode := hall c.toNat (List.mem_range.mpr hsmall)
  rwa [Char.ofNat_toNat, List.all_eq_true] at hcode

/-- A control character is named by its number. -/
theorem messageFault?_control {c : Char} (h : isControl c = true) :
    messageFault? (Fault.unrecognized c).message.toList = none := by
  obtain ⟨hnonempty, hcode⟩ := isAlphanum_hexCode h
  have hmessage : (Fault.unrecognized c).message =
      toString "unrecognized character U+" ++ toString (hexCode c) := if_pos h
  rw [hmessage]
  apply messageFault?_of_plain
  · exact isPlain_append.mpr ⟨isPlain_literal rfl, isPlain_of_isAlphanum hcode⟩
  · apply BeginsWell.append
    exact beginsWell_literal rfl
  · exact (endsWell_of_isAlphanum hnonempty hcode).append _

theorem startsPlaceholder_before_mark {c : Char} : startsPlaceholder [c, '`'] = false := by
  unfold startsPlaceholder
  split
  · rename_i rest heq
    cases heq
    decide
  · rename_i d rest heq
    cases heq
    decide
  · rename_i rest heq
    cases heq
  · rfl

/-- A character between marks begins no placeholder, since no brace and no letter of one
follows it. -/
theorem messageFault?_character {c : Char} (h : isControl c = false) :
    messageFault? (Fault.unrecognized c).message.toList = none := by
  have hmessage : (Fault.unrecognized c).message =
      toString "unrecognized character `" ++ toString c ++ toString "`" := if_neg (by simp [h])
  have hcharacter : (toString c).toList = [c] := String.toList_singleton c
  have hopening : IsPlain (String.ofList "unrecognized character `".toList) :=
    isPlain_literal rfl
  have htext : (Fault.unrecognized c).message.toList =
      "unrecognized character `".toList ++ [c, '`'] := by
    rw [hmessage, String.toList_append, String.toList_append, hcharacter, List.append_assoc]
    rfl
  rw [IsPlain, String.toList_ofList] at hopening
  apply messageFault?_eq_none
  · rw [hmessage]
    apply BeginsWell.append
    apply BeginsWell.append
    exact beginsWell_literal rfl
  · rw [hmessage]
    exact endsWell_mark _
  · rw [htext, List.any_append, Bool.or_eq_false_iff]
    constructor
    · rw [List.any_eq_false]
      intro d hd
      rw [isControl_of_plain (hopening d hd)]
      simp
    · simp [h]
      decide
  · rw [htext, hasPlaceholder_append hopening]
    simp only [hasPlaceholder, startsPlaceholder_before_mark, Bool.false_or, Bool.or_false]
    decide

/-- A message of a plain text between two literals. -/
theorem messageFault?_between {before after : List Char} {text : String}
    (hbefore : before.all isPlainChar = true)
    (hbegins : before.head?.any (fun c => !isBlank c) = true) (h : IsPlain text)
    (hafter : after.all isPlainChar = true)
    (hends : after.getLast?.any (fun c => !isBlank c && !isStrayPunctuation c) = true) :
    messageFault? (toString (String.ofList before) ++ toString text ++
      toString (String.ofList after)).toList = none :=
  messageFault?_of_plain (isPlain_between hbefore h hafter)
    (((beginsWell_literal hbegins).append _).append _) ((endsWell_literal hends).append _)

/-- A message of a literal and a plain text behind it. -/
theorem messageFault?_behind {before : List Char} {text : String}
    (hbefore : before.all isPlainChar = true)
    (hbegins : before.head?.any (fun c => !isBlank c) = true) (h : IsPlain text)
    (hends : EndsWell text) :
    messageFault? (toString (String.ofList before) ++ toString text).toList = none :=
  messageFault?_of_plain (isPlain_append.mpr ⟨isPlain_literal hbefore, h⟩)
    ((beginsWell_literal hbegins).append _) (hends.append _)

theorem messageFault?_arity {what : String} (hwhat : IsPlain what) (hbegins : BeginsWell what)
    (arity : Arity) (given : Nat) :
    messageFault? (arityMessage what arity given).toList = none := by
  apply messageFault?_of_plain
  · unfold arityMessage
    simp only [isPlain_append, isPlain_toString]
    exact ⟨⟨⟨⟨hwhat, isPlain_literal rfl⟩, isPlain_arity arity⟩,
      isPlain_literal rfl⟩, isPlain_given given⟩
  · exact (((hbegins.append _).append _).append _).append _
  · exact (endsWell_given given).append _

theorem messageFault?_unexpected {found : TokenKind} (h : found.Nameable)
    (expected : Expectation) :
    messageFault? (Fault.unexpected found expected).message.toList = none := by
  apply messageFault?_of_plain
  · unfold Fault.message
    simp only [isPlain_append, isPlain_toString]
    exact ⟨⟨⟨isPlain_literal rfl, h.isPlain⟩, isPlain_literal rfl⟩,
      isPlain_expectation expected⟩
  · exact BeginsWell.append (BeginsWell.append (BeginsWell.append
      (beginsWell_literal rfl) _) _) _
  · exact (endsWell_expectation expected).append _

theorem messageFault?_tooDeep (depth : Depth) (limit : Nat) :
    messageFault? (Fault.tooDeep depth limit).message.toList = none := by
  have hdepth : IsPlain depth.describe ∧ BeginsWell depth.describe := by
    cases depth <;> exact ⟨isPlain_literal rfl, beginsWell_literal rfl⟩
  apply messageFault?_of_plain
  · unfold Fault.message
    simp only [isPlain_append, isPlain_toString]
    exact ⟨⟨hdepth.1, isPlain_literal rfl⟩, isPlain_repr limit⟩
  · exact (hdepth.2.append _).append _
  · exact (endsWell_repr limit).append _

theorem messageFault?_literalArgument (op : SpatialOp) (argument : LiteralArgument) :
    messageFault? (Fault.literalArgument op argument).message.toList = none := by
  have hname : IsPlain argument.name := by
    cases argument <;> exact isPlain_literal rfl
  have hrequired : IsPlain argument.required ∧ EndsWell argument.required := by
    cases argument <;> exact ⟨isPlain_literal rfl, endsWell_literal rfl⟩
  apply messageFault?_of_plain
  · unfold Fault.message
    simp only [isPlain_append, isPlain_toString]
    exact ⟨⟨⟨⟨⟨isPlain_literal rfl, hname⟩, isPlain_literal rfl⟩,
      isPlain_spatialOp op⟩, isPlain_literal rfl⟩, hrequired.1⟩
  · exact BeginsWell.append (BeginsWell.append (BeginsWell.append (BeginsWell.append
      (BeginsWell.append (beginsWell_literal rfl) _) _) _) _) _
  · exact hrequired.2.append _

theorem messageFault?_geometryOperand (op : SpatialOp) (index : Nat) :
    messageFault? (Fault.geometryOperand op index).message.toList = none := by
  apply messageFault?_of_plain
  · unfold Fault.message
    simp only [isPlain_append, isPlain_toString]
    exact ⟨⟨⟨⟨isPlain_literal rfl, isPlain_repr index⟩, isPlain_literal rfl⟩,
      isPlain_spatialOp op⟩, isPlain_literal rfl⟩
  · exact BeginsWell.append (BeginsWell.append (BeginsWell.append (BeginsWell.append
      (beginsWell_literal rfl) _) _) _) _
  · exact EndsWell.append (endsWell_literal rfl) _

theorem messageFault?_cannotBeEmpty (type : GeometryType) :
    messageFault? (Fault.cannotBeEmpty type).message.toList = none := by
  apply messageFault?_of_plain
  · exact isPlain_append.mpr ⟨isPlain_geometryType type, isPlain_literal rfl⟩
  · have hbegins : BeginsWell type.name := by
      cases type <;> exact beginsWell_literal rfl
    exact hbegins.append _
  · exact EndsWell.append (endsWell_literal rfl) _

/-- Every fault that names nothing but what a text can contain has a message that passes
the screening. -/
theorem Fault.Nameable.messageFault? {fault : Fault} (h : fault.Nameable) :
    GeoFilter.messageFault? fault.message.toList = none := by
  cases fault with
  | unrecognized c =>
      cases hcontrol : isControl c with
      | true => exact messageFault?_control hcontrol
      | false => exact messageFault?_character hcontrol
  | unterminated quotation =>
      cases quotation <;>
        exact messageFault?_behind rfl rfl (isPlain_literal rfl)
          (endsWell_literal rfl)
  | malformedNumber text => exact messageFault?_between rfl rfl h rfl rfl
  | numberOutOfRange text => exact messageFault?_between rfl rfl h rfl rfl
  | unexpected found expected => exact messageFault?_unexpected h expected
  | trailing found => exact messageFault?_behind rfl rfl h.isPlain (endsWell_describe found)
  | chainedComparison found => exact messageFault?_between rfl rfl h.isPlain rfl rfl
  | tooDeep depth limit => exact messageFault?_tooDeep depth limit
  | invalidNumber text cause => exact messageFault?_between rfl rfl h rfl rfl
  | integerOutOfRange text cause => exact messageFault?_between rfl rfl h rfl rfl
  | invalidCoordinate text cause => exact messageFault?_between rfl rfl h rfl rfl
  | cannotBeEmpty type => exact messageFault?_cannotBeEmpty type
  | functionArity name arity given =>
      exact messageFault?_arity (isPlain_between rfl h rfl)
        (((beginsWell_literal rfl).append _).append _) arity given
  | unknownFunction name => exact messageFault?_between rfl rfl h rfl rfl
  | spatialArity op given =>
      exact messageFault?_arity (isPlain_between rfl (isPlain_spatialOp op) rfl)
        (((beginsWell_literal rfl).append _).append _) op.arity given
  | literalArgument op argument => exact messageFault?_literalArgument op argument
  | geometryOperand op index => exact messageFault?_geometryOperand op index
  | negativeDistance op => exact messageFault?_between rfl rfl (isPlain_spatialOp op) rfl rfl
  | _ => exact messageFault?_literal rfl rfl rfl

theorem validateMessage_of_nameable {fault : Fault} (h : fault.Nameable) :
    validateMessage fault.message = .ok () := by
  unfold validateMessage
  rw [h.messageFault?]

/-- The diagnostic for a fault, before its message is screened. -/
def Fault.diagnostic (fault : Fault) (position : Option Position) : Diagnostic :=
  ⟨fault.kind, fault.message, position⟩

theorem report_of_fit {fault : Fault} (h : validateMessage fault.message = .ok ())
    (position : Option Position) :
    CompileError.report fault position =
      ⟨fault.diagnostic position, (fault.cause?.map Cause.number).toList⟩ := by
  have hscreened : CompileError.screened fault.kind fault.message =
      ⟨⟨fault.kind, fault.message, none⟩, []⟩ := by
    unfold CompileError.screened CompileError.ofMessage
    rw [h]
    rfl
  unfold CompileError.report
  rw [hscreened]
  cases fault.cause? with
  | none => rfl
  | some cause => rfl

/-- What stands behind a fault in a number takes the place of the rejected message. -/
theorem report_of_rejected {fault : Fault} {rejected : RejectedMessage}
    (h : validateMessage fault.message = .error rejected) (position : Option Position) :
    CompileError.report fault position =
      ⟨⟨.internal, CompileError.internalMessage, position⟩,
        [(fault.cause?.map Cause.number).getD (.rejected rejected)]⟩ := by
  have hscreened : CompileError.screened fault.kind fault.message =
      ⟨⟨.internal, CompileError.internalMessage, none⟩, [.rejected rejected]⟩ := by
    unfold CompileError.screened CompileError.ofMessage
    rw [h]
    rfl
  unfold CompileError.report
  rw [hscreened]
  cases fault.cause? with
  | none => rfl
  | some cause => rfl

/-- The error for a nameable fault shows the fault itself. -/
theorem report_of_nameable {fault : Fault} (h : fault.Nameable) (position : Option Position) :
    (CompileError.report fault position).kind = fault.kind ∧
      (CompileError.report fault position).message = fault.message ∧
      (CompileError.report fault position).position = position := by
  rw [report_of_fit (validateMessage_of_nameable h)]
  exact ⟨rfl, rfl, rfl⟩

theorem Fault.kind_ne_internal (fault : Fault) : fault.kind ≠ .internal := by
  intro h
  cases fault <;> cases h

/-- An error shows its fault, unless the fault cannot be shown. -/
theorem message_report (fault : Fault) (position : Option Position) :
    (CompileError.report fault position).message = fault.message ∨
      (CompileError.report fault position).message = CompileError.internalMessage := by
  cases h : validateMessage fault.message with
  | ok _ =>
      rw [report_of_fit h]
      exact .inl rfl
  | error rejected =>
      rw [report_of_rejected h]
      exact .inr rfl

section Openings

/-- Letters that a message begins with. -/
def BeginsWith (letters : List Char) (message : String) : Prop :=
  letters <+: message.toList

theorem beginsWith_literal {letters text : List Char} (h : letters.isPrefixOf text = true) :
    BeginsWith letters (String.ofList text) := by
  unfold BeginsWith
  rw [String.toList_ofList]
  exact List.isPrefixOf_iff_prefix.mp h

theorem BeginsWith.append {letters : List Char} {message : String} (h : BeginsWith letters message)
    (rest : String) : BeginsWith letters (message ++ rest) := by
  unfold BeginsWith
  rw [String.toList_append]
  exact h.trans (List.prefix_append _ _)

theorem beginsWith_arityMessage {letters : List Char} {what : String} (h : BeginsWith letters what)
    (arity : Arity) (given : Nat) : BeginsWith letters (arityMessage what arity given) :=
  (((h.append _).append _).append _).append _

/-- The first letters of the message of a fault, whatever the fault is about. -/
def Fault.letters : Fault → List Char
  | .unrecognized _ => ['u', 'n', 'r']
  | .unterminated _ => ['u', 'n', 't']
  | .malformedNumber _ => ['m', 'a', 'l']
  | .numberOutOfRange _ => ['n', 'u', 'm']
  | .unexpected _ _ | .trailing _ | .chainedComparison _ => ['u', 'n', 'e']
  | .unclosed => ['u', 'n', 'c']
  | .predicateExpected | .expressionExpected => ['e', 'x', 'p']
  | .tooDeep .nesting _ => ['n', 'e', 's']
  | .tooDeep .chain _ => ['a', 'r', 'i']
  | .invalidNumber _ _ => ['i', 'n', 'v', 'a', 'l', 'i', 'd', ' ', 'n']
  | .integerOutOfRange _ _ => ['i', 'n', 't']
  | .invalidCoordinate _ _ => ['i', 'n', 'v', 'a', 'l', 'i', 'd', ' ', 'c']
  | .noValues => ['`', 'I', 'N']
  | .cannotBeEmpty type => type.name.toList
  | .functionArity _ _ _ => ['f', 'u', 'n']
  | .unknownFunction _ => ['u', 'n', 'k']
  | .spatialArity _ _ => ['s', 'p', 'a']
  | .literalArgument _ _ | .geometryOperand _ _ => ['a', 'r', 'g']
  | .invertedBox => ['B', 'B', 'O']
  | .negativeDistance _ => ['d', 'i', 's']
  | .intersectionPattern => ['i', 'n', 'v', 'a', 'l', 'i', 'd', ' ', 'D']
  | .shortLine => ['L', 'I', 'N']
  | .shortRing | .openRing => ['P', 'O', 'L']
  | .invertedEnvelope => ['E', 'N', 'V']

theorem Fault.beginsWith_letters (fault : Fault) : BeginsWith fault.letters fault.message := by
  have hbetween : ∀ {letters before : List Char}, letters.isPrefixOf before = true →
      ∀ text after, BeginsWith letters (String.ofList before ++ text ++ after) :=
    fun hbefore text after => ((beginsWith_literal hbefore).append text).append after
  cases fault with
  | tooDeep depth limit =>
      cases depth with
      | nesting => exact ((beginsWith_literal rfl).append _).append _
      | chain => exact ((beginsWith_literal rfl).append _).append _
  | unrecognized c =>
      change BeginsWith _ (if Text.isControl c then _ else _)
      split
      · exact BeginsWith.append (beginsWith_literal rfl) _
      · exact hbetween rfl _ _
  | unterminated quotation => exact BeginsWith.append (beginsWith_literal rfl) _
  | malformedNumber text => exact hbetween rfl _ _
  | numberOutOfRange text => exact hbetween rfl _ _
  | unexpected found expected => exact (hbetween rfl _ _).append _
  | trailing found => exact BeginsWith.append (beginsWith_literal rfl) _
  | chainedComparison found => exact hbetween rfl _ _
  | invalidNumber text cause => exact hbetween rfl _ _
  | integerOutOfRange text cause => exact hbetween rfl _ _
  | invalidCoordinate text cause => exact hbetween rfl _ _
  | cannotBeEmpty type => exact BeginsWith.append List.prefix_rfl _
  | functionArity name arity given => exact beginsWith_arityMessage (hbetween rfl _ _) arity given
  | unknownFunction name => exact hbetween rfl _ _
  | spatialArity op given => exact beginsWith_arityMessage (hbetween rfl _ _) op.arity given
  | literalArgument op argument => exact (((hbetween rfl _ _).append _).append _).append _
  | geometryOperand op index => exact ((hbetween rfl _ _).append _).append _
  | negativeDistance op => exact hbetween rfl _ _
  | _ => exact beginsWith_literal rfl

/-- Openings of one message agree as far as both go. -/
theorem BeginsWith.agree {letters letters' : List Char} {message : String}
    (h : BeginsWith letters message) (h' : BeginsWith letters' message) :
    letters.take letters'.length = letters'.take letters.length := by
  rcases List.prefix_or_prefix_of_prefix h h' with hshorter | hlonger
  · rw [List.take_of_length_le hshorter.length_le]
    exact List.prefix_iff_eq_take.mp hshorter
  · rw [List.take_of_length_le hlonger.length_le]
    exact (List.prefix_iff_eq_take.mp hlonger).symm

/-- The first letters of the messages about the depth and of the one about a parenthesis. -/
def ownLetters : List (List Char) :=
  [['n', 'e', 's'], ['a', 'r', 'i'], ['u', 'n', 'c']]

/-- A text whose first three letters are not those of one of these messages. -/
def BeginsElsewise (text : String) : Prop :=
  3 ≤ text.toList.length ∧ text.toList.take 3 ∉ ownLetters

instance (text : String) : Decidable (BeginsElsewise text) :=
  inferInstanceAs (Decidable (_ ∧ _))

theorem Fault.length_letters (fault : Fault) : 3 ≤ fault.letters.length := by
  cases fault with
  | tooDeep depth limit => cases depth <;> exact Nat.le_refl 3
  | cannotBeEmpty type => cases type <;> decide
  | _ => simp [letters]

theorem beginsElsewise_message_iff (fault : Fault) :
    BeginsElsewise fault.message ↔ fault.letters.take 3 ∉ ownLetters := by
  have hbegins := fault.beginsWith_letters
  have hlength := fault.length_letters
  have htake : fault.message.toList.take 3 = fault.letters.take 3 := by
    obtain ⟨rest, hrest⟩ := hbegins
    rw [← hrest, List.take_append_of_le_length hlength]
  unfold BeginsElsewise
  rw [htake]
  exact and_iff_right (hlength.trans hbegins.length_le)

theorem not_beginsElsewise_tooDeep (depth : Depth) (limit : Nat) :
    ¬BeginsElsewise (Fault.tooDeep depth limit).message := by
  rw [beginsElsewise_message_iff]
  cases depth <;> simp [Fault.letters, ownLetters]

/-- All other messages begin with letters of their own. -/
theorem beginsElsewise_message {fault : Fault}
    (hdepth : ∀ depth limit, fault ≠ .tooDeep depth limit) (hunclosed : fault ≠ .unclosed) :
    BeginsElsewise fault.message := by
  rw [beginsElsewise_message_iff]
  cases fault with
  | tooDeep depth limit => exact absurd rfl (hdepth depth limit)
  | unclosed => exact absurd rfl hunclosed
  | cannotBeEmpty type => cases type <;> decide
  | _ => simp [Fault.letters, ownLetters]

theorem message_unclosed_ne_tooDeep (depth : Depth) (limit : Nat) :
    Fault.unclosed.message ≠ (Fault.tooDeep depth limit).message := by
  intro h
  have hbegins := (Fault.tooDeep depth limit).beginsWith_letters
  rw [← h] at hbegins
  have hagree := Fault.unclosed.beginsWith_letters.agree hbegins
  cases depth <;> simp [Fault.letters] at hagree

/-- What is said to be invalid is a number or an ordinate, if the word for it does not begin like
that for the pattern of an intersection. -/
theorem Fault.invalid_of_begins {fault : Fault} {initial : Char} (hinitial : initial ≠ 'D')
    (h : BeginsWith ['i', 'n', 'v', 'a', 'l', 'i', 'd', ' ', initial] fault.message) :
    ∃ text cause, fault = .invalidNumber text cause ∨ fault = .invalidCoordinate text cause := by
  have hagree := h.agree fault.beginsWith_letters
  cases fault with
  | invalidNumber text cause => exact ⟨text, cause, .inl rfl⟩
  | invalidCoordinate text cause => exact ⟨text, cause, .inr rfl⟩
  | intersectionPattern => simp [letters, hinitial] at hagree
  | tooDeep depth limit => cases depth <;> simp [letters] at hagree
  | cannotBeEmpty type => cases type <;> simp [letters, GeometryType.name] at hagree
  | _ => simp [letters] at hagree

/-- An error that reports any other fault does not begin with their letters either. -/
theorem beginsElsewise_report {fault : Fault}
    (hdepth : ∀ depth limit, fault ≠ .tooDeep depth limit) (hunclosed : fault ≠ .unclosed)
    (position : Option Position) :
    BeginsElsewise (CompileError.report fault position).message := by
  rcases message_report fault position with hreport | hreport
  · rw [hreport]
    exact beginsElsewise_message hdepth hunclosed
  · rw [hreport]
    decide

/-- An error with the message about a parenthesis reports one. -/
theorem eq_unclosed_of_message {fault : Fault} {position : Option Position}
    (h : (CompileError.report fault position).message = Fault.unclosed.message) :
    fault = .unclosed := by
  by_contra hunclosed
  by_cases hdepth : ∃ depth limit, fault = .tooDeep depth limit
  · obtain ⟨depth, limit, rfl⟩ := hdepth
    rcases message_report (.tooDeep depth limit) position with hreport | hreport
    · exact message_unclosed_ne_tooDeep depth limit (h.symm.trans hreport)
    · rw [hreport] at h
      revert h
      decide
  · have hbegins := beginsElsewise_report (fun depth limit heq => hdepth ⟨depth, limit, heq⟩)
      hunclosed position
    rw [h] at hbegins
    revert hbegins
    decide

end Openings

end GeoFilter
