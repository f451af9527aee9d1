import GeoFilter.Proofs.Token.Number
import GeoFilter.Proofs.Token.Stream
import GeoFilter.Writing

/-!
Texts that are read as given tokens wherever they stand. Parentheses, commas and signs can
have anything behind them; words, numbers and quotations need a boundary, since a longer
lexeme could begin at the same place otherwise.
-/

namespace GeoFilter

open Number Text

variable {d : Dialect}

/-- The characters that canonical text has directly behind a word, a number or a
quotation. -/
def isBoundary (c : Char) : Bool :=
  c == ' ' || c == ',' || c == '(' || c == ')'

/-- A text that is over or goes on with a boundary. -/
def Bounded (after : List Char) : Prop :=
  ∀ c ∈ after.head?, isBoundary c = true

/-- A text that is read as the tokens, whatever stands behind it. -/
def Opens (d : Dialect) (text : List Char) (kinds : List TokenKind) : Prop :=
  ∀ after ks, Lexed d after ks → Lexed d (text ++ after) (kinds ++ ks)

/-- A text that is read as the tokens if a boundary stands behind it. -/
def Spells (d : Dialect) (text : List Char) (kinds : List TokenKind) : Prop :=
  ∀ after ks, Bounded after → Lexed d after ks → Lexed d (text ++ after) (kinds ++ ks)

theorem boundary_cases {c : Char} (h : isBoundary c = true) :
    c = ' ' ∨ c = ',' ∨ c = '(' ∨ c = ')' := by
  simpa [isBoundary, or_assoc] using h

/-- The sign of an arithmetic operator. -/
def ArithmeticOp.operator : ArithmeticOp → Operator
  | .add => .plus
  | .subtract => .minus
  | .multiply => .star
  | .divide => .slash

section Composition

variable {a b : List Char} {ka kb : List TokenKind}

theorem Opens.spells (h : Opens d a ka) : Spells d a ka :=
  fun after ks _ hafter => h after ks hafter

theorem Opens.append (ha : Opens d a ka) (hb : Spells d b kb) : Spells d (a ++ b) (ka ++ kb) := by
  intro after ks hbounded hafter
  rw [List.append_assoc, List.append_assoc]
  exact ha _ _ (hb after ks hbounded hafter)

/-- A boundary is the first character of what follows. -/
theorem Spells.append (ha : Spells d a ka) {c : Char} (hc : isBoundary c = true)
    (hb : Spells d (c :: b) kb) : Spells d (a ++ c :: b) (ka ++ kb) := by
  intro after ks hbounded hafter
  rw [List.append_assoc, List.append_assoc]
  apply ha
  · intro first hfirst
    cases hfirst
    exact hc
  · exact hb after ks hbounded hafter

theorem Spells.append_opens (ha : Spells d a ka) {c : Char} (hc : isBoundary c = true)
    (hb : Opens d (c :: b) kb) : Opens d (a ++ c :: b) (ka ++ kb) := by
  intro after ks hafter
  rw [List.append_assoc, List.append_assoc]
  apply ha
  · intro first hfirst
    cases hfirst
    exact hc
  · exact hb after ks hafter

theorem Lexed.blank {text : List Char} {ks : List TokenKind} (h : Lexed d text ks) :
    Lexed d (' ' :: text) ks := by
  have hblank : isBlank ' ' = true := by decide
  have hdrop : (' ' :: text).dropWhile isBlank = text.dropWhile isBlank :=
    List.dropWhile_cons_of_pos hblank
  cases h with
  | done h => exact .done (hdrop.trans h)
  | token h hlexeme hkinds => exact .token (hdrop.trans h) hlexeme hkinds

theorem Spells.blank (h : Spells d a ka) : Spells d (' ' :: a) ka :=
  fun after ks hbounded hafter => (h after ks hbounded hafter).blank

/-- A lexeme in front of a text that is read as tokens. -/
theorem Lexed.cons {c : Char} {rest run after : List Char} {kind : TokenKind}
    {ks : List TokenKind} (hblank : isBlank c = false)
    (hlexeme : lexeme d c rest = .ok (kind, run)) (hrun : c :: rest = run ++ after)
    (h : Lexed d after ks) : Lexed d (c :: rest) (kind :: ks) := by
  have hdrop : (c :: rest).dropWhile isBlank = c :: rest :=
    List.dropWhile_cons_of_neg (by simp [hblank])
  refine .token hdrop hlexeme ?_
  rw [hrun, List.drop_left]
  exact h

end Composition

section Symbols

/-- A character that is a token by itself. -/
theorem opens_symbol {c : Char} {kind : TokenKind} (hblank : isBlank c = false)
    (hlexeme : ∀ rest, lexeme d c rest = .ok (kind, [c])) : Opens d [c] [kind] :=
  fun after _ hafter => hafter.cons hblank (hlexeme after) rfl

theorem opens_openParen : Opens d ['('] [.punctuation .openParen] :=
  opens_symbol rfl fun rest => by cases rest <;> rfl

theorem opens_closeParen : Opens d [')'] [.punctuation .closeParen] :=
  opens_symbol rfl fun rest => by cases rest <;> rfl

theorem opens_comma : Opens d [','] [.punctuation .comma] :=
  opens_symbol rfl fun rest => by cases rest <;> rfl

theorem opens_minus : Opens d ['-'] [.operator .minus] :=
  opens_symbol rfl fun rest => by cases rest <;> rfl

theorem opens_arithmetic (op : ArithmeticOp) : Opens d op.symbol.toList [.operator op.operator] := by
  cases op with
  | add => exact opens_symbol rfl fun rest => by cases rest <;> rfl
  | subtract => exact opens_minus
  | multiply => exact opens_symbol rfl fun rest => by cases rest <;> rfl
  | divide => exact opens_symbol rfl fun rest => by cases rest <;> rfl

/-- A comparison could go on with another of its characters, but not with a boundary. -/
theorem spells_comparison (op : Comparison) :
    Spells d op.symbol.toList [.operator (.comparison op)] := by
  have hpair : ∀ (kind : TokenKind) (first second : Char), isBlank first = false →
      (∀ rest, lexeme d first (second :: rest) = .ok (kind, [first, second])) →
      Spells d [first, second] [kind] := by
    intro kind first second hblank hlexeme after ks _ hafter
    exact hafter.cons hblank (hlexeme after) rfl
  have hsingle : ∀ (kind : TokenKind) (first : Char), isBlank first = false →
      (∀ after, Bounded after → lexeme d first after = .ok (kind, [first])) →
      Spells d [first] [kind] := by
    intro kind first hblank hlexeme after ks hbounded hafter
    exact hafter.cons hblank (hlexeme after hbounded) rfl
  cases op with
  | equal => exact (opens_symbol rfl fun rest => by cases rest <;> rfl).spells
  | notEqual => exact hpair _ _ _ rfl fun rest => rfl
  | lesserOrEqual => exact hpair _ _ _ rfl fun rest => rfl
  | greaterOrEqual => exact hpair _ _ _ rfl fun rest => rfl
  | lesser =>
      refine hsingle _ _ rfl ?_
      intro after hbounded
      cases after with
      | nil => rfl
      | cons c rest =>
          rcases boundary_cases (hbounded c rfl) with rfl | rfl | rfl | rfl <;> rfl
  | greater =>
      refine hsingle _ _ rfl ?_
      intro after hbounded
      cases after with
      | nil => rfl
      | cons c rest =>
          rcases boundary_cases (hbounded c rfl) with rfl | rfl | rfl | rfl <;> rfl

end Symbols

section Words

/-- Whether a text has the form of a word. -/
def isWord : List Char → Bool
  | [] => false
  | first :: rest => isWordStart first && rest.all isWordChar

theorem isWord_of_isPlainWord {name : String} (h : isPlainWord d name = true) :
    isWord name.toList = true ∧ classifyWord d name = .identifier name := by
  unfold isPlainWord at h
  split at h
  · cases h
  · rename_i first rest htext
    simp only [Bool.and_eq_true, beq_iff_eq] at h
    refine ⟨?_, h.2⟩
    rw [htext]
    simp only [isWord, Bool.and_eq_true]
    exact h.1

theorem isWordStart_of_isDigit {c : Char} (h : c.isDigit = true) : isWordStart c = false := by
  have hascii : ∀ n : Fin 128, (Char.ofNat n).isDigit = true →
      isWordStart (Char.ofNat n) = false := by
    decide +kernel
  have hsmall : c.toNat < 128 := by
    simp only [Char.isDigit, Bool.and_eq_true, decide_eq_true_eq] at h
    have hnine : c.toNat ≤ 57 := UInt32.le_iff_toNat_le.mp h.2
    omega
  have hdigit := hascii ⟨c.toNat, hsmall⟩
  rw [Char.ofNat_toNat] at hdigit
  exact hdigit h

/-- The members of a set with an upper end, one by one. -/
def members : Boundaries → List Nat
  | first :: second :: later => List.range' first (second - first) ++ members later
  | _ => []

theorem mem_members {point : Nat} : ∀ {boundaries : Boundaries}, boundaries.length % 2 = 0 →
    inside boundaries point = true → point ∈ members boundaries
  | [], _, h => nomatch h
  | [_], hlength, _ => nomatch hlength
  | first :: second :: later, hlength, h => by
      have hlater : later.length % 2 = 0 := by
        simp only [List.length_cons] at hlength
        omega
      rw [members, List.mem_append, List.mem_range'_1]
      simp only [inside] at h
      split at h
      · cases h
      · split at h
        · left
          omega
        · right
          exact mem_members hlater (by simpa using h)

theorem isWordStart_of_isBlank {c : Char} (h : isBlank c = true) : isWordStart c = false := by
  have hall : ∀ n ∈ members blankBoundaries,
      inside alphabeticBoundaries n = false ∧ n ≠ '_'.toNat := by
    decide +kernel
  obtain ⟨hletter, hline⟩ := hall _ (mem_members rfl h)
  have hne : c ≠ '_' := by
    rintro rfl
    exact hline rfl
  simp [isWordStart, isLetter, hletter, hne]

theorem isBlank_of_isDigit {c : Char} (h : c.isDigit = true) : isBlank c = false := by
  have hall : ∀ n ∈ members blankBoundaries, (Char.ofNat n).isDigit = false := by
    decide +kernel
  cases hblank : isBlank c with
  | false => rfl
  | true =>
      have hnot := hall _ (mem_members rfl hblank)
      rw [Char.ofNat_toNat, h] at hnot
      cases hnot

theorem lexeme_word {first : Char} {rest after : List Char} (hfirst : isWordStart first = true)
    (hrest : rest.all isWordChar = true) (hafter : ∀ c ∈ after.head?, isWordChar c = false) :
    lexeme d first (rest ++ after) =
      .ok (classifyWord d (String.ofList (first :: rest)), first :: rest) := by
  have hne : ∀ c : Char, isWordStart c = false → first ≠ c := by
    rintro c hc rfl
    rw [hfirst] at hc
    cases hc
  have hdigit : first.isDigit = false := by
    cases hdigit : first.isDigit with
    | false => rfl
    | true =>
        rw [isWordStart_of_isDigit hdigit] at hfirst
        cases hfirst
  have hnumber : startsNumber (first :: (rest ++ after)) = false := by
    unfold startsNumber
    split
    · rename_i heq
      exact absurd (List.cons.inj heq).1 (hne '.' (by decide +kernel))
    · rename_i heq
      rw [← (List.cons.inj heq).1]
      exact hdigit
    · rfl
  unfold lexeme
  rw [hnumber, if_neg (by simp), if_neg (hne '\'' (by decide +kernel)),
    if_neg (hne '"' (by decide +kernel)), if_pos hfirst,
    takeWhile_run (List.all_eq_true.mp hrest) hafter]

/-- A word is read as what the dialect makes of it, unless it goes on. -/
theorem lexed_word {word : String} (hword : isWord word.toList = true) {after : List Char}
    {ks : List TokenKind} (hbound : ∀ c ∈ after.head?, isWordChar c = false)
    (hafter : Lexed d after ks) :
    Lexed d (word.toList ++ after) (classifyWord d word :: ks) := by
  cases htext : word.toList with
  | nil =>
      rw [htext] at hword
      cases hword
  | cons first rest =>
      rw [htext] at hword
      simp only [isWord, Bool.and_eq_true] at hword
      have hkind : classifyWord d word = classifyWord d (String.ofList (first :: rest)) := by
        rw [← htext, String.ofList_toList]
      have hblank : isBlank first = false := by
        cases hblank : isBlank first with
        | false => rfl
        | true => exact absurd hword.1 (by simp [isWordStart_of_isBlank hblank])
      rw [hkind]
      exact hafter.cons hblank (lexeme_word hword.1 hword.2 hbound) rfl

theorem spells_word {word : String} (hword : isWord word.toList = true) :
    Spells d word.toList [classifyWord d word] := by
  intro after ks hbounded hafter
  refine lexed_word hword ?_ hafter
  intro c hc
  rcases boundary_cases (hbounded c hc) with rfl | rfl | rfl | rfl <;> decide +kernel

end Words

section Numbers

variable {n : Numeral} {after : List Char}

/-- A number does not go on with a boundary. -/
theorem Bounded.stops (h : Bounded after) :
    ∀ c ∈ after.head?, c.isDigit = false ∧ c ≠ '.' ∧ isExponentMark c = false := by
  intro c hc
  rcases boundary_cases (h c hc) with rfl | rfl | rfl | rfl <;> decide

theorem isFraction_fractionText (hn : n.WellFormed) : IsFraction n.fractionText := by
  have hdigits := hn.fraction
  unfold Numeral.fractionText
  cases hfraction : n.fraction with
  | nil => exact .none
  | cons c rest =>
      rw [hfraction] at hdigits
      exact .digits ⟨by simp, hdigits⟩

theorem isExponent_exponentText (n : Numeral) : IsExponent n.exponentText := by
  unfold Numeral.exponentText
  cases n.exponent with
  | none => exact .none
  | some e =>
      have hdigits : IsDigits (Nat.toDigits 10 e.natAbs) :=
        ⟨Nat.toDigits_ne_nil, toDigits_all e.natAbs⟩
      by_cases hneg : e < 0
      · simp only [hneg, if_true]
        exact .signed rfl rfl hdigits
      · simp only [hneg, if_false]
        exact .unsigned rfl hdigits

/-- The scanner finds the parts of a numeral. -/
theorem numberParts_numeral (hn : n.WellFormed) (h : Bounded after) :
    NumberParts.of (n.text ++ after) = ⟨n.whole, n.fractionText, n.exponentText⟩ :=
  @NumberParts.of_append ⟨n.whole, n.fractionText, n.exponentText⟩
    ⟨hn.whole, isFraction_fractionText hn, isExponent_exponentText n, .inl hn.nonempty⟩ _ h.stops

theorem numberLexeme_numeral (hn : n.WellFormed)
    (hfinite : n.fractional = true → isFiniteNumber n.text = true) (h : Bounded after) :
    numberLexeme (n.text ++ after) = .ok (.number (String.ofList n.text), n.text) := by
  have hparts := numberParts_numeral hn h
  have htext : (NumberParts.of (n.text ++ after)).text = n.text := by
    rw [hparts]
    rfl
  have hfractional : (NumberParts.of (n.text ++ after)).fractional = n.fractional := by
    rw [hparts]
    unfold NumberParts.fractional Numeral.fractional Numeral.fractionText Numeral.exponentText
    cases n.fraction with
    | nil => cases n.exponent <;> rfl
    | cons first rest => rfl
  have hattached : after.takeWhile isWordChar = [] := by
    have hbound : ∀ c ∈ after.head?, isWordChar c = false := by
      intro c hc
      rcases boundary_cases (h c hc) with rfl | rfl | rfl | rfl <;> decide +kernel
    cases after with
    | nil => rfl
    | cons c rest => exact List.takeWhile_cons_of_neg (by simp [hbound c rfl])
  unfold numberLexeme
  simp only [htext, hfractional, List.drop_left, hattached, List.isEmpty_nil, Bool.not_true]
  rw [if_neg (by simp), if_neg]
  intro hspoiled
  simp only [Bool.and_eq_true, Bool.not_eq_true'] at hspoiled
  rw [hfinite hspoiled.1] at hspoiled
  cases hspoiled.2

theorem spells_numeral (hn : n.WellFormed)
    (hfinite : n.fractional = true → isFiniteNumber n.text = true) :
    Spells d n.text [.number (String.ofList n.text)] := by
  intro after ks hbounded hafter
  have hlexeme := numberLexeme_numeral hn hfinite hbounded
  obtain ⟨c, rest, hdigit, htext⟩ := Numeral.exists_text_cons hn
  have hblank := isBlank_of_isDigit hdigit
  rw [htext] at hlexeme ⊢
  have hstart : startsNumber (c :: (rest ++ after)) = true := startsNumber_of_isDigit hdigit _
  have hnumber : lexeme d c (rest ++ after) = numberLexeme (c :: (rest ++ after)) := by
    unfold lexeme
    rw [hstart, if_pos rfl]
  exact hafter.cons hblank (hnumber.trans hlexeme) rfl

end Numbers

section Quotations

variable {mark : Char}

/-- A text with the marks in it doubled. -/
def doubled (mark : Char) (text : List Char) : List Char :=
  text.flatMap fun c => if c = mark then [c, c] else [c]

theorem toList_between (mark : Char) (text : String) :
    (Writing.between mark text).toList = mark :: (doubled mark text.toList ++ [mark]) :=
  String.toList_ofList

theorem quotedRun_cons {c : Char} (hc : c ≠ mark) (text : List Char) :
    quotedRun mark (c :: text) =
      (quotedRun mark text).map fun found => (c :: found.1, c :: found.2) := by
  cases text with
  | nil => simp [quotedRun, hc]
  | cons next rest => simp [quotedRun, hc]

/-- What stands in front of a quotation's end belongs to the quotation. -/
theorem quotedRun_append (text after : List Char) :
    quotedRun mark (doubled mark text ++ after) =
      (quotedRun mark after).map fun found => (text ++ found.1, doubled mark text ++ found.2) := by
  induction text with
  | nil => simp [doubled]
  | cons c rest ih =>
      by_cases hc : c = mark
      · have hdoubled : doubled mark (c :: rest) = mark :: mark :: doubled mark rest := by
          simp [doubled, hc]
        rw [hdoubled, hc]
        simp [quotedRun, ih, Function.comp_def]
      · have hdoubled : doubled mark (c :: rest) = c :: doubled mark rest := by
          simp [doubled, hc]
        rw [hdoubled, List.cons_append, quotedRun_cons hc, ih]
        simp [Function.comp_def]

theorem quotedRun_mark {after : List Char} (hafter : after.head? ≠ some mark) :
    quotedRun mark (mark :: after) = some ([], [mark]) := by
  cases after with
  | nil => simp [quotedRun]
  | cons c rest =>
      have hne : c ≠ mark := by
        rintro rfl
        exact hafter rfl
      simp [quotedRun, hne]

theorem quotedRun_doubled {after : List Char} (hafter : after.head? ≠ some mark)
    (text : List Char) :
    quotedRun mark (doubled mark text ++ mark :: after) =
      some (text, doubled mark text ++ [mark]) := by
  rw [quotedRun_append, quotedRun_mark hafter]
  simp

/-- A text between marks is read as a quotation. -/
theorem spells_between {quotation : Quotation} {kind : String → TokenKind}
    (hblank : isBlank mark = false) (hboundary : isBoundary mark = false)
    (hlexeme : ∀ rest, lexeme d mark rest = quotedLexeme mark quotation kind rest)
    (text : String) : Spells d (Writing.between mark text).toList [kind text] := by
  intro after ks hbounded hafter
  have hhead : after.head? ≠ some mark := by
    intro hmark
    rw [hbounded mark hmark] at hboundary
    cases hboundary
  have hquoted : lexeme d mark (doubled mark text.toList ++ mark :: after) =
      .ok (kind text, mark :: (doubled mark text.toList ++ [mark])) := by
    rw [hlexeme]
    unfold quotedLexeme
    rw [quotedRun_doubled hhead]
    simp only [String.ofList_toList]
  rw [toList_between, List.cons_append, List.append_assoc, List.singleton_append]
  exact hafter.cons hblank hquoted (by simp)

theorem spells_stringText (text : String) :
    Spells d (Writing.stringText text).toList [.string text] :=
  spells_between rfl rfl (fun rest => by cases rest <;> rfl) text

/-- Double quotation marks make an identifier where the dialect says so. -/
theorem spells_quotedIdentifier (h : d.doubleQuotes = .identifier) (text : String) :
    Spells d (Writing.between '"' text).toList [.quotedIdentifier text] := by
  have hlexeme : ∀ rest, lexeme d '"' rest =
      quotedLexeme '"' .quotedIdentifier .quotedIdentifier rest := by
    intro rest
    have hnumber : startsNumber ('"' :: rest) = false := by cases rest <;> rfl
    unfold lexeme
    simp only [hnumber, h]
    rfl
  exact spells_between rfl rfl hlexeme text

end Quotations

end GeoFilter
