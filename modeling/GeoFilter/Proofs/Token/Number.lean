import GeoFilter.Proofs.Number.Numeral
import GeoFilter.Proofs.Number.Overflow
import GeoFilter.Proofs.Token.Lexeme

/-!
Numbers by their grammar: digits, a fraction and an exponent, of which only the exponent
can be left out everywhere. The scanner finds the parts of the longest number at the front
of a text, and the text of a number is read as the value of its parts.
-/

namespace GeoFilter

open Number Text

/-- At least one digit, and nothing else. -/
structure IsDigits (text : List Char) : Prop where
  nonempty : text ≠ []
  all : ∀ c ∈ text, c.isDigit = true

/-- Digits behind a point, or nothing. -/
inductive IsFraction : List Char → Prop where
  | none : IsFraction []
  | digits {digits : List Char} (h : IsDigits digits) : IsFraction ('.' :: digits)

/-- Digits behind a mark and possibly a sign, or nothing. -/
inductive IsExponent : List Char → Prop where
  | none : IsExponent []
  | unsigned {mark : Char} {digits : List Char} (hmark : isExponentMark mark = true)
      (hdigits : IsDigits digits) : IsExponent (mark :: digits)
  | signed {mark sign : Char} {digits : List Char} (hmark : isExponentMark mark = true)
      (hsign : isSign sign = true) (hdigits : IsDigits digits) :
      IsExponent (mark :: sign :: digits)

namespace NumberParts

/-- The power of ten in the exponent. -/
def power (parts : NumberParts) : Int :=
  let (negative, digits) := splitSign parts.exponent.tail
  if negative then -(natOfDigits digits : Int) else natOfDigits digits

/-- The exact value of a number. -/
def value (parts : NumberParts) : ℚ :=
  natOfDigits (parts.whole ++ parts.fraction.tail) *
    10 ^ (parts.power - parts.fraction.tail.length)

structure WellFormed (parts : NumberParts) : Prop where
  whole : ∀ c ∈ parts.whole, c.isDigit = true
  fraction : IsFraction parts.fraction
  exponent : IsExponent parts.exponent
  nonempty : parts.whole ≠ [] ∨ parts.fraction ≠ []

end NumberParts

section Pieces

variable {digits text after : List Char}

theorem digitsOf_append (h : ∀ c ∈ digits, c.isDigit = true) (after : List Char) :
    digitsOf (digits ++ after) = digits ++ digitsOf after :=
  List.takeWhile_append_of_pos h

theorem digitsOf_eq_nil (h : ∀ c ∈ text.head?, c.isDigit = false) : digitsOf text = [] := by
  cases text with
  | nil => rfl
  | cons c rest => exact List.takeWhile_cons_of_neg (by simp [h c rfl])

theorem isDigits_digitsOf (h : digitsOf text ≠ []) : IsDigits (digitsOf text) :=
  ⟨h, fun _ hc => isDigit_of_mem_digitsOf hc⟩

theorem IsDigits.exists_cons (h : IsDigits digits) :
    ∃ (c : Char) (rest : List Char), c.isDigit = true ∧ digits = c :: rest := by
  obtain ⟨c, rest, rfl⟩ := List.exists_cons_of_ne_nil h.nonempty
  exact ⟨c, rest, h.all c List.mem_cons_self, rfl⟩

theorem fractionOf_append (h : IsDigits digits) (after : List Char) :
    fractionOf ('.' :: digits ++ after) = '.' :: digits ++ digitsOf after := by
  have hdigits := digitsOf_append h.all after
  obtain ⟨c, rest, hc, rfl⟩ := h.exists_cons
  change (if c.isDigit = true then '.' :: digitsOf (c :: rest ++ after) else []) = _
  rw [if_pos hc, hdigits]
  rfl

theorem fractionOf_eq_nil (h : ∀ c ∈ text.head?, c ≠ '.') : fractionOf text = [] := by
  unfold fractionOf
  split
  · exact absurd rfl (h '.' rfl)
  · rfl

theorem isFraction_fractionOf (text : List Char) : IsFraction (fractionOf text) := by
  unfold fractionOf
  split
  · split
    · rename_i c rest hdigit
      exact .digits (isDigits_digitsOf (digitsOf_ne_nil hdigit rest))
    · exact .none
  · exact .none

theorem not_isDigit_of_isSign {c : Char} (h : isSign c = true) : c.isDigit = false := by
  simp only [isSign, Bool.or_eq_true, beq_iff_eq] at h
  rcases h with rfl | rfl <;> rfl

theorem exponentOf_append {exponent : List Char} (h : IsExponent exponent) (hne : exponent ≠ [])
    (after : List Char) : exponentOf (exponent ++ after) = exponent ++ digitsOf after := by
  cases h with
  | none => exact absurd rfl hne
  | @unsigned mark digits hmark hdigits =>
      have hall := digitsOf_append hdigits.all after
      obtain ⟨c, rest, hc, rfl⟩ := hdigits.exists_cons
      simp only [List.cons_append] at hall ⊢
      simp only [exponentOf, hmark, hc, if_true, hall]
  | @signed mark sign digits hmark hsign hdigits =>
      have hall := digitsOf_append hdigits.all after
      have hempty : (digits ++ digitsOf after).isEmpty = false := by
        simp [hdigits.nonempty]
      simp [exponentOf, hmark, not_isDigit_of_isSign hsign, hsign, hall, hempty]

theorem exponentOf_eq_nil (h : ∀ c ∈ text.head?, isExponentMark c = false) :
    exponentOf text = [] := by
  unfold exponentOf
  split
  · rename_i mark c rest
    simp [h mark rfl]
  · rfl

theorem isExponent_exponentOf (text : List Char) : IsExponent (exponentOf text) := by
  unfold exponentOf
  split
  · rename_i mark c rest
    split
    · rename_i hmark
      split
      · rename_i hdigit
        exact .unsigned hmark (isDigits_digitsOf (digitsOf_ne_nil hdigit rest))
      · split
        · rename_i hsign
          simp only [Bool.and_eq_true, Bool.not_eq_true', List.isEmpty_eq_false_iff] at hsign
          exact .signed hmark hsign.1 (isDigits_digitsOf hsign.2)
        · exact .none
    · exact .none
  · exact .none

theorem IsExponent.mark {exponent : List Char} (h : IsExponent exponent) :
    ∀ c ∈ exponent.head?, isExponentMark c = true := by
  intro c hc
  cases h with
  | none => cases hc
  | unsigned hmark hdigits =>
      cases hc
      exact hmark
  | signed hmark hsign hdigits =>
      cases hc
      exact hmark

theorem mark_cases {c : Char} (h : isExponentMark c = true) :
    c.isDigit = false ∧ c ≠ '.' := by
  simp only [isExponentMark, Bool.or_eq_true, beq_iff_eq] at h
  rcases h with rfl | rfl <;> exact ⟨rfl, by decide⟩

/-- A fraction that does not go on is all there is behind the digits. -/
theorem IsFraction.fractionOf_eq {fraction rest : List Char} (h : IsFraction fraction)
    (hrest : ∀ c ∈ rest.head?, c.isDigit = false ∧ c ≠ '.') :
    fractionOf (fraction ++ rest) = fraction := by
  cases h with
  | none => exact fractionOf_eq_nil fun c hc => (hrest c hc).2
  | digits hdigits =>
      rw [fractionOf_append hdigits, digitsOf_eq_nil fun c hc => (hrest c hc).1, List.append_nil]

theorem IsFraction.not_digit {fraction rest : List Char} (h : IsFraction fraction)
    (hrest : ∀ c ∈ rest.head?, c.isDigit = false) :
    ∀ c ∈ (fraction ++ rest).head?, c.isDigit = false := by
  intro c hc
  cases h with
  | none => exact hrest c hc
  | digits hdigits =>
      cases hc
      rfl

/-- The point of a fraction and the digits behind it. -/
theorem IsFraction.point {fraction : List Char} (h : IsFraction fraction) :
    (fraction = [] ∧ fraction.tail = [] ∨ fraction = '.' :: fraction.tail) ∧
      (∀ c ∈ fraction.tail, c.isDigit = true) ∧ (fraction ≠ [] → fraction.tail ≠ []) := by
  cases h with
  | none => exact ⟨.inl ⟨rfl, rfl⟩, by simp, by simp⟩
  | digits hdigits => exact ⟨.inr rfl, hdigits.all, fun _ => hdigits.nonempty⟩

theorem digitsOf_append_drop (text : List Char) :
    digitsOf text ++ text.drop (digitsOf text).length = text :=
  List.prefix_iff_eq_append.mp (isPrefix_digitsOf text)

theorem startsNumber_of_isDigit {c : Char} (h : c.isDigit = true) (rest : List Char) :
    startsNumber (c :: rest) = true := by
  unfold startsNumber
  split
  · rename_i heq
    rw [(List.cons.inj heq).1] at h
    cases h
  · rename_i heq
    rw [← (List.cons.inj heq).1]
    exact h
  · rename_i heq
    cases heq

end Pieces

namespace NumberParts

variable {parts : NumberParts}

section Scanning

variable {whole fraction exponent rest : List Char}

theorem of_eq (hwhole : digitsOf (whole ++ (fraction ++ rest)) = whole)
    (hfraction : fractionOf (fraction ++ rest) = fraction) (hexponent : exponentOf rest = exponent) :
    of (whole ++ (fraction ++ rest)) = ⟨whole, fraction, exponent⟩ := by
  unfold of
  simp only [hwhole, List.drop_left, hfraction, ← List.drop_drop, hexponent]

/-- The digits in front of a fraction are all the digits there are. -/
theorem digitsOf_whole (hwhole : ∀ c ∈ whole, c.isDigit = true)
    (hrest : ∀ c ∈ rest.head?, c.isDigit = false) : digitsOf (whole ++ rest) = whole := by
  rw [digitsOf_append hwhole, digitsOf_eq_nil hrest, List.append_nil]

/-- A number with an exponent can only go on with digits of the exponent. -/
theorem of_exponent (h : parts.WellFormed) (hexponent : parts.exponent ≠ []) (after : List Char) :
    of (parts.text ++ after) =
      ⟨parts.whole, parts.fraction, parts.exponent ++ digitsOf after⟩ := by
  have hmark : ∀ c ∈ (parts.exponent ++ after).head?, c.isDigit = false ∧ c ≠ '.' := by
    intro c hc
    rw [List.head?_append_of_ne_nil _ hexponent] at hc
    exact mark_cases (h.exponent.mark c hc)
  have hwhole := digitsOf_whole h.whole (h.fraction.not_digit fun c hc => (hmark c hc).1)
  have hof := of_eq hwhole (h.fraction.fractionOf_eq hmark)
    (exponentOf_append h.exponent hexponent after)
  simpa [text] using hof

/-- A number with a fraction and no exponent can go on with digits and an exponent. -/
theorem of_fraction (h : parts.WellFormed) (hexponent : parts.exponent = [])
    (hfraction : parts.fraction ≠ []) (after : List Char) :
    of (parts.text ++ after) = ⟨parts.whole, parts.fraction ++ digitsOf after,
      exponentOf (after.drop (digitsOf after).length)⟩ := by
  obtain ⟨whole, fraction, exponent⟩ := parts
  obtain ⟨hwhole, hpoint, -, -⟩ := h
  simp only at hexponent hfraction hwhole hpoint ⊢
  subst hexponent
  cases hpoint with
  | none => exact absurd rfl hfraction
  | @digits digits hdigits =>
      have hafter := digitsOf_append_drop after
      have hlonger := fractionOf_append hdigits after
      have hpoint : ∀ c ∈ ('.' :: digits ++ after).head?, c.isDigit = false := by
        intro c hc
        cases hc
        rfl
      have hof := @of_eq whole ('.' :: digits ++ digitsOf after) _
        (after.drop (digitsOf after).length) (by
          rw [List.append_assoc, hafter]
          exact digitsOf_whole hwhole hpoint) (by rw [List.append_assoc, hafter, hlonger]) rfl
      rw [List.append_assoc, hafter] at hof
      simpa [text] using hof

/-- Digits can go on with digits, a fraction and an exponent. -/
theorem of_whole (h : parts.WellFormed) (hexponent : parts.exponent = [])
    (hfraction : parts.fraction = []) (after : List Char) :
    of (parts.text ++ after) = { of after with whole := parts.whole ++ digitsOf after } := by
  have htext : parts.text = parts.whole := by
    simp [text, hexponent, hfraction]
  have hdrop : ∀ k, (parts.whole ++ after).drop ((parts.whole ++ digitsOf after).length + k) =
      after.drop ((digitsOf after).length + k) := by
    intro k
    rw [List.length_append, Nat.add_assoc, ← List.drop_drop, List.drop_left]
  have hdrop0 := hdrop 0
  rw [Nat.add_zero, Nat.add_zero] at hdrop0
  rw [htext]
  unfold of
  simp only [digitsOf_append h.whole after, hdrop0, hdrop]

end Scanning

/-- The scanner goes at least as far as any number at the front of a text. -/
theorem length_text_le (h : parts.WellFormed) (after : List Char) :
    parts.text.length ≤ (of (parts.text ++ after)).text.length := by
  by_cases hexponent : parts.exponent = []
  · by_cases hfraction : parts.fraction = []
    · rw [of_whole h hexponent hfraction]
      simp only [text, hexponent, hfraction, List.length_append, List.length_nil]
      omega
    · rw [of_fraction h hexponent hfraction]
      simp only [text, hexponent, List.length_append, List.length_nil]
      omega
  · rw [of_exponent h hexponent]
    simp only [text, List.length_append]
    omega

/-- The parts of a number are found again if it does not go on. -/
theorem of_append (h : parts.WellFormed) {after : List Char}
    (hafter : ∀ c ∈ after.head?, c.isDigit = false ∧ c ≠ '.' ∧ isExponentMark c = false) :
    of (parts.text ++ after) = parts := by
  have hdigits := digitsOf_eq_nil fun c hc => (hafter c hc).1
  have hpoint := fractionOf_eq_nil fun c hc => (hafter c hc).2.1
  have hmark := exponentOf_eq_nil fun c hc => (hafter c hc).2.2
  obtain ⟨whole, fraction, exponent⟩ := parts
  by_cases hexponent : exponent = []
  · subst hexponent
    by_cases hfraction : fraction = []
    · subst hfraction
      rw [of_whole h rfl rfl]
      simp only [of, hdigits, List.append_nil, List.length_nil, List.drop_zero, hpoint, Nat.add_zero,
        hmark]
    · rw [of_fraction h rfl hfraction]
      simp only [hdigits, List.append_nil, List.length_nil, List.drop_zero, hmark]
  · rw [of_exponent h hexponent, hdigits, List.append_nil]

/-- The text of a number has only one reading as a number. -/
theorem text_injective {other : NumberParts} (h : parts.WellFormed) (hother : other.WellFormed)
    (htext : parts.text = other.text) : parts = other := by
  have hparts := @of_append _ h [] (by simp)
  have hothers := @of_append _ hother [] (by simp)
  rw [← hparts, ← hothers, htext]

theorem wellFormed_of {c : Char} {rest : List Char} (h : startsNumber (c :: rest) = true) :
    (of (c :: rest)).WellFormed where
  whole := fun _ hc => isDigit_of_mem_digitsOf hc
  fraction := isFraction_fractionOf _
  exponent := isExponent_exponentOf _
  nonempty := numberParts_nonempty h

/-- The text of a number begins with a digit, or with a point and a digit. -/
theorem text_cases (h : parts.WellFormed) :
    ∃ (c : Char) (rest : List Char), parts.text = c :: rest ∧
      (c.isDigit = true ∨ c = '.' ∧ ∃ next later, rest = next :: later ∧ next.isDigit = true) := by
  obtain ⟨whole, fraction, exponent⟩ := parts
  obtain ⟨hwhole, hpoint, -, hnonempty⟩ := h
  simp only at hwhole hpoint hnonempty
  cases whole with
  | cons c rest =>
      exact ⟨c, rest ++ fraction ++ exponent, by simp [text], .inl (hwhole c List.mem_cons_self)⟩
  | nil =>
      cases hpoint with
      | none => simp at hnonempty
      | digits hdigits =>
          obtain ⟨next, later, hnext, rfl⟩ := hdigits.exists_cons
          exact ⟨'.', next :: later ++ exponent, rfl, .inr ⟨rfl, next, later ++ exponent, rfl, hnext⟩⟩

theorem startsNumber_text (h : parts.WellFormed) (after : List Char) :
    startsNumber (parts.text ++ after) = true := by
  obtain ⟨c, rest, htext, hdigit | ⟨rfl, next, later, rfl, hnext⟩⟩ := text_cases h
  · rw [htext]
    exact startsNumber_of_isDigit hdigit _
  · rw [htext]
    exact hnext

theorem readExponent_exponent (h : IsExponent parts.exponent) :
    readExponent parts.exponent = some parts.power := by
  unfold power
  generalize parts.exponent = exponent at h
  cases h with
  | none => rfl
  | @unsigned mark digits hmark hdigits =>
      have hsplit : splitSign digits = (false, digits) := by
        obtain ⟨c, rest, hc, rfl⟩ := hdigits.exists_cons
        exact splitSign_digit hc rest
      rw [readExponent_of_split hmark hsplit hdigits.nonempty hdigits.all, List.tail_cons, hsplit]
  | @signed mark sign digits hmark hsign hdigits =>
      obtain ⟨negative, hsplit⟩ : ∃ negative, splitSign (sign :: digits) = (negative, digits) := by
        simp only [isSign, Bool.or_eq_true, beq_iff_eq] at hsign
        rcases hsign with rfl | rfl
        · exact ⟨false, rfl⟩
        · exact ⟨true, rfl⟩
      rw [readExponent_of_split hmark hsplit hdigits.nonempty hdigits.all, List.tail_cons, hsplit]

/-- The text of a number is read as the number nearest to its value. -/
theorem readFloat_text (h : parts.WellFormed) :
    readFloat parts.text = .ok (Decimal.normal (parts.whole ++ parts.fraction.tail)
      (parts.power - parts.fraction.tail.length)).toFloat := by
  obtain ⟨hpoint, hdigits, hbehind⟩ := h.fraction.point
  have hdecimal := readDecimal_parts h.whole hdigits hpoint (readExponent_exponent h.exponent)
    (h.nonempty.imp_right hbehind)
  obtain ⟨c, rest, htext, hhead⟩ := text_cases h
  have hc : c.isDigit = true ∨ c = '.' := hhead.imp_right And.left
  unfold text at htext ⊢
  rw [htext] at hdecimal ⊢
  exact readFloat_of_readDecimal hc hdecimal

theorem saturates_text (h : parts.WellFormed) : ∃ magnitude,
    readFloat parts.text = .ok magnitude ∧ Saturates magnitude.toModel.unpack parts.value := by
  refine ⟨_, readFloat_text h, ?_⟩
  have hsaturates := Decimal.saturates_toFloat (Decimal.normal (parts.whole ++ parts.fraction.tail)
    (parts.power - parts.fraction.tail.length))
  rwa [Decimal.value_normal] at hsaturates

/-- A number is finite as long as its value stays below the bound. -/
theorem isFiniteNumber_text (h : parts.WellFormed) :
    isFiniteNumber parts.text = true ↔ parts.value < overflowBound := by
  obtain ⟨magnitude, hread, hsaturates⟩ := saturates_text h
  unfold isFiniteNumber
  rw [hread]
  exact hsaturates.isFinite

end NumberParts

end GeoFilter
