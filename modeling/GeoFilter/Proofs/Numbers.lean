import GeoFilter.Proofs.RoundTrip
import GeoFilter.Proofs.Token.Longest

/-!
The numbers of a tree that a text denotes. The scanner refuses a number with a fraction or an
exponent from the overflow bound on; digits alone it leaves to the parser. The parser refuses
them as an integer that is too large, but not as an ordinate, so that an ordinate is infinite
from the bound on.
-/

namespace GeoFilter

open Grammar Number Text

variable {d : Dialect} {text : String}

/-- A float that is read as an ordinate from a number of the text, with or without a sign in
front. -/
structure ReadsOrdinate (d : Dialect) (text : String) (parts : NumberParts) (value : Float) :
    Prop where
  token : ∃ tokens, tokenize d text = .ok tokens ∧
    ∃ token ∈ tokens, token.kind = .number (String.ofList parts.text)
  wellFormed : parts.WellFormed
  reading : ∃ magnitude, readFloat parts.text = .ok magnitude ∧
    (value = magnitude ∨ value = -magnitude)
  isNaN : value.isNaN = false
  isFinite : value.isFinite = true ↔ parts.value < overflowBound
  checked : parts.fractional = true → parts.value < overflowBound

theorem classifyWord_ne_number (word digits : String) : classifyWord d word ≠ .number digits := by
  unfold classifyWord
  split
  · simp
  · split
    · simp
    · split <;> simp

/-- A number that the scanner finds stays below the bound unless it consists of digits. -/
theorem number_of_lexeme {c : Char} {rest run : List Char} {digits : String}
    (h : lexeme d c rest = .ok (.number digits, run)) :
    ∃ parts : NumberParts, parts.WellFormed ∧ digits = String.ofList parts.text ∧
      (parts.fractional = true → parts.value < overflowBound) := by
  have hfinds := findsLongest_lexeme d c rest
  rw [h] at hfinds
  obtain ⟨after, -, ⟨htoken, -⟩, hsound⟩ := hfinds
  -- Of the four sorts of tokens only numbers are of this kind.
  generalize hkind : TokenKind.number digits = kind at htoken
  cases htoken with
  | word hfirst hrest => exact absurd hkind.symm (classifyWord_ne_number _ _)
  | number hparts =>
      cases hkind
      refine ⟨_, hparts, rfl, fun hfractional => ?_⟩
      by_contra hvalue
      exact hsound (.outOfRange hparts hfractional (not_lt.mp hvalue))
  | quotation hmark value =>
      unfold quotationKind at hkind
      split at hkind <;> cases hkind
  | symbol hsymbol => cases hsymbol <;> cases hkind

theorem number_of_tokenize {tokens : List Token} (h : tokenize d text = .ok tokens)
    {digits : String} (hdigits : .number digits ∈ meaningfulKinds tokens) :
    (∃ token ∈ tokens, token.kind = .number digits) ∧
      ∃ parts : NumberParts, parts.WellFormed ∧ digits = String.ofList parts.text ∧
        (parts.fractional = true → parts.value < overflowBound) := by
  obtain ⟨token, htoken, hkind⟩ : ∃ token ∈ tokens, token.kind = .number digits := by
    simpa using (List.takeWhile_sublist _).mem hdigits
  refine ⟨⟨token, htoken, hkind⟩, ?_⟩
  obtain ⟨-, rfl⟩ := tokenize_eq_ok_iff.mp h
  obtain ⟨c, rest, run, hlexeme⟩ :=
    (tokenized_tokenStream d text).lexemes token htoken (by simp [hkind])
  rw [hkind] at hlexeme
  exact number_of_lexeme hlexeme

/-- The ordinates of a parsed tree are read from numbers of the text. -/
theorem readsOrdinate_of_isOrdinate {tokens : List Token} (h : tokenize d text = .ok tokens)
    {value : Float} (hvalue : (vocabulary h).IsOrdinate value) :
    ∃ parts, ReadsOrdinate d text parts value := by
  obtain ⟨negative, digits, hdigits, hordinate⟩ := hvalue
  obtain ⟨htoken, parts, hparts, rfl, hchecked⟩ := number_of_tokenize h hdigits
  obtain ⟨magnitude, hread, hsaturates⟩ := NumberParts.saturates_text hparts
  unfold Check.ordinate at hordinate
  rw [String.toList_ofList, hread] at hordinate
  obtain ⟨hsign, hsaturates⟩ : (value = magnitude ∨ value = -magnitude) ∧
      Saturates value.toModel.unpack parts.value := by
    cases negative with
    | true =>
        cases hordinate
        exact ⟨.inr rfl, saturates_neg hsaturates⟩
    | false =>
        cases hordinate
        exact ⟨.inl rfl, hsaturates⟩
  exact ⟨parts, ⟨tokens, h, htoken⟩, hparts, ⟨magnitude, hread, hsign⟩, hsaturates.isNaN,
    hsaturates.isFinite, hchecked⟩

section Points

variable {x y : List Char}

/-- The text of a point with two numbers. -/
def pointText (x y : List Char) : String :=
  GeometryType.point.name ++ Writing.parenthesised (String.ofList x ++ " " ++ String.ofList y)

def pointKinds (x y : List Char) : List TokenKind :=
  taggedKinds .point false [.number (String.ofList x), .number (String.ofList y)]

/-- Digits are a number, however many there are. -/
theorem spells_digits (h : IsDigits x) :
    Spells d (String.ofList x).toList [.number (String.ofList x)] := by
  have hnumeral : (Numeral.mk x [] none).WellFormed := ⟨h.nonempty, h.all, by simp⟩
  have htext : (Numeral.mk x [] none).text = x := by
    simp [Numeral.text, Numeral.fractionText, Numeral.exponentText]
  have hspells := @spells_numeral d _ hnumeral (fun hfractional => by cases hfractional)
  rw [htext] at hspells
  rwa [String.toList_ofList]

theorem exists_readFloat_digits (h : IsDigits x) : ∃ value, readFloat x = .ok value ∧
    (value.isFinite = true ↔ (natOfDigits x : ℚ) < overflowBound) := by
  have hparts : (NumberParts.mk x [] []).WellFormed := ⟨h.all, .none, .none, .inl h.nonempty⟩
  have htext : (NumberParts.mk x [] []).text = x := by simp [NumberParts.text]
  have hvalue : (NumberParts.mk x [] []).value = natOfDigits x := by
    simp [NumberParts.value, NumberParts.power, splitSign, natOfDigits]
  obtain ⟨value, hread, hsaturates⟩ := NumberParts.saturates_text hparts
  rw [htext] at hread
  rw [hvalue] at hsaturates
  exact ⟨value, hread, hsaturates.isFinite⟩

/-- The scanner and the parser put no bound on the digits of an ordinate. -/
theorem exists_ordinate_digits (h : IsDigits x) : ∃ value : Float,
    Check.ordinate false (String.ofList x) = .ok value ∧
      (value.isFinite = true ↔ (natOfDigits x : ℚ) < overflowBound) := by
  obtain ⟨value, hread, hfinite⟩ := exists_readFloat_digits h
  refine ⟨value, ?_, hfinite⟩
  unfold Check.ordinate
  rw [String.toList_ofList, hread]
  rfl

theorem reads_pointKinds {a b : Float} (hx : Check.ordinate false (String.ofList x) = .ok a)
    (hy : Check.ordinate false (String.ofList y) = .ok b) :
    Reads d (disjunction d) (pointKinds x y)
      (.expression (.literal (.geometry (.point (some ⟨a, b, none⟩))))) [] .free := by
  have hgeometry : ∀ here : Mark, Reads d (fun inner => geometry d inner here .point)
      (enclosed [.number (String.ofList x), .number (String.ofList y)])
      (.point (some ⟨a, b, none⟩)) [] .free := by
    intro here
    apply Reads.step (reads_acceptNot (by simp [enclosed]))
    apply Reads.step reads_expect
    have hbody : ∀ opening : Mark, Reads d (fun inner => geometryBody d inner here opening .point)
        [.number (String.ofList x), .number (String.ofList y), .punctuation .closeParen]
        (.point (some ⟨a, b, none⟩)) [] .free := by
      intro opening
      have hcoordinate : Reads d (fun _ => coordinate)
          [.number (String.ofList x), .number (String.ofList y), .punctuation .closeParen]
          ⟨a, b, none⟩ [.punctuation .closeParen] .free := by
        apply Reads.step (reads_ordinate hx _)
        apply Reads.step (reads_ordinate hy _)
        apply Reads.step reads_peek
        exact reads_pure
      apply Reads.step hcoordinate
      apply Reads.step (reads_close opening)
      exact reads_pure
    apply Reads.step (hbody _)
    apply Reads.step (reads_checkNone rfl here)
    exact reads_pure
  have hunary : Reads d (unary d) (pointKinds x y)
      (.expression (.literal (.geometry (.point (some ⟨a, b, none⟩))))) [] .free := by
    apply reads_unary (by simp [pointKinds, taggedKinds])
    apply Reads.step reads_mark
    apply Reads.step reads_next
    apply Reads.step (hgeometry _)
    exact reads_pure
  have hadditive : Reads d (additive d) (pointKinds x y)
      (.expression (.literal (.geometry (.point (some ⟨a, b, none⟩))))) [] .free :=
    reads_chain_alone (reads_chain_alone hunary rfl) rfl
  exact reads_disjunction_of_additive hadditive (by simp [pointKinds, taggedKinds]) (.inl rfl)

/-- Digits are accepted as an ordinate, which is infinite from the bound on. -/
theorem exists_point (hdepth : 1 ≤ d.maxDepth) (hx : IsDigits x) (hy : IsDigits y) :
    ∃ a b, Expression.parse d (pointText x y) =
        .ok (.literal (.geometry (.point (some ⟨a, b, none⟩)))) ∧
      (a.isFinite = true ↔ (natOfDigits x : ℚ) < overflowBound) ∧
      (b.isFinite = true ↔ (natOfDigits y : ℚ) < overflowBound) := by
  obtain ⟨a, ha, hfiniteA⟩ := exists_ordinate_digits hx
  obtain ⟨b, hb, hfiniteB⟩ := exists_ordinate_digits hy
  have hspells : Spells d (pointText x y).toList (pointKinds x y) :=
    spells_tagged .point ((spells_digits hx).spaced (spells_digits hy))
  have hanswers := answers_of_settles hspells
    (settles_wholeExpression_of_reads (reads_pointKinds ha hb))
  exact ⟨a, b, hanswers.eq_ok rfl hdepth, hfiniteA, hfiniteB⟩

end Points

/-- Every number of a tree that a text denotes is finite, unless it is an ordinate that is read
from digits alone and their value is not below the bound; any such digits are accepted. -/
theorem parse_ordinates (d : Dialect) :
    (∀ text f, Filter.parse d text = .ok f →
      f.NumericWith fun value => ∃ parts, ReadsOrdinate d text parts value) ∧
      (∀ text e, Expression.parse d text = .ok e →
        e.NumericWith fun value => ∃ parts, ReadsOrdinate d text parts value) ∧
      (1 ≤ d.maxDepth → ∀ x y, IsDigits x → IsDigits y →
        ∃ a b, Expression.parse d (pointText x y) =
            .ok (.literal (.geometry (.point (some ⟨a, b, none⟩)))) ∧
          (a.isFinite = true ↔ (natOfDigits x : ℚ) < overflowBound) ∧
          (b.isFinite = true ↔ (natOfDigits y : ℚ) < overflowBound)) := by
  refine ⟨?_, ?_, fun hdepth x y hx hy => exists_point hdepth hx hy⟩
  · intro text f h
    obtain ⟨tokens, htokens, hbuilt⟩ := builtFrom_of_parseFilter h
    exact hbuilt.imp (fun _ hnode => hnode.numericWith.imp fun _ => readsOrdinate_of_isOrdinate htokens)
      fun _ hnode => hnode.numeric
  · intro text e h
    obtain ⟨tokens, htokens, hbuilt⟩ := builtFrom_of_parseExpression h
    exact hbuilt.imp fun _ hnode => hnode.numericWith.imp fun _ => readsOrdinate_of_isOrdinate htokens

/-- More digits than a finite number has. -/
def nines : List Char := List.replicate 310 '9'

theorem isDigits_nines : IsDigits nines where
  nonempty := List.ne_nil_of_length_eq_add_one List.length_replicate
  all := by
    intro c hc
    rw [List.eq_of_mem_replicate hc]
    rfl

theorem isDigits_zero : IsDigits ['0'] := ⟨by simp, List.forall_mem_singleton.mpr rfl⟩

theorem not_lt_overflowBound_nines : ¬(natOfDigits nines : ℚ) < overflowBound := by
  have hdigits : 2 ^ 1024 ≤ natOfDigits nines := by decide +kernel
  have hbound : (2 : ℚ) ^ 1024 ≤ natOfDigits nines := by exact_mod_cast hdigits
  exact not_lt.mpr (overflowBound_le_two_pow.trans (by exact_mod_cast hbound))

/-- A filter whose numbers are all finite, and a point that lies infinitely far away. -/
theorem parse_ordinates_standard :
    (∃ f, Filter.parse .standard "DWITHIN(a, POINT(1.5 -2), 10, 'km')" = .ok f ∧
      f.NumericWith fun value => ∃ parts,
        ReadsOrdinate .standard "DWITHIN(a, POINT(1.5 -2), 10, 'km')" parts value) ∧
      ∃ a b, Expression.parse .standard (pointText nines ['0']) =
          .ok (.literal (.geometry (.point (some ⟨a, b, none⟩)))) ∧ a.isFinite = false ∧
        (Expression.literal (.geometry (.point (some ⟨a, b, none⟩)))).NumericWith
          fun value => ∃ parts, ReadsOrdinate .standard (pointText nines ['0']) parts value := by
  obtain ⟨hfilter, hexpression, hpoint⟩ := parse_ordinates .standard
  obtain ⟨f, hf⟩ := @exists_ok _ (Filter.parse .standard "DWITHIN(a, POINT(1.5 -2), 10, 'km')")
    (by decide +kernel)
  obtain ⟨a, b, hparse, hfinite, -⟩ := hpoint (by decide) nines ['0'] isDigits_nines isDigits_zero
  refine ⟨⟨f, hf, hfilter _ f hf⟩, a, b, hparse, ?_, hexpression _ _ hparse⟩
  rw [← Bool.not_eq_true, hfinite]
  exact not_lt_overflowBound_nines

/-- Not every number of a parsed tree is finite. -/
theorem not_forall_parse_finite :
    ¬∀ (d : Dialect) (text : String),
      (∀ f, Filter.parse d text = .ok f → f.NumericWith fun value => value.isFinite = true) ∧
        ∀ e, Expression.parse d text = .ok e → e.NumericWith fun value => value.isFinite = true := by
  intro h
  obtain ⟨a, b, hparse, hfinite, -⟩ :=
    @exists_point .standard nines ['0'] (by decide) isDigits_nines isDigits_zero
  have hordinates := ((h _ _).2 _ hparse).ordinates
  exact not_lt_overflowBound_nines (hfinite.mp (hordinates _ rfl).x)

end GeoFilter
