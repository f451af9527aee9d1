import GeoFilter.Grammar.Check
import GeoFilter.Proofs.Text.Run
import GeoFilter.Token.Lexeme

/-!
What the scanner promises about a lexeme: it is a piece of the text that is not empty,
and its token is one that the dialect can yield. The parser relies on the latter where
it takes a word, a quotation or a number without another look.
-/

namespace GeoFilter

open Number Text

/-- The characters of a number. -/
def isNumberChar (c : Char) : Bool :=
  c.isDigit || c == '.' || isExponentMark c || isSign c

/-- The text of a number as the scanner delivers it. -/
structure IsNumberText (text : List Char) : Prop where
  chars : ∀ c ∈ text, isNumberChar c = true
  last : ∃ c, text.getLast? = some c ∧ c.isDigit = true
  finite : text.any (fun c => c == '.' || c == 'e' || c == 'E') = true →
    isFiniteNumber text = true

/-- The tokens that a text can contain in a dialect. -/
def TokenKind.Occurs (d : Dialect) : TokenKind → Prop
  | .keyword (.spatial op) => d.spatialEnabled op = true
  | .identifier name => isPlainWord d name = true
  | .quotedIdentifier _ => d.doubleQuotes = .identifier
  | .number digits => IsNumberText digits.toList
  | .endOfInput => False
  | _ => True

theorem isPrefix_digitsOf (text : List Char) : digitsOf text <+: text :=
  List.takeWhile_prefix _

theorem isDigit_of_mem_digitsOf {text : List Char} {c : Char} (h : c ∈ digitsOf text) :
    c.isDigit = true :=
  List.all_eq_true.mp List.all_takeWhile c h

/-- Digits, unless there are none, end in a digit. -/
theorem last_digitsOf {text : List Char} (h : digitsOf text ≠ []) :
    ∃ c, (digitsOf text).getLast? = some c ∧ c.isDigit = true := by
  refine ⟨(digitsOf text).getLast h, List.getLast?_eq_some_getLast h, ?_⟩
  exact isDigit_of_mem_digitsOf (List.getLast_mem h)

/-- A piece of a number: it stands at the front of the text, consists of the characters
of numbers and ends in a digit unless it is empty. -/
structure IsNumberPiece (piece text : List Char) : Prop where
  front : piece <+: text
  chars : ∀ c ∈ piece, isNumberChar c = true
  last : piece ≠ [] → ∃ c, piece.getLast? = some c ∧ c.isDigit = true

theorem isNumberPiece_nil (text : List Char) : IsNumberPiece [] text where
  front := List.nil_prefix
  chars := by simp
  last := by simp

theorem isNumberPiece_digitsOf (text : List Char) : IsNumberPiece (digitsOf text) text where
  front := isPrefix_digitsOf text
  chars := by
    intro c hc
    simp [isNumberChar, isDigit_of_mem_digitsOf hc]
  last := last_digitsOf

theorem IsNumberPiece.cons {piece text : List Char} (h : IsNumberPiece piece text)
    (hnonempty : piece ≠ []) {c : Char} (hc : isNumberChar c = true) :
    IsNumberPiece (c :: piece) (c :: text) where
  front := (List.prefix_cons_inj c).mpr h.front
  chars := by
    intro d hd
    rcases List.mem_cons.mp hd with rfl | hmem
    · exact hc
    · exact h.chars d hmem
  last := by
    intro _
    obtain ⟨last, hlast, hdigit⟩ := h.last hnonempty
    refine ⟨last, ?_, hdigit⟩
    rw [List.getLast?_cons, hlast]
    rfl

theorem digitsOf_ne_nil {c : Char} (h : c.isDigit = true) (rest : List Char) :
    digitsOf (c :: rest) ≠ [] := by
  simp [digitsOf, h]

theorem isNumberPiece_fractionOf (text : List Char) : IsNumberPiece (fractionOf text) text := by
  unfold fractionOf
  split
  · split
    · rename_i c rest hdigit
      exact (isNumberPiece_digitsOf _).cons (digitsOf_ne_nil hdigit rest) rfl
    · exact isNumberPiece_nil _
  · exact isNumberPiece_nil _

theorem isNumberPiece_exponentOf (text : List Char) : IsNumberPiece (exponentOf text) text := by
  unfold exponentOf
  split
  · rename_i mark c rest
    split
    · rename_i hmark
      have hmark' : isNumberChar mark = true := by simp [isNumberChar, hmark]
      split
      · rename_i hdigit
        exact (isNumberPiece_digitsOf _).cons (digitsOf_ne_nil hdigit rest) hmark'
      · split
        · rename_i hsign
          simp only [Bool.and_eq_true, Bool.not_eq_true', List.isEmpty_eq_false_iff] at hsign
          have hsign' : isNumberChar c = true := by simp [isNumberChar, hsign.1]
          exact ((isNumberPiece_digitsOf rest).cons hsign.2 hsign').cons (by simp) hmark'
        · exact isNumberPiece_nil _
    · exact isNumberPiece_nil _
  · exact isNumberPiece_nil _

/-- A piece and one that follows it make up a piece. -/
theorem IsNumberPiece.append {a b text : List Char} (ha : IsNumberPiece a text)
    (hb : IsNumberPiece b (text.drop a.length)) : IsNumberPiece (a ++ b) text where
  front := by
    obtain ⟨behind, hbehind⟩ := ha.front
    obtain ⟨later, hlater⟩ := hb.front
    refine ⟨later, ?_⟩
    rw [← hbehind, List.drop_left] at hlater
    rw [List.append_assoc, hlater, hbehind]
  chars := by
    intro c hc
    rcases List.mem_append.mp hc with hmem | hmem
    · exact ha.chars c hmem
    · exact hb.chars c hmem
  last := by
    intro hnonempty
    by_cases hempty : b = []
    · rw [hempty, List.append_nil] at hnonempty ⊢
      exact ha.last hnonempty
    · obtain ⟨c, hlast, hdigit⟩ := hb.last hempty
      exact ⟨c, by rw [List.getLast?_append, hlast]; rfl, hdigit⟩

theorem isNumberPiece_text (text : List Char) :
    IsNumberPiece (NumberParts.of text).text text := by
  have hwhole := isNumberPiece_digitsOf text
  have hfraction := hwhole.append (isNumberPiece_fractionOf _)
  have hexponent : IsNumberPiece (NumberParts.of text).exponent
      (text.drop (digitsOf text ++ fractionOf (text.drop (digitsOf text).length)).length) := by
    rw [List.length_append]
    exact isNumberPiece_exponentOf _
  exact hfraction.append hexponent

theorem numberParts_nonempty {c : Char} {rest : List Char}
    (h : startsNumber (c :: rest) = true) :
    (NumberParts.of (c :: rest)).whole ≠ [] ∨ (NumberParts.of (c :: rest)).fraction ≠ [] := by
  by_cases hwhole : digitsOf (c :: rest) = []
  · right
    intro hfraction
    have hdigit : c.isDigit = false := by
      cases hdigit : c.isDigit with
      | false => rfl
      | true => exact absurd hwhole (digitsOf_ne_nil hdigit rest)
    unfold startsNumber at h
    split at h
    · rename_i point next later heq
      cases heq
      simp [NumberParts.of, hwhole, fractionOf, h] at hfraction
    · rename_i first later _ heq
      cases heq
      rw [hdigit] at h
      cases h
    · cases h
  · exact .inl hwhole

theorem numberParts_text_ne_nil {c : Char} {rest : List Char}
    (h : startsNumber (c :: rest) = true) : (NumberParts.of (c :: rest)).text ≠ [] := by
  intro hempty
  simp only [NumberParts.text, List.append_eq_nil_iff] at hempty
  rcases numberParts_nonempty h with hwhole | hfraction
  · exact hwhole hempty.1.1
  · exact hfraction hempty.1.2

/-- Without a fraction and an exponent a number consists of digits. -/
theorem fractional_of_mark {text : List Char}
    (h : (NumberParts.of text).text.any (fun c => c == '.' || c == 'e' || c == 'E') = true) :
    (NumberParts.of text).fractional = true := by
  rw [← Bool.not_eq_false]
  intro hplain
  simp only [NumberParts.fractional, Bool.or_eq_false_iff, Bool.not_eq_false',
    List.isEmpty_iff] at hplain
  obtain ⟨c, hc, hmark⟩ := List.any_eq_true.mp h
  rw [NumberParts.text, hplain.1, hplain.2, List.append_nil, List.append_nil] at hc
  have hdigit : c.isDigit = true := isDigit_of_mem_digitsOf hc
  simp only [Bool.or_eq_true, beq_iff_eq] at hmark
  rcases hmark with (rfl | rfl) | rfl <;> exact absurd hdigit (by decide)

/-- A piece of text that is a lexeme, and the token it yields. -/
structure IsLexeme (d : Dialect) (text : List Char) (found : TokenKind × List Char) : Prop where
  front : found.2 <+: text
  nonempty : found.2 ≠ []
  occurs : found.1.Occurs d

theorem isLexeme_numberLexeme {d : Dialect} {c : Char} {rest : List Char}
    {found : TokenKind × List Char} (hstart : startsNumber (c :: rest) = true)
    (h : numberLexeme (c :: rest) = .ok found) : IsLexeme d (c :: rest) found := by
  have hnonempty := numberParts_text_ne_nil hstart
  have hpiece := isNumberPiece_text (c :: rest)
  unfold numberLexeme at h
  simp only at h
  split at h
  · cases h
  · split at h
    · cases h
    · rename_i hfinite
      cases h
      refine ⟨hpiece.front, hnonempty, ?_⟩
      change IsNumberText (String.toList (String.ofList _))
      rw [String.toList_ofList]
      refine ⟨hpiece.chars, hpiece.last hnonempty, ?_⟩
      intro hmark
      have hfractional := fractional_of_mark hmark
      simpa [hfractional] using hfinite

theorem isPrefix_quotedRun {mark : Char} {text value run : List Char}
    (h : quotedRun mark text = some (value, run)) : run <+: text := by
  induction text using quotedRun.induct mark generalizing value run with
  | case1 => simp [quotedRun] at h
  | case2 => simp [quotedRun] at h; simp [h]
  | case3 c hc => simp [quotedRun, hc] at h
  | case4 rest ih =>
      simp only [quotedRun, if_true, Option.map_eq_some_iff, Prod.exists, Prod.mk.injEq] at h
      obtain ⟨value', run', hrun, -, rfl⟩ := h
      exact (List.prefix_cons_inj _).mpr ((List.prefix_cons_inj _).mpr (ih hrun))
  | case5 next rest hnext =>
      simp only [quotedRun, if_true, hnext, if_false, Option.some.injEq, Prod.mk.injEq] at h
      rw [← h.2]
      exact (List.prefix_cons_inj _).mpr List.nil_prefix
  | case6 c next rest hc ih =>
      simp only [quotedRun, hc, if_false, Option.map_eq_some_iff, Prod.exists, Prod.mk.injEq] at h
      obtain ⟨value', run', hrun, -, rfl⟩ := h
      exact (List.prefix_cons_inj _).mpr (ih hrun)

theorem isLexeme_quotedLexeme {d : Dialect} {mark : Char} {quotation : Quotation}
    {kind : String → TokenKind} {rest : List Char} {found : TokenKind × List Char}
    (hkind : ∀ value, (kind value).Occurs d)
    (h : quotedLexeme mark quotation kind rest = .ok found) :
    IsLexeme d (mark :: rest) found := by
  unfold quotedLexeme at h
  split at h
  · rename_i value run hrun
    cases h
    exact ⟨(List.prefix_cons_inj _).mpr (isPrefix_quotedRun hrun), by simp, hkind _⟩
  · cases h

theorem isLexeme_symbolLexeme? {d : Dialect} {text : List Char} {found : TokenKind × List Char}
    (h : symbolLexeme? text = some found) : IsLexeme d text found := by
  unfold symbolLexeme? at h
  split at h <;> cases h <;> exact ⟨by simp, by simp, trivial⟩

theorem occurs_classifyWord {d : Dialect} {c : Char} {rest : List Char}
    (hstart : isWordStart c = true) (hrest : rest.all isWordChar = true) :
    (classifyWord d (String.ofList (c :: rest))).Occurs d := by
  have hplain : classifyWord d (String.ofList (c :: rest)) = .identifier (String.ofList (c :: rest)) →
      isPlainWord d (String.ofList (c :: rest)) = true := by
    intro hword
    simp only [isPlainWord, String.toList_ofList, hstart, hrest, hword, Bool.true_and, beq_self_eq_true]
  have hreserved : ∀ keyword ∈ Keyword.reserved, (TokenKind.keyword keyword).Occurs d := by
    intro keyword hmem
    simp only [Keyword.reserved, List.mem_cons, List.not_mem_nil, or_false] at hmem
    rcases hmem with rfl | rfl | rfl | rfl | rfl | rfl | rfl | rfl | rfl | rfl | rfl | rfl | rfl |
      rfl <;> trivial
  cases hword : Keyword.ofWord? (String.ofList (c :: rest)) with
  | some keyword =>
      simp only [classifyWord, hword]
      exact hreserved keyword (List.mem_of_find?_eq_some hword)
  | none =>
      cases hop : (SpatialOp.ofName? (String.ofList (c :: rest))).filter d.spatialEnabled with
      | some op =>
          simp only [classifyWord, hword, hop]
          exact (Option.filter_eq_some_iff.mp hop).2
      | none =>
          cases htype : GeometryType.ofName? (String.ofList (c :: rest)) with
          | some type =>
              simp only [classifyWord, hword, hop, htype]
              trivial
          | none =>
              have hidentifier : classifyWord d (String.ofList (c :: rest)) =
                  .identifier (String.ofList (c :: rest)) := by
                simp only [classifyWord, hword, hop, htype]
              rw [hidentifier]
              exact hplain hidentifier

/-- Every lexeme is a piece of the text, and its token can occur in the dialect. -/
theorem isLexeme_lexeme {d : Dialect} {c : Char} {rest : List Char}
    {found : TokenKind × List Char} (h : lexeme d c rest = .ok found) :
    IsLexeme d (c :: rest) found := by
  have hstring : ∀ value, (TokenKind.string value).Occurs d := fun _ => trivial
  unfold lexeme at h
  split at h
  · rename_i hnumber
    exact isLexeme_numberLexeme hnumber h
  · split at h
    · exact isLexeme_quotedLexeme hstring h
    · split at h
      · split at h
        · rename_i hquotes
          have hquoted : ∀ value, (TokenKind.quotedIdentifier value).Occurs d := fun _ => hquotes
          exact isLexeme_quotedLexeme hquoted h
        · exact isLexeme_quotedLexeme hstring h
      · split at h
        · rename_i hstart
          cases h
          refine ⟨(List.prefix_cons_inj _).mpr (List.takeWhile_prefix _), by simp, ?_⟩
          exact occurs_classifyWord hstart List.all_takeWhile
        · split at h
          · rename_i hsymbol
            cases h
            exact isLexeme_symbolLexeme? hsymbol
          · cases h

end GeoFilter
