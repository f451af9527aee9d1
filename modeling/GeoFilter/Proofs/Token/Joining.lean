import GeoFilter.Proofs.Token.Respacing

/-!
Texts put directly behind each other. A separator ends every token in front of it, so that the
tokens of a text stay its tokens when one that begins with a separator comes behind. The sign of
an exponent is no exception: where a number could go on with a sign, the scanner has found it
malformed before.
-/

namespace GeoFilter

open Text

variable {d : Dialect}

/-- White space, a parenthesis, a comma or the sign of an arithmetic operator. -/
def isSeparator (c : Char) : Bool :=
  isBlank c || c ∈ ['(', ')', ',', '+', '-', '*', '/']

/-- A text that is over or goes on with a separator. -/
def Separated (after : List Char) : Prop :=
  ∀ c ∈ after.head?, isSeparator c = true

section Separators

variable {c : Char}

theorem isSeparator_cases (h : isSeparator c = true) :
    isBlank c = true ∨ c = '(' ∨ c = ')' ∨ c = ',' ∨ c = '+' ∨ c = '-' ∨ c = '*' ∨ c = '/' := by
  simpa [isSeparator] using h

theorem isWordChar_of_isSeparator (h : isSeparator c = true) : isWordChar c = false := by
  rcases isSeparator_cases h with hblank | rfl | rfl | rfl | rfl | rfl | rfl | rfl
  · exact isWordChar_of_isBlank hblank
  all_goals decide +kernel

theorem isQuotationMark_of_isSeparator (h : isSeparator c = true) : isQuotationMark c = false := by
  rcases isSeparator_cases h with hblank | rfl | rfl | rfl | rfl | rfl | rfl | rfl
  · exact isQuotationMark_of_isBlank hblank
  all_goals rfl

theorem not_isSeparator_of_isWordChar (h : isWordChar c = true) : isSeparator c = false := by
  rw [Bool.eq_false_iff]
  intro hseparator
  rw [isWordChar_of_isSeparator hseparator] at h
  cases h

theorem not_isSeparator_of_isQuotationMark (h : isQuotationMark c = true) :
    isSeparator c = false := by
  rw [Bool.eq_false_iff]
  intro hseparator
  rw [isQuotationMark_of_isSeparator hseparator] at h
  cases h

/-- Of the separators only signs are found in numbers. -/
theorem isSign_of_isSeparator (h : isSeparator c = true) (hnumber : isNumberChar c = true) :
    isSign c = true := by
  rcases isSeparator_cases h with hblank | rfl | rfl | rfl | rfl | rfl | rfl | rfl
  · rw [isNumberChar_of_isBlank hblank] at hnumber
    cases hnumber
  all_goals first | rfl | cases hnumber

theorem isSeparator_of_isBlank (h : isBlank c = true) : isSeparator c = true := by
  simp [isSeparator, h]

theorem separated_nil : Separated [] := by
  simp [Separated]

theorem separated_cons (h : isSeparator c = true) (rest : List Char) : Separated (c :: rest) := by
  rintro first ⟨⟩
  exact h

/-- What no separator is stands at the front of a text only if it did so before a separator came
behind. -/
theorem exists_cons_of_separated {after more : List Char} (hmore : Separated more)
    (hc : isSeparator c = false) (h : (after ++ more).head? = some c) :
    ∃ others, after = c :: others := by
  cases after with
  | nil =>
      rw [hmore c h] at hc
      cases hc
  | cons first others =>
      cases h
      exact ⟨others, rfl⟩

end Separators

section Tokens

variable {run after more front later : List Char} {c : Char} {kind : TokenKind}

theorem isWordChar_mark (h : isExponentMark c = true) : isWordChar c = true := by
  simp only [isExponentMark, Bool.or_eq_true, beq_iff_eq] at h
  rcases h with rfl | rfl <;> decide +kernel

/-- A sign is not found in front of the exponent. -/
theorem NumberParts.not_mem_of_isSign {parts : NumberParts} (h : parts.WellFormed)
    (hsign : isSign c = true) : c ∉ parts.whole ++ parts.fraction := by
  have hdigit := not_isDigit_of_isSign hsign
  rw [List.mem_append]
  rintro (hmem | hmem)
  · rw [h.whole c hmem] at hdigit
    cases hdigit
  · obtain ⟨⟨hnone, -⟩ | hpoint, hdigits, -⟩ := h.fraction.point
    · rw [hnone] at hmem
      cases hmem
    · rw [hpoint] at hmem
      rcases List.mem_cons.mp hmem with rfl | hmem
      · cases hsign
      · rw [hdigits c hmem] at hdigit
        cases hdigit

/-- A sign within a number stands directly behind the mark of the exponent. -/
theorem NumberParts.front_of_isSign {parts : NumberParts} (h : parts.WellFormed)
    (hsign : isSign c = true) (htext : parts.text = front ++ c :: later) :
    ∃ mark, isExponentMark mark = true ∧ front = parts.whole ++ parts.fraction ++ [mark] := by
  have hdigit := not_isDigit_of_isSign hsign
  have hplain := NumberParts.not_mem_of_isSign h hsign
  have hmark : isExponentMark c = false := by
    simp only [isSign, Bool.or_eq_true, beq_iff_eq] at hsign
    rcases hsign with rfl | rfl <;> rfl
  have hfirst : ∀ rest, parts.exponent ≠ c :: rest := by
    intro rest hexponent
    rw [h.exponent.mark c (by simp [hexponent])] at hmark
    cases hmark
  rcases List.append_eq_append_iff.mp htext with
    ⟨before, rfl, hexponent⟩ | ⟨before, hfront, hexponent⟩
  · have hcases := h.exponent
    rw [hexponent] at hcases hfirst
    rcases before with _ | ⟨mark, _ | ⟨second, others⟩⟩
    · exact absurd rfl (hfirst later)
    · exact ⟨mark, hcases.mark mark rfl, rfl⟩
    · cases hcases with
      | unsigned _ hdigits =>
          rw [hdigits.all c (by simp)] at hdigit
          cases hdigit
      | signed _ _ hdigits =>
          rw [hdigits.all c (by simp)] at hdigit
          cases hdigit
  · cases before with
    | nil => exact absurd hexponent.symm (hfirst later)
    | cons first others =>
        obtain ⟨rfl, -⟩ := List.cons.inj hexponent
        exact absurd (by simp [hfront]) hplain

theorem NumberParts.last_text {parts : NumberParts} (h : parts.WellFormed) :
    ∃ c, parts.text.getLast? = some c ∧ c.isDigit = true := by
  have hparts := @NumberParts.of_append parts h [] (by simp)
  have hlast := (isNumberPiece_text (parts.text ++ [])).last
  rw [hparts] at hlast
  apply hlast
  obtain ⟨c, rest, htext, -⟩ := NumberParts.text_cases h
  simp [htext]

/-- The scanner does not stop in front of the mark of an exponent without digits, since the mark
is attached to the number. -/
theorem not_isLongest_mark {parts : NumberParts} {mark : Char} (h : parts.WellFormed)
    (hmark : isExponentMark mark = true) (hlongest : IsLongest d run after kind)
    (hsound : ¬Spoiled run after) : run ++ after ≠ parts.whole ++ parts.fraction ++ [mark] := by
  intro htext
  have hfront : (⟨parts.whole, parts.fraction, []⟩ : NumberParts).WellFormed :=
    ⟨h.whole, h.fraction, .none, h.nonempty⟩
  have hparts : (⟨parts.whole, parts.fraction, []⟩ : NumberParts).text =
      parts.whole ++ parts.fraction := List.append_nil _
  rw [← hparts] at htext
  have hlength := hlongest.longest _ [mark] _ (.number hfront) htext
  obtain ⟨before, hrun⟩ : NumberParts.text ⟨parts.whole, parts.fraction, []⟩ <+: run :=
    List.prefix_of_prefix_length_le ⟨[mark], htext.symm⟩ (List.prefix_append run after) hlength
  have hrest : before ++ after = [mark] := by
    rw [← hrun, List.append_assoc] at htext
    exact List.append_cancel_left htext
  cases before with
  | nil =>
      apply hsound
      rw [← hrun, List.append_nil, show after = [mark] from hrest]
      exact .attached hfront (isWordChar_mark hmark)
  | cons first others =>
      obtain ⟨rfl, hothers⟩ := List.cons.inj hrest
      rw [(List.append_eq_nil_iff.mp hothers).1] at hrun
      have hstart := NumberParts.startsNumber_text hfront ([first] ++ after)
      rw [← List.append_assoc, hrun] at hstart
      obtain ⟨c, rest, hcons⟩ := hlongest.token.exists_cons
      have hwhole : run ++ after = c :: (rest ++ after) := by rw [hcons, List.cons_append]
      rw [hwhole] at hstart
      have hlast : run.getLast? = some first := by rw [← hrun, List.getLast?_concat]
      rcases hlongest.token.of_startsNumber hwhole hstart with ⟨⟨other, hother, rfl⟩, -⟩ | rfl
      · obtain ⟨last, hlast', hdigit⟩ := NumberParts.last_text hother
        rw [hlast, Option.some.injEq] at hlast'
        rw [← hlast', (mark_cases hmark).1] at hdigit
        cases hdigit
      · cases hlast
        exact (mark_cases hmark).2 rfl

/-- A symbol has no separator behind its first character. -/
theorem IsSymbol.not_isSeparator (h : IsSymbol run kind) :
    ∀ c ∈ run.tail, isSeparator c = false := by
  have hall : (run.tail.all fun c => !isSeparator c) = true := by
    cases h with
    | operator op => rcases op with (_ | _ | _ | _ | _ | _) | _ | _ | _ | _ <;> decide
    | notEqual => decide
    | punctuation mark => cases mark <;> decide
  simpa using hall

/-- A quotation is over where a separator stands behind the longest match. -/
theorem not_isQuotationMark_of_append (hsound : ¬Spoiled run after) {first : Char}
    {value : List Char} (hmark : isQuotationMark first = true) (hrun : run = quoted first value)
    (hmore : Separated more) : (after ++ more).head? ≠ some first := by
  intro hhead
  obtain ⟨others, rfl⟩ :=
    exists_cons_of_separated hmore (not_isSeparator_of_isQuotationMark hmark) hhead
  apply hsound
  rw [hrun]
  exact .requoted hmark

/-- No token goes on with a separator that stands behind the longest match. -/
theorem IsLongest.not_through (h : IsLongest d run after kind) (hsound : ¬Spoiled run after)
    (hc : isSeparator c = true) {other rest : List Char} {kind' : TokenKind}
    (hother : IsToken d other kind') (hbeyond : other = run ++ after ++ c :: later)
    (htext : run ++ (after ++ c :: more) = other ++ rest) : False := by
  obtain ⟨first, tail, hrun⟩ := h.token.exists_cons
  have hfront : other ++ [] = first :: (tail ++ after ++ c :: later) := by simp [hbeyond, hrun]
  have hmem : c ∈ tail ++ after ++ c :: later := by simp
  rcases hother.sort hfront with ⟨-, ⟨chars, hchars, hword⟩, -⟩ | ⟨-, ⟨parts, hparts, hnumber⟩, -⟩ |
    ⟨hmark, value', hquoted, -⟩ | ⟨-, hsymbol⟩
  · rw [List.append_nil, hchars] at hfront
    have hchar := hword c (by rw [(List.cons.inj hfront).2]; exact hmem)
    rw [isWordChar_of_isSeparator hc] at hchar
    cases hchar
  · rw [hnumber] at hbeyond
    have hchar := isNumberChar_of_mem_text hparts c (by rw [hbeyond]; simp)
    obtain ⟨mark, hmark, hwhole⟩ :=
      NumberParts.front_of_isSign hparts (isSign_of_isSeparator hc hchar) hbeyond
    exact not_isLongest_mark hparts hmark h hsound hwhole
  · have hwhole : run ++ after = first :: (tail ++ after) := by rw [hrun, List.cons_append]
    obtain ⟨value, hvalue, -⟩ := h.token.of_isQuotationMark hwhole hmark
    have hhead : (after ++ c :: more).head? ≠ some first :=
      not_isQuotationMark_of_append hsound hmark hvalue (separated_cons hc more)
    rw [hvalue, hquoted] at htext
    have hlength := length_quoted_le hhead htext
    rw [← hvalue, ← hquoted, hbeyond, List.length_append, List.length_append,
      List.length_cons] at hlength
    omega
  · rw [List.append_nil] at hfront
    have hchar := hsymbol.not_isSeparator c (by rw [hfront]; exact hmem)
    rw [hc] at hchar
    cases hchar

/-- The longest match stays the longest when a separator comes behind the text. -/
theorem IsLongest.append (h : IsLongest d run after kind) (hsound : ¬Spoiled run after)
    (hmore : Separated more) : IsLongest d run (after ++ more) kind where
  token := h.token
  longest := by
    intro other rest kind' hother htext
    have hsplit : run ++ after ++ more = other ++ rest := by rw [List.append_assoc, htext]
    rcases List.append_eq_append_iff.mp hsplit with ⟨beyond, hbeyond, hrest⟩ | ⟨behind, hbehind, -⟩
    · cases beyond with
      | nil =>
          rw [List.append_nil] at hbeyond
          exact h.longest other [] kind' hother (by rw [hbeyond, List.append_nil])
      | cons c later =>
          have hc : isSeparator c = true := hmore c (by rw [hrest]; rfl)
          rw [hrest, List.cons_append] at htext
          exact (h.not_through hsound hc hother hbeyond htext).elim
    · exact h.longest other behind kind' hother hbehind

/-- A separator spoils no token. -/
theorem Spoiled.of_append (h : Spoiled run (after ++ more)) (hmore : Separated more) :
    Spoiled run after := by
  rcases h.sort with ⟨parts, hparts, rfl, ⟨c, hhead, hc⟩ | ⟨hfractional, hvalue⟩⟩ |
    ⟨mark, value, hmark, rfl, hhead⟩
  · obtain ⟨others, rfl⟩ :=
      exists_cons_of_separated hmore (not_isSeparator_of_isWordChar hc) hhead
    exact .attached hparts hc
  · exact .outOfRange hparts hfractional hvalue
  · obtain ⟨others, rfl⟩ :=
      exists_cons_of_separated hmore (not_isSeparator_of_isQuotationMark hmark) hhead
    exact .requoted hmark

/-- A lexeme is found as well where a separator stands behind the text. -/
theorem lexeme_append {rest : List Char} (h : lexeme d c rest = .ok (kind, run))
    (hmore : Separated more) : lexeme d c (rest ++ more) = .ok (kind, run) := by
  have hfinds := findsLongest_lexeme d c rest
  rw [h] at hfinds
  obtain ⟨after, htext, hlongest, hsound⟩ := hfinds
  apply (hlongest.append hsound hmore).lexeme_eq fun hspoiled => hsound (hspoiled.of_append hmore)
  rw [← List.cons_append, htext, List.append_assoc]

end Tokens

section Texts

variable {text after blanks : List Char} {kinds ks : List TokenKind}

/-- White space in front of a text does not matter. -/
theorem Lexed.gap (hblanks : ∀ c ∈ blanks, isBlank c = true) (h : Lexed d text kinds) :
    Lexed d (blanks ++ text) kinds := by
  have hdrop : (blanks ++ text).dropWhile isBlank = text.dropWhile isBlank :=
    List.dropWhile_append_of_pos hblanks
  cases h with
  | done h => exact .done (hdrop.trans h)
  | token h hlexeme hkinds => exact .token (hdrop.trans h) hlexeme hkinds

/-- White space by itself has no tokens. -/
theorem lexed_gap (hblanks : ∀ c ∈ blanks, isBlank c = true) : Lexed d blanks [] :=
  .done (List.dropWhile_eq_nil_iff.mpr hblanks)

/-- The tokens of a text, and then those of one behind it that begins with a separator. -/
theorem Lexed.append (h : Lexed d text kinds) (hafter : Lexed d after ks)
    (hseparated : Separated after) : Lexed d (text ++ after) (kinds ++ ks) := by
  induction h with
  | @done text h => exact hafter.gap (List.dropWhile_eq_nil_iff.mp h)
  | @token text c rest kind run kinds h hlexeme hkinds ih =>
      have hrun := (isLexeme_lexeme hlexeme).front.length_le
      have hdrop : (text ++ after).dropWhile isBlank = c :: (rest ++ after) := by
        rw [List.dropWhile_append, h]
        rfl
      refine .token hdrop (lexeme_append hlexeme hseparated) ?_
      rw [← List.cons_append, List.drop_append_of_le_length hrun]
      exact ih

theorem Spells.lexed (h : Spells d text kinds) : Lexed d text kinds := by
  have hlexed := h [] [] (by simp [Bounded]) (lexed_gap (by simp))
  rwa [List.append_nil, List.append_nil] at hlexed

/-- A text has its tokens only. -/
theorem Lexed.unique (h : Lexed d text kinds) (h' : Lexed d text ks) : kinds = ks := by
  rw [← String.toList_ofList (l := text)] at h h'
  obtain ⟨tokens, htokens, hkinds⟩ := tokenize_of_lexed h
  obtain ⟨tokens', htokens', hkinds'⟩ := tokenize_of_lexed h'
  rw [htokens] at htokens'
  cases htokens'
  exact List.append_cancel_right (hkinds.symm.trans hkinds')

/-- The tokens that were found in a text. -/
theorem Tokenized.lexed {here : Position} {stream : TokenStream}
    (h : Tokenized d here text stream) (hfailure : stream.failure = none) :
    ∃ kinds, Lexed d text kinds ∧ stream.tokens.map Token.kind = kinds ++ [.endOfInput] := by
  induction h with
  | done hgap => exact ⟨[], lexed_gap hgap, rfl⟩
  | @token here gap run after rest c kind stream hgap hblank hlexeme hrun hrest ih =>
      obtain ⟨kinds, hlexed, hkinds⟩ := ih hfailure
      refine ⟨kind :: kinds, (hlexed.cons hblank hlexeme hrun).gap hgap, ?_⟩
      rw [TokenStream.cons, List.map_cons, hkinds, List.cons_append]
  | stuck hgap hblank hlexeme => cases hfailure

theorem lexed_of_tokenize {text : String} {tokens : List Token} (h : tokenize d text = .ok tokens) :
    Lexed d text.toList (meaningfulKinds tokens) := by
  obtain ⟨hfailure, rfl⟩ := tokenize_eq_ok_iff.mp h
  obtain ⟨kinds, hlexed, hkinds⟩ := (tokenized_tokenStream d text).lexed hfailure
  rwa [meaningfulKinds_of_kinds hkinds (endOfInput_not_mem hlexed.occurs)]

end Texts

end GeoFilter
