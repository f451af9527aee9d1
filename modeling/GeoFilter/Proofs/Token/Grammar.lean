import GeoFilter.Proofs.Token.Spelling

/-!
The grammar of the tokens: which pieces of text are a token, and which token they are. The
first character of a piece tells what sort of token it is, and a piece is one token only.
-/

namespace GeoFilter

open Text

variable {d : Dialect}

/-- The marks that quotations stand between. -/
def isQuotationMark (c : Char) : Bool :=
  c == '\'' || c == '"'

/-- A quotation of a text, in which the marks are doubled. -/
def quoted (mark : Char) (value : List Char) : List Char :=
  mark :: (doubled mark value ++ [mark])

/-- What a quotation denotes. -/
def quotationKind (d : Dialect) (mark : Char) (value : String) : TokenKind :=
  if mark = '"' ∧ d.doubleQuotes = .identifier then .quotedIdentifier value else .string value

/-- The operators, one of which can be spelled in a second way, and the punctuation marks. -/
inductive IsSymbol : List Char → TokenKind → Prop where
  | operator (op : Operator) : IsSymbol op.symbol.toList (.operator op)
  | notEqual : IsSymbol ['!', '='] (.operator (.comparison .notEqual))
  | punctuation (mark : Punctuation) : IsSymbol mark.symbol.toList (.punctuation mark)

/-- The grammar of the tokens: the pieces of text that are a token, and which one. -/
inductive IsToken (d : Dialect) : List Char → TokenKind → Prop where
  | word {first : Char} {rest : List Char} (hfirst : isWordStart first = true)
      (hrest : ∀ c ∈ rest, isWordChar c = true) :
      IsToken d (first :: rest) (classifyWord d (String.ofList (first :: rest)))
  | number {parts : NumberParts} (h : parts.WellFormed) :
      IsToken d parts.text (.number (String.ofList parts.text))
  | quotation {mark : Char} (hmark : isQuotationMark mark = true) (value : List Char) :
      IsToken d (quoted mark value) (quotationKind d mark (String.ofList value))
  | symbol {run : List Char} {kind : TokenKind} (h : IsSymbol run kind) : IsToken d run kind

section Symbols

/-- The characters that symbols begin with. -/
def symbolStarts : List Char :=
  ['=', '<', '>', '!', '+', '-', '*', '/', '(', ')', ',', '.']

variable {run after text : List Char} {kind : TokenKind}

theorem IsSymbol.exists_cons (h : IsSymbol run kind) :
    ∃ (c : Char) (rest : List Char), run = c :: rest ∧ c ∈ symbolStarts := by
  cases h with
  | operator op =>
      rcases op with (_ | _ | _ | _ | _ | _) | _ | _ | _ | _ <;> exact ⟨_, _, rfl, by decide⟩
  | notEqual => exact ⟨_, _, rfl, by decide⟩
  | punctuation mark => cases mark <;> exact ⟨_, _, rfl, by decide⟩

/-- A symbol by itself is found. -/
theorem IsSymbol.symbolLexeme?_eq (h : IsSymbol run kind) : symbolLexeme? run = some (kind, run) := by
  cases h with
  | operator op => rcases op with (_ | _ | _ | _ | _ | _) | _ | _ | _ | _ <;> rfl
  | notEqual => rfl
  | punctuation mark => cases mark <;> rfl

theorem isSymbol_symbolLexeme? (h : symbolLexeme? text = some (kind, run)) : IsSymbol run kind := by
  unfold symbolLexeme? at h
  split at h <;> cases h
  · exact .punctuation .openParen
  · exact .punctuation .closeParen
  · exact .punctuation .comma
  · exact .punctuation .dot
  · exact .operator (.comparison .equal)
  · exact .operator (.comparison .lesserOrEqual)
  · exact .operator (.comparison .notEqual)
  · exact .operator (.comparison .lesser)
  · exact .operator (.comparison .greaterOrEqual)
  · exact .operator (.comparison .greater)
  · exact .notEqual
  · exact .operator .plus
  · exact .operator .minus
  · exact .operator .star
  · exact .operator .slash

/-- A sign that could be the first of two is found by itself, or the longer one is. -/
theorem exists_symbolLexeme? {c : Char} (hc : c = '<' ∨ c = '>') (after : List Char) :
    ∃ found, symbolLexeme? (c :: after) = some found ∧ [c].length ≤ found.2.length := by
  have hfound : ∃ found, symbolLexeme? (c :: after) = some found := by
    rcases hc with rfl | rfl
    all_goals
      unfold symbolLexeme?
      split <;> first | exact ⟨_, rfl⟩ | simp_all
  obtain ⟨found, hfound⟩ := hfound
  have hlexeme := isLexeme_symbolLexeme? (d := .standard) hfound
  exact ⟨found, hfound, List.length_pos_iff.mpr hlexeme.nonempty⟩

/-- A symbol at the front of a text is found, unless a longer one is. -/
theorem IsSymbol.symbolLexeme?_append (h : IsSymbol run kind) (after : List Char) :
    ∃ found, symbolLexeme? (run ++ after) = some found ∧ run.length ≤ found.2.length := by
  cases h with
  | operator op =>
      rcases op with (_ | _ | _ | _ | _ | _) | _ | _ | _ | _
      case comparison.lesser => exact exists_symbolLexeme? (.inl rfl) after
      case comparison.greater => exact exists_symbolLexeme? (.inr rfl) after
      all_goals exact ⟨_, rfl, le_rfl⟩
  | notEqual => exact ⟨_, rfl, le_rfl⟩
  | punctuation mark => cases mark <;> exact ⟨_, rfl, le_rfl⟩

end Symbols

section Sorts

variable {run after rest : List Char} {kind : TokenKind} {c : Char}

theorem quotationMark_cases (h : isQuotationMark c = true) : c = '\'' ∨ c = '"' := by
  simpa [isQuotationMark] using h

theorem startsNumber_cases (h : startsNumber (c :: rest) = true) : c.isDigit = true ∨ c = '.' := by
  unfold startsNumber at h
  split at h
  · rename_i heq
    exact .inr (List.cons.inj heq).1
  · rename_i heq
    rw [(List.cons.inj heq).1]
    exact .inl h
  · cases h

/-- Words, numbers, quotations and symbols differ in their first characters, but for the
point of a number. -/
theorem isWordStart_of_mem_symbolStarts (h : c ∈ symbolStarts) :
    isWordStart c = false ∧ c.isDigit = false ∧ isQuotationMark c = false := by
  have hall : (symbolStarts.all fun x => !isWordStart x && !x.isDigit && !isQuotationMark x) = true := by
    decide +kernel
  simpa [and_assoc] using List.all_eq_true.mp hall c h

theorem isWordStart_of_isQuotationMark (h : isQuotationMark c = true) :
    isWordStart c = false ∧ c.isDigit = false ∧ c ≠ '.' := by
  rcases quotationMark_cases h with rfl | rfl <;> decide +kernel

theorem isWordStart_of_startsNumber (h : startsNumber (c :: rest) = true) :
    isWordStart c = false ∧ isQuotationMark c = false := by
  rcases startsNumber_cases h with hdigit | rfl
  · refine ⟨isWordStart_of_isDigit hdigit, ?_⟩
    cases hmark : isQuotationMark c with
    | false => rfl
    | true =>
        rw [(isWordStart_of_isQuotationMark hmark).2.1] at hdigit
        cases hdigit
  · decide +kernel

/-- The first character of a token tells what sort of token it is. -/
theorem IsToken.sort (h : IsToken d run kind) (htext : run ++ after = c :: rest) :
    (isWordStart c = true ∧ (∃ tail, run = c :: tail ∧ ∀ x ∈ tail, isWordChar x = true) ∧
        kind = classifyWord d (String.ofList run)) ∨
      (startsNumber (c :: rest) = true ∧ (∃ parts : NumberParts, parts.WellFormed ∧ run = parts.text) ∧
        kind = .number (String.ofList run)) ∨
      (isQuotationMark c = true ∧ ∃ value, run = quoted c value ∧
        kind = quotationKind d c (String.ofList value)) ∨
      (c ∈ symbolStarts ∧ IsSymbol run kind) := by
  cases h with
  | word hfirst hrest =>
      obtain ⟨rfl, -⟩ := List.cons.inj htext
      exact .inl ⟨hfirst, ⟨_, rfl, hrest⟩, rfl⟩
  | number hparts =>
      refine .inr (.inl ⟨?_, ⟨_, hparts, rfl⟩, rfl⟩)
      rw [← htext]
      exact NumberParts.startsNumber_text hparts after
  | quotation hmark value =>
      obtain ⟨rfl, -⟩ := List.cons.inj htext
      exact .inr (.inr (.inl ⟨hmark, value, rfl, rfl⟩))
  | symbol hsymbol =>
      obtain ⟨first, tail, rfl, hfirst⟩ := hsymbol.exists_cons
      obtain ⟨rfl, -⟩ := List.cons.inj htext
      exact .inr (.inr (.inr ⟨hfirst, hsymbol⟩))

theorem IsToken.of_isWordStart (h : IsToken d run kind) (htext : run ++ after = c :: rest)
    (hc : isWordStart c = true) : (∃ tail, run = c :: tail ∧ ∀ x ∈ tail, isWordChar x = true) ∧
      kind = classifyWord d (String.ofList run) := by
  rcases h.sort htext with ⟨-, hword⟩ | ⟨hstart, -⟩ | ⟨hmark, -⟩ | ⟨hsymbol, -⟩
  · exact hword
  · rw [(isWordStart_of_startsNumber hstart).1] at hc
    cases hc
  · rw [(isWordStart_of_isQuotationMark hmark).1] at hc
    cases hc
  · rw [(isWordStart_of_mem_symbolStarts hsymbol).1] at hc
    cases hc

/-- Where a number begins there can also be a point. -/
theorem IsToken.of_startsNumber (h : IsToken d run kind) (htext : run ++ after = c :: rest)
    (hstart : startsNumber (c :: rest) = true) :
    ((∃ parts : NumberParts, parts.WellFormed ∧ run = parts.text) ∧
      kind = .number (String.ofList run)) ∨ run = ['.'] := by
  obtain ⟨hword, hquote⟩ := isWordStart_of_startsNumber hstart
  rcases h.sort htext with ⟨hc, -⟩ | ⟨-, hnumber⟩ | ⟨hc, -⟩ | ⟨hc, hsymbol⟩
  · rw [hword] at hc
    cases hc
  · exact .inl hnumber
  · rw [hquote] at hc
    cases hc
  · obtain rfl : c = '.' := by
      rcases startsNumber_cases hstart with hdigit | hpoint
      · rw [(isWordStart_of_mem_symbolStarts hc).2.1] at hdigit
        cases hdigit
      · exact hpoint
    obtain ⟨first, tail, rfl, -⟩ := hsymbol.exists_cons
    obtain ⟨rfl, -⟩ := List.cons.inj htext
    have hpoint := hsymbol.symbolLexeme?_eq
    cases hpoint
    exact .inr rfl

theorem IsToken.of_isQuotationMark (h : IsToken d run kind) (htext : run ++ after = c :: rest)
    (hmark : isQuotationMark c = true) : ∃ value, run = quoted c value ∧
      kind = quotationKind d c (String.ofList value) := by
  obtain ⟨hword, hdigit, hpoint⟩ := isWordStart_of_isQuotationMark hmark
  rcases h.sort htext with ⟨hc, -⟩ | ⟨hc, -⟩ | ⟨-, hquoted⟩ | ⟨hc, -⟩
  · rw [hword] at hc
    cases hc
  · rw [(isWordStart_of_startsNumber hc).2] at hmark
    cases hmark
  · exact hquoted
  · rw [(isWordStart_of_mem_symbolStarts hc).2.2] at hmark
    cases hmark

theorem IsToken.isSymbol (h : IsToken d run kind) (htext : run ++ after = c :: rest)
    (hnumber : startsNumber (c :: rest) = false) (hmark : isQuotationMark c = false)
    (hword : isWordStart c = false) : IsSymbol run kind := by
  rcases h.sort htext with ⟨hc, -⟩ | ⟨hc, -⟩ | ⟨hc, -⟩ | ⟨-, hsymbol⟩
  · rw [hword] at hc
    cases hc
  · rw [hnumber] at hc
    cases hc
  · rw [hmark] at hc
    cases hc
  · exact hsymbol

end Sorts

section Pieces

variable {run after : List Char} {kind kind' : TokenKind}

theorem text_ne_quoted {parts : NumberParts} (h : parts.WellFormed) {mark : Char}
    (hmark : isQuotationMark mark = true) (value : List Char) : parts.text ≠ quoted mark value := by
  intro heq
  obtain ⟨c, tail, htext, hhead⟩ := NumberParts.text_cases h
  rw [htext] at heq
  obtain ⟨rfl, -⟩ := List.cons.inj heq
  obtain ⟨-, hdigit, hpoint⟩ := isWordStart_of_isQuotationMark hmark
  rcases hhead with hc | ⟨hc, -⟩
  · rw [hc] at hdigit
    cases hdigit
  · exact hpoint hc

theorem doubled_injective (mark : Char) {a b : List Char} (h : doubled mark a = doubled mark b) :
    a = b := by
  have ha := @quotedRun_doubled mark [] (by simp) a
  have hb := @quotedRun_doubled mark [] (by simp) b
  rw [h, hb] at ha
  exact (congrArg Prod.fst (Option.some.inj ha)).symm

theorem IsToken.exists_cons (h : IsToken d run kind) : ∃ c rest, run = c :: rest := by
  cases h with
  | word hfirst hrest => exact ⟨_, _, rfl⟩
  | number hparts =>
      obtain ⟨c, rest, htext, -⟩ := NumberParts.text_cases hparts
      exact ⟨c, rest, htext⟩
  | quotation hmark value => exact ⟨_, _, rfl⟩
  | symbol hsymbol =>
      obtain ⟨c, rest, htext, -⟩ := hsymbol.exists_cons
      exact ⟨c, rest, htext⟩

/-- A piece of text is only one token. -/
theorem IsToken.kind_unique (h : IsToken d run kind) (h' : IsToken d run kind') : kind = kind' := by
  obtain ⟨c, rest, hrun⟩ := h.exists_cons
  have htext : run ++ [] = c :: rest := by rw [List.append_nil, hrun]
  by_cases hstart : startsNumber (c :: rest) = true
  · -- A number can begin with a point, but a point by itself begins none.
    have hpoint : run ≠ ['.'] := by
      rintro rfl
      rw [← hrun] at hstart
      cases hstart
    rcases h.of_startsNumber htext hstart with ⟨-, rfl⟩ | hdot
    · rcases h'.of_startsNumber htext hstart with ⟨-, rfl⟩ | hdot
      · rfl
      · exact absurd hdot hpoint
    · exact absurd hdot hpoint
  · by_cases hmark : isQuotationMark c = true
    · obtain ⟨value, hvalue, rfl⟩ := h.of_isQuotationMark htext hmark
      obtain ⟨value', hvalue', rfl⟩ := h'.of_isQuotationMark htext hmark
      rw [hvalue] at hvalue'
      simp only [quoted, List.cons.injEq, true_and, List.append_cancel_right_eq] at hvalue'
      rw [doubled_injective c hvalue']
    · by_cases hword : isWordStart c = true
      · rw [(h.of_isWordStart htext hword).2, (h'.of_isWordStart htext hword).2]
      · simp only [Bool.not_eq_true] at hstart hmark hword
        have hkind := (h.isSymbol htext hstart hmark hword).symbolLexeme?_eq
        rw [(h'.isSymbol htext hstart hmark hword).symbolLexeme?_eq] at hkind
        exact (congrArg Prod.fst (Option.some.inj hkind)).symm

theorem IsToken.not_isBlank {c : Char} {rest : List Char} (h : IsToken d run kind)
    (htext : run ++ after = c :: rest) : isBlank c = false := by
  rcases h.sort htext with ⟨hc, -⟩ | ⟨hc, -⟩ | ⟨hc, -⟩ | ⟨hc, -⟩
  · cases hblank : isBlank c with
    | false => rfl
    | true =>
        rw [isWordStart_of_isBlank hblank] at hc
        cases hc
  · rcases startsNumber_cases hc with hdigit | rfl
    · exact isBlank_of_isDigit hdigit
    · rfl
  · rcases quotationMark_cases hc with rfl | rfl <;> rfl
  · have hall : (symbolStarts.all fun x => !isBlank x) = true := by
      decide +kernel
    simpa using List.all_eq_true.mp hall c hc

end Pieces

end GeoFilter
