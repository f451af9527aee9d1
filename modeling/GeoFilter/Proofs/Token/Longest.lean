import GeoFilter.Proofs.Token.Failure
import GeoFilter.Proofs.Token.Grammar

/-!
Longest matches: behind white space the scanner takes the longest piece of text that the
grammar has as a token. It stops if there is no such piece, or if what it finds is spoiled:
a number that a word character is attached to or that is too large, or a quotation that is
followed by its own mark.
-/

namespace GeoFilter

open Number Text

variable {d : Dialect}

/-- The tokens of the grammar that are not accepted in front of a text. -/
inductive Spoiled : List Char → List Char → Prop where
  | attached {parts : NumberParts} {c : Char} {rest : List Char} (h : parts.WellFormed)
      (hc : isWordChar c = true) : Spoiled parts.text (c :: rest)
  | outOfRange {parts : NumberParts} {after : List Char} (h : parts.WellFormed)
      (hfractional : parts.fractional = true) (hvalue : overflowBound ≤ parts.value) :
      Spoiled parts.text after
  | requoted {mark : Char} {value rest : List Char} (hmark : isQuotationMark mark = true) :
      Spoiled (quoted mark value) (mark :: rest)

/-- A piece at the front of a text is the longest one that is a token. -/
structure IsLongest (d : Dialect) (run after : List Char) (kind : TokenKind) : Prop where
  token : IsToken d run kind
  longest : ∀ (other rest : List Char) (kind' : TokenKind), IsToken d other kind' →
    run ++ after = other ++ rest → other.length ≤ run.length

/-- What the scanner is to find at the front of a text. -/
def FindsLongest (d : Dialect) (text : List Char) : Except Fault (TokenKind × List Char) → Prop
  | .ok (kind, run) => ∃ after, text = run ++ after ∧ IsLongest d run after kind ∧
      ¬Spoiled run after
  | .error fault => fault.kind = .lexical ∧ ∀ run after kind, text = run ++ after →
      IsLongest d run after kind → Spoiled run after

/-- There is only one longest piece. -/
theorem IsLongest.unique {run after run' after' : List Char} {kind kind' : TokenKind}
    (h : IsLongest d run after kind) (h' : IsLongest d run' after' kind')
    (htext : run ++ after = run' ++ after') : run = run' ∧ after = after' := by
  have hle := h.longest _ _ _ h'.token htext
  have hge := h'.longest _ _ _ h.token htext.symm
  exact List.append_inj htext (le_antisymm hge hle)

/-- What spoils a token: its front shows whether it is a number or a quotation. -/
theorem Spoiled.sort {run after : List Char} (h : Spoiled run after) :
    (∃ parts : NumberParts, parts.WellFormed ∧ run = parts.text ∧
      ((∃ c ∈ after.head?, isWordChar c = true) ∨
        parts.fractional = true ∧ overflowBound ≤ parts.value)) ∨
      ∃ mark value, isQuotationMark mark = true ∧ run = quoted mark value ∧
        after.head? = some mark := by
  cases h with
  | attached hparts hc => exact .inl ⟨_, hparts, rfl, .inl ⟨_, rfl, hc⟩⟩
  | outOfRange hparts hfractional hvalue =>
      exact .inl ⟨_, hparts, rfl, .inr ⟨hfractional, hvalue⟩⟩
  | requoted hmark => exact .inr ⟨_, _, hmark, rfl, rfl⟩

/-- Only numbers and quotations are spoiled. -/
theorem Spoiled.front {run after rest : List Char} {c : Char} (h : Spoiled run after)
    (htext : run ++ after = c :: rest) :
    startsNumber (c :: rest) = true ∨ isQuotationMark c = true := by
  rcases h.sort with ⟨parts, hparts, rfl, -⟩ | ⟨mark, value, hmark, rfl, -⟩
  · rw [← htext]
    exact .inl (NumberParts.startsNumber_text hparts after)
  · obtain ⟨rfl, -⟩ := List.cons.inj htext
    exact .inr hmark

section Numbers

variable {parts : NumberParts} {after rest : List Char} {c : Char}

theorem isLongest_number (hstart : startsNumber (c :: rest) = true)
    (hafter : (NumberParts.of (c :: rest)).text ++ after = c :: rest) :
    IsLongest d (NumberParts.of (c :: rest)).text after
      (.number (String.ofList (NumberParts.of (c :: rest)).text)) where
  token := .number (NumberParts.wellFormed_of hstart)
  longest := by
    intro other rest' kind' hother htext
    rw [hafter] at htext
    rcases hother.of_startsNumber htext.symm hstart with ⟨⟨parts, hparts, rfl⟩, -⟩ | rfl
    · rw [htext]
      exact NumberParts.length_text_le hparts rest'
    · exact List.length_pos_iff.mpr (numberParts_text_ne_nil hstart)

theorem findsLongest_number (hstart : startsNumber (c :: rest) = true) :
    FindsLongest d (c :: rest) (numberLexeme (c :: rest)) := by
  have hwell := NumberParts.wellFormed_of hstart
  obtain ⟨after, hafter⟩ := (isNumberPiece_text (c :: rest)).front
  have hlongest := isLongest_number (d := d) hstart hafter
  have hdrop := congrArg (List.drop (NumberParts.of (c :: rest)).text.length) hafter
  rw [List.drop_left] at hdrop
  have hfinite := NumberParts.isFiniteNumber_text hwell
  unfold numberLexeme
  simp only [← hdrop]
  generalize NumberParts.of (c :: rest) = parts at *
  split
  · rename_i hattached
    refine ⟨rfl, ?_⟩
    intro run after' kind htext hrun
    obtain ⟨rfl, rfl⟩ := hlongest.unique hrun (hafter.trans htext)
    obtain ⟨x, later, rfl, hx⟩ := exists_of_takeWhile_ne_nil (by simpa using hattached)
    exact .attached hwell hx
  · split
    · rename_i hrange
      refine ⟨rfl, ?_⟩
      intro run after' kind htext hrun
      obtain ⟨rfl, rfl⟩ := hlongest.unique hrun (hafter.trans htext)
      simp only [Bool.and_eq_true, Bool.not_eq_true', ← Bool.not_eq_true, hfinite, not_lt] at hrange
      exact .outOfRange hwell hrange.1 hrange.2
    · rename_i hunattached hrange
      refine ⟨after, hafter.symm, hlongest, ?_⟩
      intro hspoiled
      rcases hspoiled.sort with ⟨other, hother, htext, hnext | ⟨hfractional, hvalue⟩⟩ |
        ⟨mark, value, hmark, htext, -⟩
      · obtain ⟨x, hx, hword⟩ := hnext
        apply hunattached
        obtain ⟨later, rfl⟩ := List.head?_eq_some_iff.mp hx
        simp [List.takeWhile_cons_of_pos hword]
      · obtain rfl := NumberParts.text_injective hwell hother htext
        apply hrange
        simp only [Bool.and_eq_true, Bool.not_eq_true', ← Bool.not_eq_true, hfinite, not_lt]
        exact ⟨hfractional, hvalue⟩
      · exact text_ne_quoted hwell hmark value htext

end Numbers

section Quotations

variable {mark : Char} {text value run rest : List Char}

/-- A quotation ends at the first mark that is not doubled. -/
theorem quotedRun_eq_some (h : quotedRun mark text = some (value, run)) :
    run = doubled mark value ++ [mark] ∧ ∃ after, text = run ++ after ∧ after.head? ≠ some mark := by
  induction text using quotedRun.induct mark generalizing value run with
  | case1 => simp [quotedRun] at h
  | case2 =>
      simp only [quotedRun, if_true, Option.some.injEq, Prod.mk.injEq] at h
      obtain ⟨rfl, rfl⟩ := h
      exact ⟨rfl, [], rfl, by simp⟩
  | case3 c hc => simp [quotedRun, hc] at h
  | case4 rest ih =>
      simp only [quotedRun, if_true, Option.map_eq_some_iff, Prod.exists, Prod.mk.injEq] at h
      obtain ⟨value', run', hrun, rfl, rfl⟩ := h
      obtain ⟨rfl, after, rfl, hafter⟩ := ih hrun
      exact ⟨by simp [doubled], after, rfl, hafter⟩
  | case5 next rest hnext =>
      simp only [quotedRun, if_true, hnext, if_false, Option.some.injEq, Prod.mk.injEq] at h
      obtain ⟨rfl, rfl⟩ := h
      exact ⟨rfl, next :: rest, rfl, by simpa using hnext⟩
  | case6 c next rest hc ih =>
      rw [quotedRun_cons hc] at h
      simp only [Option.map_eq_some_iff, Prod.exists, Prod.mk.injEq] at h
      obtain ⟨value', run', hrun, rfl, rfl⟩ := h
      obtain ⟨rfl, after, hafter, hnext⟩ := ih hrun
      exact ⟨by simp [doubled, hc], after, by rw [hafter]; rfl, hnext⟩

/-- A quotation at the front of a text is not longer than the one that is found, and
without one every quotation is followed by its mark. -/
theorem doubled_front (value : List Char) (htext : text = doubled mark value ++ mark :: rest) :
    (quotedRun mark text = none → rest.head? = some mark) ∧
      ∀ found, quotedRun mark text = some found →
        (doubled mark value ++ [mark]).length ≤ found.2.length := by
  have hfront := @quotedRun_append mark value (mark :: rest)
  rw [← htext] at hfront
  -- The mark at the end closes the quotation only if it does not stand there once more.
  by_cases hrest : rest.head? = some mark
  · obtain ⟨later, rfl⟩ := List.head?_eq_some_iff.mp hrest
    refine ⟨fun _ => hrest, ?_⟩
    intro found hfound
    rw [hfront] at hfound
    simp only [quotedRun, if_true, Option.map_eq_some_iff, Option.map_map] at hfound
    obtain ⟨inner, -, rfl⟩ := hfound
    simp
  · rw [quotedRun_mark hrest, Option.map_some] at hfront
    constructor
    · intro hnone
      rw [hfront] at hnone
      cases hnone
    · intro found hfound
      rw [hfront] at hfound
      cases hfound
      simp

theorem findsLongest_quotation {c : Char} (hmark : isQuotationMark c = true) (quotation : Quotation)
    (rest : List Char) : FindsLongest d (c :: rest)
      (quotedLexeme c quotation (quotationKind d c) rest) := by
  have hquoted : ∀ {run after : List Char} {kind : TokenKind}, IsToken d run kind →
      run ++ after = c :: rest →
      ∃ value, run = quoted c value ∧ rest = doubled c value ++ c :: after := by
    intro run after kind htoken htext
    obtain ⟨value, rfl, -⟩ := htoken.of_isQuotationMark htext hmark
    exact ⟨value, rfl, by simpa [quoted] using htext.symm⟩
  unfold quotedLexeme
  cases hrun : quotedRun c rest with
  | none =>
      refine ⟨rfl, ?_⟩
      intro run after kind htext hlongest
      obtain ⟨value, rfl, hrest⟩ := hquoted hlongest.token htext.symm
      obtain ⟨later, rfl⟩ := List.head?_eq_some_iff.mp ((doubled_front value hrest).1 hrun)
      exact .requoted hmark
  | some found =>
      obtain ⟨value, run⟩ := found
      obtain ⟨rfl, after, rfl, hafter⟩ := quotedRun_eq_some hrun
      refine ⟨after, rfl, ⟨.quotation hmark value, ?_⟩, ?_⟩
      · intro other rest' kind hother htext
        obtain ⟨value', rfl, hrest⟩ := hquoted hother htext.symm
        have hlength := (doubled_front value' hrest).2 _ hrun
        simpa [quoted] using hlength
      · intro hspoiled
        rcases hspoiled.sort with ⟨parts, hparts, htext, -⟩ | ⟨mark, value', hmark', htext, hnext⟩
        · exact text_ne_quoted hparts hmark value htext.symm
        · obtain ⟨rfl, -⟩ := List.cons.inj htext
          exact hafter hnext

end Quotations

section Words

variable {c : Char}

theorem findsLongest_word (hc : isWordStart c = true) (rest : List Char) :
    FindsLongest d (c :: rest) (.ok (classifyWord d (String.ofList (c :: rest.takeWhile isWordChar)),
      c :: rest.takeWhile isWordChar)) := by
  have hsplit := List.takeWhile_append_dropWhile (p := isWordChar) (l := rest)
  have hrest : ∀ x ∈ rest.takeWhile isWordChar, isWordChar x = true :=
    fun x hx => List.all_eq_true.mp List.all_takeWhile x hx
  refine ⟨rest.dropWhile isWordChar, by rw [List.cons_append, hsplit], ⟨.word hc hrest, ?_⟩, ?_⟩
  · intro other rest' kind hother htext
    rw [List.cons_append, hsplit] at htext
    obtain ⟨⟨tail, rfl, htail⟩, -⟩ := hother.of_isWordStart htext.symm hc
    obtain ⟨-, rfl⟩ := List.cons.inj htext
    simp [List.takeWhile_append_of_pos htail]
  · intro hspoiled
    rw [← hsplit] at hspoiled
    rcases hspoiled.front rfl with hstart | hmark
    · rw [(isWordStart_of_startsNumber hstart).1] at hc
      cases hc
    · rw [(isWordStart_of_isQuotationMark hmark).1] at hc
      cases hc

end Words

section Symbols

variable {c : Char} {rest : List Char}

theorem findsLongest_symbol (hnumber : startsNumber (c :: rest) = false)
    (hmark : isQuotationMark c = false) (hword : isWordStart c = false) :
    FindsLongest d (c :: rest) (match symbolLexeme? (c :: rest) with
      | some found => .ok found
      | none => .error (.unrecognized c)) := by
  have hsymbol : ∀ {run after : List Char} {kind : TokenKind}, IsToken d run kind →
      run ++ after = c :: rest → IsSymbol run kind :=
    fun htoken htext => htoken.isSymbol htext hnumber hmark hword
  cases hfound : symbolLexeme? (c :: rest) with
  | none =>
      refine ⟨rfl, ?_⟩
      intro run after kind htext hlongest
      obtain ⟨found, hsome, -⟩ := (hsymbol hlongest.token htext.symm).symbolLexeme?_append after
      rw [← htext, hfound] at hsome
      cases hsome
  | some found =>
      obtain ⟨kind, run⟩ := found
      obtain ⟨after, hafter⟩ := (isLexeme_symbolLexeme? (d := d) hfound).front
      refine ⟨after, hafter.symm, ⟨.symbol (isSymbol_symbolLexeme? hfound), ?_⟩, ?_⟩
      · intro other rest' kind' hother htext
        rw [hafter] at htext
        obtain ⟨found, hsome, hlength⟩ := (hsymbol hother htext.symm).symbolLexeme?_append rest'
        rw [← htext, hfound] at hsome
        cases hsome
        exact hlength
      · intro hspoiled
        rcases hspoiled.front hafter with hstart | hquote
        · rw [hnumber] at hstart
          cases hstart
        · rw [hmark] at hquote
          cases hquote

end Symbols

/-- The scanner finds the longest match at the front of a text. -/
theorem findsLongest_lexeme (d : Dialect) (c : Char) (rest : List Char) :
    FindsLongest d (c :: rest) (lexeme d c rest) := by
  unfold lexeme
  split
  · rename_i hstart
    exact findsLongest_number hstart
  · rename_i hnumber
    split
    · rename_i hmark
      subst hmark
      exact findsLongest_quotation rfl _ rest
    · rename_i hsingle
      split
      · rename_i hmark
        subst hmark
        split
        · rename_i hquotes
          have hkind : quotationKind d '"' = .quotedIdentifier := by
            funext value
            simp [quotationKind, hquotes]
          rw [← hkind]
          exact findsLongest_quotation rfl _ rest
        · rename_i hquotes
          have hkind : quotationKind d '"' = .string := by
            funext value
            simp [quotationKind, hquotes]
          rw [← hkind]
          exact findsLongest_quotation rfl _ rest
      · rename_i hdouble
        split
        · rename_i hword
          exact findsLongest_word hword rest
        · rename_i hword
          have hmark : isQuotationMark c = false := by
            simp [isQuotationMark, hsingle, hdouble]
          exact findsLongest_symbol (by simpa using hnumber) hmark (by simpa using hword)

section Streams

variable {run after : List Char} {kind kind' : TokenKind}

/-- How a text is cut up from a place on: white space and the longest match in turn, up to the
end of the text or to a place where no match is accepted. -/
inductive Scans (d : Dialect) : Position → List Char → List Token → Option Position → Prop where
  | done {here : Position} {gap : List Char} (hgap : ∀ c ∈ gap, isBlank c = true) :
      Scans d here gap [⟨.endOfInput, "", here.advance gap⟩] none
  | token {here : Position} {gap run after : List Char} {kind : TokenKind} {tokens : List Token}
      {stop : Option Position} (hgap : ∀ c ∈ gap, isBlank c = true)
      (hlongest : IsLongest d run after kind) (hsound : ¬Spoiled run after)
      (hrest : Scans d ((here.advance gap).advance run) after tokens stop) :
      Scans d here (gap ++ (run ++ after))
        (⟨kind, String.ofList run, here.advance gap⟩ :: tokens) stop
  | stuck {here : Position} {gap rest : List Char} {c : Char}
      (hgap : ∀ c ∈ gap, isBlank c = true) (hblank : isBlank c = false)
      (hspoiled : ∀ run after kind, c :: rest = run ++ after → IsLongest d run after kind →
        Spoiled run after) :
      Scans d here (gap ++ c :: rest) [] (some (here.advance gap))

/-- Whether a stream ends without an error, or with a lexical error at a place. -/
def TokenStream.StopsAt (stream : TokenStream) : Option Position → Prop
  | none => stream.failure = none
  | some p => ∃ error, stream.failure = some error ∧ error.kind = .lexical ∧ error.position = some p

/-- The longest match is what the scanner finds, unless it is spoiled. -/
theorem IsLongest.lexeme_eq {c : Char} {rest : List Char} (h : IsLongest d run after kind)
    (hsound : ¬Spoiled run after) (htext : c :: rest = run ++ after) :
    lexeme d c rest = .ok (kind, run) := by
  have hfinds := findsLongest_lexeme d c rest
  cases hlexeme : lexeme d c rest with
  | error fault =>
      rw [hlexeme] at hfinds
      exact absurd (hfinds.2 run after kind htext h) hsound
  | ok found =>
      obtain ⟨kind', run'⟩ := found
      rw [hlexeme] at hfinds
      obtain ⟨after', htext', hlongest', -⟩ := hfinds
      obtain ⟨rfl, rfl⟩ := h.unique hlongest' (htext.symm.trans htext')
      rw [h.token.kind_unique hlongest'.token]

/-- Reading a text goes past the white space in front of it. -/
theorem readTokens_gap {gap : List Char} {c : Char} (hgap : ∀ x ∈ gap, isBlank x = true)
    (hblank : isBlank c = false) (count : Nat) (here : Position) (rest : List Char) :
    readTokens d (count + 1) here (gap ++ c :: rest) = match lexeme d c rest with
      | .error fault => ⟨[], some (.report fault (here.advance gap))⟩
      | .ok (kind, run) =>
          (readTokens d count ((here.advance gap).advance run) ((c :: rest).drop run.length)).cons
            ⟨kind, String.ofList run, here.advance gap⟩ := by
  have hhead : ∀ x ∈ (c :: rest).head?, isBlank x = false := by
    intro x hx
    cases hx
    exact hblank
  have hdrop := dropWhile_run hgap hhead
  cases hlexeme : lexeme d c rest <;>
    simp only [readTokens, takeWhile_run hgap hhead, hdrop, hlexeme]

/-- Reading the tokens of a text finds its longest matches. -/
theorem Scans.readTokens {here : Position} {text : List Char} {tokens : List Token}
    {stop : Option Position} (h : Scans d here text tokens stop) {count : Nat}
    (hcount : text.length ≤ count) : (readTokens d count here text).tokens = tokens ∧
      (readTokens d count here text).StopsAt stop := by
  -- A match is never empty, so that the count of characters lasts for the rest of the text.
  induction h generalizing count with
  | @done here gap hgap =>
      have hdrop : gap.dropWhile isBlank = [] := List.dropWhile_eq_nil_iff.mpr hgap
      have htake : gap.takeWhile isBlank = gap := List.takeWhile_eq_self_iff.mpr hgap
      cases count with
      | zero =>
          obtain rfl : gap = [] := List.eq_nil_of_length_eq_zero (by omega)
          exact ⟨rfl, rfl⟩
      | succ count => simp [GeoFilter.readTokens, hdrop, htake, TokenStream.StopsAt]
  | @token here gap run after kind tokens stop hgap hlongest hsound hrest ih =>
      obtain ⟨c, tail, rfl⟩ := hlongest.token.exists_cons
      have htext : c :: (tail ++ after) = c :: tail ++ after := rfl
      have hblank := hlongest.token.not_isBlank htext.symm
      have hlexeme := hlongest.lexeme_eq hsound htext
      have hdrop : (c :: (tail ++ after)).drop (c :: tail).length = after :=
        @List.drop_left _ (c :: tail) after
      cases count with
      | zero => simp at hcount
      | succ count =>
          have hlength : after.length ≤ count := by
            simp only [List.length_append, List.length_cons] at hcount
            omega
          obtain ⟨htokens, hstop⟩ := ih hlength
          rw [List.cons_append, readTokens_gap hgap hblank, hlexeme]
          simp only [hdrop, TokenStream.cons, htokens]
          exact ⟨trivial, hstop⟩
  | @stuck here gap rest c hgap hblank hspoiled =>
      have hfinds := findsLongest_lexeme d c rest
      cases count with
      | zero => simp at hcount
      | succ count =>
          rw [readTokens_gap hgap hblank]
          cases hlexeme : lexeme d c rest with
          | ok found =>
              rw [hlexeme] at hfinds
              obtain ⟨after, htext, hlongest, hsound⟩ := hfinds
              exact absurd (hspoiled _ _ _ htext hlongest) hsound
          | error fault =>
              rw [hlexeme] at hfinds
              obtain ⟨hkind, -, hposition⟩ := report_of_nameable (offends_lexeme hblank hlexeme).1
                (some (here.advance gap))
              exact ⟨rfl, _, rfl, hkind.trans hfinds.1, hposition⟩

/-- The tokens that are read are the longest matches of the text. -/
theorem Tokenized.scans {here : Position} {text : List Char} {stream : TokenStream}
    (h : Tokenized d here text stream) :
    ∃ stop, Scans d here text stream.tokens stop ∧ stream.StopsAt stop := by
  induction h with
  | done hgap => exact ⟨none, .done hgap, rfl⟩
  | @token here gap run after rest c kind stream hgap hblank hlexeme hrun hrest ih =>
      obtain ⟨stop, hscans, hstop⟩ := ih
      have hfinds := findsLongest_lexeme d c rest
      rw [hlexeme] at hfinds
      obtain ⟨after', htext, hlongest, hsound⟩ := hfinds
      obtain rfl := List.append_cancel_left (hrun.symm.trans htext)
      rw [hrun]
      exact ⟨stop, .token hgap hlongest hsound hscans, hstop⟩
  | @stuck here gap rest c fault hgap hblank hlexeme =>
      have hfinds := findsLongest_lexeme d c rest
      rw [hlexeme] at hfinds
      obtain ⟨hkind, -, hposition⟩ := report_of_nameable (offends_lexeme hblank hlexeme).1
        (some (here.advance gap))
      exact ⟨some (here.advance gap), .stuck hgap hblank hfinds.2, _, rfl, hkind.trans hfinds.1,
        hposition⟩

theorem TokenStream.StopsAt.unique {stream : TokenStream} {stop stop' : Option Position}
    (h : stream.StopsAt stop) (h' : stream.StopsAt stop') : stop = stop' := by
  cases stop with
  | none =>
      cases stop' with
      | none => rfl
      | some p =>
          obtain ⟨error, herror, -⟩ := h'
          rw [TokenStream.StopsAt] at h
          rw [h] at herror
          cases herror
  | some p =>
      obtain ⟨error, herror, -, hp⟩ := h
      cases stop' with
      | none =>
          rw [TokenStream.StopsAt] at h'
          rw [h'] at herror
          cases herror
      | some q =>
          obtain ⟨error', herror', -, hq⟩ := h'
          rw [herror] at herror'
          cases herror'
          rw [← hp, ← hq]

/-- The scanner cuts a text up into longest matches, and there is only one way to do so: its
tokens are the matches, and it stops with a lexical error exactly where none is accepted. -/
theorem tokenStream_scans_iff (d : Dialect) (text : String) :
    ∃ stop, (tokenStream d text).StopsAt stop ∧ ∀ tokens stop',
      Scans d .start text.toList tokens stop' ↔
        tokens = (tokenStream d text).tokens ∧ stop' = stop := by
  -- That the scanner finds matches gives one way to cut the text up, and reading along any
  -- other way finds the same tokens.
  obtain ⟨stop, hscans, hstop⟩ := (tokenized_tokenStream d text).scans
  refine ⟨stop, hstop, ?_⟩
  intro tokens stop'
  constructor
  · intro h
    obtain ⟨htokens, hstop'⟩ := h.readTokens le_rfl
    exact ⟨htokens.symm, hstop'.unique hstop⟩
  · rintro ⟨rfl, rfl⟩
    exact hscans

end Streams

end GeoFilter
