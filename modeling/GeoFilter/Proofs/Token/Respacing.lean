import GeoFilter.Proofs.Token.Longest

/-!
What stands between the tokens of a text does not matter. In front of white space, or of
nothing, a token is found that is found in front of anything else, so that the source texts of
tokens can be put behind each other again with any white space between them.
-/

namespace GeoFilter

open Text

variable {d : Dialect}

/-- A text that is over or goes on with white space. -/
def Gapped (after : List Char) : Prop :=
  ∀ c ∈ after.head?, isBlank c = true

section Blanks

variable {c : Char} {p : Char → Bool}

/-- There are so few blanks that a class without any is found out by looking at each of them. -/
theorem eq_false_of_isBlank (hall : ∀ n ∈ members blankBoundaries, p (Char.ofNat n) = false)
    (h : isBlank c = true) : p c = false := by
  have hc := hall _ (mem_members rfl h)
  rwa [Char.ofNat_toNat] at hc

theorem isWordChar_of_isBlank (h : isBlank c = true) : isWordChar c = false :=
  eq_false_of_isBlank (by decide +kernel) h

theorem isNumberChar_of_isBlank (h : isBlank c = true) : isNumberChar c = false :=
  eq_false_of_isBlank (by decide +kernel) h

theorem isQuotationMark_of_isBlank (h : isBlank c = true) : isQuotationMark c = false :=
  eq_false_of_isBlank (by decide +kernel) h

theorem isBlank_eq_false (hp : p c = true) (hclass : isBlank c = true → p c = false) :
    isBlank c = false := by
  cases hblank : isBlank c with
  | false => rfl
  | true =>
      rw [hclass hblank] at hp
      cases hp

end Blanks

section Tokens

variable {run after after' : List Char} {kind : TokenKind}

theorem isNumberChar_of_mem_text {parts : NumberParts} (h : parts.WellFormed) :
    ∀ c ∈ parts.text, isNumberChar c = true := by
  have hparts := @NumberParts.of_append parts h [] (by simp)
  have hpiece := (isNumberPiece_text (parts.text ++ [])).chars
  rwa [hparts] at hpiece

theorem IsSymbol.isBlank_of_mem (h : IsSymbol run kind) : ∀ c ∈ run, isBlank c = false := by
  have hall : (run.all fun c => !isBlank c) = true := by
    cases h with
    | operator op => rcases op with (_ | _ | _ | _ | _ | _) | _ | _ | _ | _ <;> decide
    | notEqual => decide
    | punctuation mark => cases mark <;> decide
  simpa using hall

/-- Of the tokens only quotations have white space in them. -/
theorem IsToken.isBlank_of_mem {first : Char} {rest : List Char} (h : IsToken d run kind)
    (htext : run ++ after = first :: rest) (hmark : isQuotationMark first = false) :
    ∀ c ∈ run, isBlank c = false := by
  intro c hc
  cases h with
  | word hfirst hrest =>
      rcases List.mem_cons.mp hc with rfl | hmem
      · exact isBlank_eq_false (isWordChar_of_isWordStart hfirst) isWordChar_of_isBlank
      · exact isBlank_eq_false (hrest c hmem) isWordChar_of_isBlank
  | number hparts =>
      exact isBlank_eq_false (isNumberChar_of_mem_text hparts c hc) isNumberChar_of_isBlank
  | quotation hquote value =>
      obtain ⟨rfl, -⟩ := List.cons.inj htext
      rw [hmark] at hquote
      cases hquote
  | symbol hsymbol => exact hsymbol.isBlank_of_mem c hc

/-- A quotation ends at its mark where anything but another mark comes next. -/
theorem length_quoted_le {mark : Char} {value value' rest : List Char}
    (hhead : after.head? ≠ some mark)
    (htext : quoted mark value ++ after = quoted mark value' ++ rest) :
    (quoted mark value').length ≤ (quoted mark value).length := by
  have hrun := quotedRun_doubled hhead value
  have hrest : doubled mark value ++ mark :: after = doubled mark value' ++ mark :: rest := by
    simpa [quoted] using htext
  have hlength := (doubled_front value' hrest).2 _ hrun
  simpa [quoted] using hlength

/-- The longest match stays the longest in front of white space: another one could go on only
with a blank, and that is in quotations alone. -/
theorem IsLongest.respaced (h : IsLongest d run after kind) (hafter : Gapped after') :
    IsLongest d run after' kind where
  token := h.token
  longest := by
    intro other rest kind' hother htext
    obtain ⟨first, tail, hrun⟩ := h.token.exists_cons
    have hfront : run ++ after' = first :: (tail ++ after') := by rw [hrun, List.cons_append]
    by_cases hmark : isQuotationMark first = true
    · obtain ⟨value, rfl, -⟩ := h.token.of_isQuotationMark hfront hmark
      obtain ⟨value', rfl, -⟩ := hother.of_isQuotationMark (htext.symm.trans hfront) hmark
      refine length_quoted_le ?_ htext
      intro hhead
      rw [isQuotationMark_of_isBlank (hafter first hhead)] at hmark
      cases hmark
    · have hblank := hother.isBlank_of_mem (htext.symm.trans hfront) (by simpa using hmark)
      rcases List.append_eq_append_iff.mp htext with ⟨more, rfl, hmore⟩ | ⟨more, rfl, -⟩
      · cases more with
        | nil => simp
        | cons c later =>
            have hc : isBlank c = true := hafter c (by rw [hmore]; rfl)
            rw [hblank c (by simp)] at hc
            cases hc
      · simp

/-- White space spoils no token. -/
theorem Spoiled.respaced (h : Spoiled run after') (hafter : Gapped after') (after : List Char) :
    Spoiled run after := by
  cases h with
  | attached hparts hc =>
      rw [isWordChar_of_isBlank (hafter _ rfl)] at hc
      cases hc
  | outOfRange hparts hfractional hvalue => exact .outOfRange hparts hfractional hvalue
  | requoted hmark =>
      rw [isQuotationMark_of_isBlank (hafter _ rfl)] at hmark
      cases hmark

end Tokens

/-- The source texts of tokens, each of them behind a gap. -/
def respaced : List String → List Token → String
  | gap :: gaps, token :: tokens => gap ++ token.text ++ respaced gaps tokens
  | _, _ => ""

/-- Gaps in front of the tokens of a text, the last of which is the end of input. Only the gaps
in front of the first token and behind the last one can be empty. -/
structure IsSpacing (gaps : List String) (tokens : List Token) : Prop where
  length : gaps.length = tokens.length
  blank : ∀ gap ∈ gaps, ∀ c ∈ gap.toList, isBlank c = true
  inner : ∀ gap ∈ gaps.tail.dropLast, gap ≠ ""

section Streams

variable {gaps : List String} {gap : String} {token : Token} {tokens : List Token}

theorem IsSpacing.tail (h : IsSpacing (gap :: gaps) (token :: tokens)) : IsSpacing gaps tokens where
  length := Nat.succ.inj h.length
  blank := fun other hother => h.blank other (List.mem_cons_of_mem _ hother)
  inner := by
    intro other hother
    have hsuffix : gaps.tail.dropLast <:+ gaps.dropLast := by
      cases gaps with
      | nil => exact List.suffix_rfl
      | cons first others =>
          cases others with
          | nil => exact List.nil_suffix
          | cons second others => exact List.suffix_cons _ _
    exact h.inner other (hsuffix.mem hother)

/-- Behind a token comes a gap that is not empty, or the last gap. -/
theorem IsSpacing.gapped (h : IsSpacing (gap :: gaps) (token :: tokens))
    (hlast : ∀ last, tokens = [last] → last.text = "") : Gapped (respaced gaps tokens).toList := by
  match gaps, tokens with
  | [], _ => simp [Gapped, respaced]
  | _ :: _, [] => simp [Gapped, respaced]
  | [gap'], [last] =>
      intro c hc
      rw [respaced, hlast last rfl] at hc
      exact h.blank gap' (by simp) c (List.mem_of_mem_head? (by simpa [respaced] using hc))
  | gap' :: gap'' :: gaps, token' :: tokens =>
      have hne : gap' ≠ "" := h.inner gap' (by simp)
      intro c hc
      have hhead : gap'.toList.head? = some c := by
        rw [respaced, String.toList_append, String.toList_append, List.append_assoc,
          List.head?_append_of_ne_nil] at hc
        · exact hc
        · simpa using hne
      exact h.blank gap' (by simp) c (List.mem_of_mem_head? hhead)
  | [_], _ :: _ :: _ =>
      have hlength := h.length
      simp at hlength

theorem Scans.ended {here : Position} {text : List Char} {stop : Option Position}
    (h : Scans d here text tokens stop) (hstop : stop = none) :
    ∃ front last, tokens = front ++ [last] ∧ last.kind = .endOfInput ∧ last.text = "" := by
  induction h with
  | done hgap => exact ⟨[], _, rfl, rfl, rfl⟩
  | token hgap hlongest hsound hrest ih =>
      obtain ⟨front, last, rfl, hlast⟩ := ih hstop
      exact ⟨_ :: front, last, rfl, hlast⟩
  | stuck hgap hblank hspoiled => cases hstop

/-- The tokens of a text with other gaps have the same kinds and source texts. -/
theorem Scans.respaced {here : Position} {text : List Char} {stop : Option Position}
    (h : Scans d here text tokens stop) (hstop : stop = none) (hgaps : IsSpacing gaps tokens)
    (here' : Position) : ∃ tokens', Scans d here' (respaced gaps tokens).toList tokens' none ∧
      tokens'.map Token.kind = tokens.map Token.kind ∧
        tokens'.map Token.text = tokens.map Token.text := by
  induction h generalizing gaps here' with
  | @done here gap hgap =>
      have hlength := hgaps.length
      match gaps with
      | [] => simp at hlength
      | _ :: _ :: _ => simp at hlength
      | [gap'] =>
          have hblank := hgaps.blank gap' (by simp)
          refine ⟨_, .done ?_, rfl, rfl⟩
          simpa [GeoFilter.respaced] using hblank
  | @token here gap run after kind tokens stop hgap hlongest hsound hrest ih =>
      cases gaps with
      | nil =>
          have hlength := hgaps.length
          simp at hlength
      | cons gap' gaps =>
          have hafter : Gapped (GeoFilter.respaced gaps tokens).toList := by
            apply hgaps.gapped
            rintro last rfl
            obtain ⟨front, end', hsplit, -, hempty⟩ := hrest.ended hstop
            obtain rfl : last = end' := by
              simpa using congrArg List.getLast? hsplit
            exact hempty
          obtain ⟨tokens', hscans, hkinds, htexts⟩ := ih hstop hgaps.tail
            ((here'.advance gap'.toList).advance run)
          have hsound' : ¬Spoiled run (GeoFilter.respaced gaps tokens).toList :=
            fun hspoiled => hsound (hspoiled.respaced hafter after)
          have htext : (GeoFilter.respaced (gap' :: gaps)
              (⟨kind, String.ofList run, here.advance gap⟩ :: tokens)).toList =
              gap'.toList ++ (run ++ (GeoFilter.respaced gaps tokens).toList) := by
            simp [GeoFilter.respaced]
          rw [htext]
          exact ⟨_, .token (hgaps.blank gap' (by simp)) (hlongest.respaced hafter) hsound' hscans,
            by simp [hkinds], by simp [htexts]⟩
  | stuck hgap hblank hspoiled => cases hstop

theorem scans_of_tokenize {text : String} (h : tokenize d text = .ok tokens) :
    Scans d .start text.toList tokens none := by
  obtain ⟨stop, hscans, hstop⟩ := (tokenized_tokenStream d text).scans
  obtain ⟨hnone, rfl⟩ := tokenize_eq_ok_iff.mp h
  cases stop with
  | none => exact hscans
  | some p =>
      obtain ⟨error, herror, -⟩ := hstop
      rw [hnone] at herror
      cases herror

theorem tokenize_of_scans {text : String} (h : Scans d .start text.toList tokens none) :
    tokenize d text = .ok tokens := by
  obtain ⟨htokens, hstop⟩ := h.readTokens le_rfl
  exact tokenize_eq_ok_iff.mpr ⟨hstop, htokens⟩

/-- The source texts of the tokens of a text, with any white space around them and with some
between them, are read as tokens of the same kinds and the same source texts, in every dialect. -/
theorem tokenize_respaced {text : String} (h : tokenize d text = .ok tokens)
    (hgaps : IsSpacing gaps tokens) :
    ∃ tokens', tokenize d (respaced gaps tokens) = .ok tokens' ∧
      tokens'.map Token.kind = tokens.map Token.kind ∧
      tokens'.map Token.text = tokens.map Token.text ∧
      ∃ front last, tokens' = front ++ [last] ∧ last.kind = .endOfInput ∧ last.text = "" := by
  obtain ⟨tokens', hscans, hkinds, htexts⟩ := (scans_of_tokenize h).respaced rfl hgaps .start
  exact ⟨tokens', tokenize_of_scans hscans, hkinds, htexts, hscans.ended rfl⟩

/-- Tokens that the scanner tells apart by looking ahead, on lines of their own. -/
theorem tokenize_respaced_standard :
    ∃ tokens, tokenize .standard "it>='it''s'+1.5.e" = .ok tokens ∧
      tokens.map Token.text = ["it", ">=", "'it''s'", "+", "1.5", ".", "e", ""] ∧
      IsSpacing ["", "\n", "\t ", "\n", "\u2003", "\r\n", "\n", "\n"] tokens ∧
      ∃ tokens', tokenize .standard
          (respaced ["", "\n", "\t ", "\n", "\u2003", "\r\n", "\n", "\n"] tokens) = .ok tokens' ∧
        tokens'.map Token.kind = tokens.map Token.kind ∧
        tokens'.map Token.text = tokens.map Token.text ∧
        ∃ front last, tokens' = front ++ [last] ∧ last.kind = .endOfInput ∧ last.text = "" := by
  obtain ⟨tokens, htokens, htexts⟩ :=
    @exists_ok_and _ (tokenize .standard "it>='it''s'+1.5.e")
      (fun tokens => tokens.map Token.text == ["it", ">=", "'it''s'", "+", "1.5", ".", "e", ""])
      (by decide +kernel)
  have htexts := beq_iff_eq.mp htexts
  have hgaps : IsSpacing ["", "\n", "\t ", "\n", "\u2003", "\r\n", "\n", "\n"] tokens := by
    have hlength := congrArg List.length htexts
    rw [List.length_map] at hlength
    have hblank : (["", "\n", "\t ", "\n", "\u2003", "\r\n", "\n", "\n"].all
        fun gap => gap.toList.all isBlank) = true := by
      decide
    exact ⟨hlength.symm, by simpa only [List.all_eq_true] using hblank, by decide⟩
  exact ⟨tokens, htokens, htexts, hgaps, tokenize_respaced htokens hgaps⟩

end Streams

end GeoFilter
