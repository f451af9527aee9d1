import GeoFilter.Proofs.Token.Stream

/-!
The tokens of a text tile it: the source texts of the tokens stand one behind the other
where the tokens say, with nothing but white space around them, and the end of input stands
behind the last character.
-/

namespace GeoFilter

open Text

namespace Token

/-- The offset behind the source text of a token. -/
def stop (token : Token) : Nat :=
  token.start.offset + token.text.utf8ByteSize

/-- Whether the source text of a token takes up the byte at an offset. -/
def Covers (token : Token) (offset : Nat) : Prop :=
  token.start.offset ≤ offset ∧ offset < token.stop

end Token

/-- The tokens of a whole text. -/
structure Tiles (text : String) (tokens : List Token) : Prop where
  ended : ∃ front last, tokens = front ++ [last] ∧ last.kind = .endOfInput ∧ last.text = "" ∧
    last.start.offset = text.utf8ByteSize ∧ ∀ token ∈ front, token.kind ≠ .endOfInput
  placed : ∀ token ∈ tokens, ∃ before after : String, text = before ++ token.text ++ after ∧
    token.start.StandsBehind before.toList
  ordered : tokens.Pairwise fun a b => a.stop ≤ b.start.offset
  blank : ∀ (before after : String) (c : Char), text = before ++ String.singleton c ++ after →
    (∀ token ∈ tokens, ¬token.Covers before.utf8ByteSize) → isBlank c = true

theorem Position.offset_advance (p : Position) (text : List Char) :
    (p.advance text).offset = p.offset + String.utf8Len text := by
  induction text generalizing p with
  | nil => rfl
  | cons c rest ih =>
      have hnext : (p.next c).offset = p.offset + c.utf8Size := by
        unfold Position.next
        split <;> rfl
      rw [Position.advance_cons, ih, hnext, String.utf8Len_cons]
      omega

/-- The tokens of a text that goes on from a place. -/
structure TilesFrom (here : Position) (text : List Char) (tokens : List Token) : Prop where
  ended : ∃ front last, tokens = front ++ [last] ∧ last.kind = .endOfInput ∧ last.text = "" ∧
    last.start.offset = here.offset + String.utf8Len text ∧
      ∀ token ∈ front, token.kind ≠ .endOfInput
  behind : ∀ token ∈ tokens, here.offset ≤ token.start.offset
  ordered : tokens.Pairwise fun a b => a.stop ≤ b.start.offset
  blank : ∀ before c after, text = before ++ c :: after →
    (∀ token ∈ tokens, ¬token.Covers (here.offset + String.utf8Len before)) → isBlank c = true

variable {here : Position} {gap : List Char}

theorem tilesFrom_end (hgap : ∀ c ∈ gap, isBlank c = true) :
    TilesFrom here gap [⟨.endOfInput, "", here.advance gap⟩] where
  ended := ⟨[], _, rfl, rfl, rfl, here.offset_advance gap, by simp⟩
  behind := by
    intro token htoken
    rw [List.mem_singleton.mp htoken, Position.offset_advance]
    exact Nat.le_add_right _ _
  ordered := List.pairwise_singleton _ _
  blank := by
    intro before c after hsplit _
    exact hgap c (by simp [hsplit])

/-- A character of a text in two pieces stands in the first piece or in the second one. -/
theorem mem_or_behind {a b before after : List Char} {c : Char} (h : a ++ b = before ++ c :: after) :
    (∃ behind, a = before ++ c :: behind) ∨
      ∃ inside, before = a ++ inside ∧ b = inside ++ c :: after := by
  rcases List.append_eq_append_iff.mp h with ⟨inside, hbefore, hb⟩ | ⟨rest, ha, hrest⟩
  · exact .inr ⟨inside, hbefore, hb⟩
  · rcases List.cons_eq_append_iff.mp hrest with ⟨rfl, hb⟩ | ⟨behind, rfl, -⟩
    · exact .inr ⟨[], by simpa using ha.symm, hb⟩
    · exact .inl ⟨behind, ha⟩

/-- White space and a token in front of the tokens of the rest. -/
theorem TilesFrom.cons {run after : List Char} {kind : TokenKind} {tokens : List Token}
    (h : TilesFrom ((here.advance gap).advance run) after tokens)
    (hgap : ∀ c ∈ gap, isBlank c = true) (hkind : kind ≠ .endOfInput) :
    TilesFrom here (gap ++ (run ++ after)) (⟨kind, String.ofList run, here.advance gap⟩ :: tokens) := by
  obtain ⟨⟨front, last, htokens, hend, hempty, hoffset, hfront⟩, hbehind, hordered, hblank⟩ := h
  simp only [Position.offset_advance] at hoffset hbehind hblank
  have hstop : Token.stop ⟨kind, String.ofList run, here.advance gap⟩ =
      here.offset + String.utf8Len gap + String.utf8Len run := by
    simp only [Token.stop, Position.offset_advance, String.utf8ByteSize_ofList]
  refine ⟨?_, ?_, ?_, ?_⟩
  · refine ⟨_ :: front, last, by rw [htokens]; rfl, hend, hempty, ?_, ?_⟩
    · rw [hoffset, String.utf8Len_append, String.utf8Len_append]
      omega
    · intro token htoken
      rcases List.mem_cons.mp htoken with rfl | hmem
      · exact hkind
      · exact hfront token hmem
  · intro token htoken
    rcases List.mem_cons.mp htoken with rfl | hmem
    · exact (Nat.le_add_right _ _).trans_eq (here.offset_advance gap).symm
    · have := hbehind token hmem
      omega
  · refine List.pairwise_cons.mpr ⟨?_, hordered⟩
    intro token htoken
    rw [hstop]
    exact hbehind token htoken
  · -- A character stands in the gap, in the token or behind it.
    intro before c later hsplit huncovered
    rcases mem_or_behind hsplit with ⟨behind, hinside⟩ | ⟨inside, rfl, hbehindGap⟩
    · exact hgap c (by simp [hinside])
    · rcases mem_or_behind hbehindGap with ⟨behind, hinside⟩ | ⟨beyond, rfl, hrest⟩
      · have hcovers := huncovered _ List.mem_cons_self
        rw [Token.Covers, hstop, Position.offset_advance, hinside] at hcovers
        simp only [String.utf8Len_append, String.utf8Len_cons] at hcovers
        have := c.utf8Size_pos
        omega
      · apply hblank beyond c later hrest
        intro token htoken
        have := huncovered token (List.mem_cons_of_mem _ htoken)
        simpa only [String.utf8Len_append, Nat.add_assoc] using this

/-- The tokens of a text that is read to its end. -/
theorem Tokenized.tilesFrom {d : Dialect} {text : List Char} {stream : TokenStream}
    (h : Tokenized d here text stream) (hend : stream.failure = none) :
    TilesFrom here text stream.tokens := by
  induction h with
  | done hgap => exact tilesFrom_end hgap
  | @token here gap run after rest c kind stream hgap hblank hlexeme hrun hrest ih =>
      have hkind : kind ≠ .endOfInput := by
        rintro rfl
        exact (isLexeme_lexeme hlexeme).occurs
      rw [hrun]
      exact (ih hend).cons hgap hkind
  | stuck hgap hblank hlexeme => cases hend

theorem utf8ByteSize_eq (text : String) : text.utf8ByteSize = String.utf8Len text.toList := by
  rw [← String.utf8ByteSize_ofList, String.ofList_toList]

/-- The tokens of a text tile it, in every dialect. -/
theorem tokenize_tiles {d : Dialect} {text : String} {tokens : List Token}
    (h : tokenize d text = .ok tokens) : Tiles text tokens := by
  unfold tokenize at h
  simp only at h
  split at h
  · cases h
  · rename_i hend
    cases h
    obtain ⟨hended, -, hordered, hblank⟩ := (tokenized_tokenStream d text).tilesFrom hend
    refine ⟨?_, ?_, hordered, ?_⟩
    · obtain ⟨front, last, htokens, hkind, hempty, hoffset, hfront⟩ := hended
      refine ⟨front, last, htokens, hkind, hempty, ?_, hfront⟩
      rw [hoffset, utf8ByteSize_eq]
      exact Nat.zero_add _
    · intro token htoken
      obtain ⟨before, after, htext, hstart⟩ := (readFrom_tokenStream d text).placed token htoken
      refine ⟨String.ofList before, String.ofList after, ?_, by simpa using hstart⟩
      apply String.toList_injective
      simp [htext]
    · intro before after c htext huncovered
      apply hblank before.toList c after.toList
      · simp [htext]
      · intro token htoken
        rw [← utf8ByteSize_eq, show Position.start.offset = 0 from rfl, Nat.zero_add]
        exact huncovered token htoken

/-- Words, a number and a quotation, with characters of several bytes, on three lines. -/
theorem tokenize_tiles_standard :
    ∃ tokens, tokenize .standard "naïve >= .5e3\nAND\t'ü''' <>\n 12" = .ok tokens ∧
      tokens.map Token.start = [⟨1, 1, 0⟩, ⟨1, 7, 7⟩, ⟨1, 10, 10⟩, ⟨2, 1, 15⟩, ⟨2, 5, 19⟩, ⟨2, 11, 26⟩,
        ⟨3, 2, 30⟩, ⟨3, 4, 32⟩] ∧
      Tiles "naïve >= .5e3\nAND\t'ü''' <>\n 12" tokens := by
  obtain ⟨tokens, htokens, hstarts⟩ :=
    @exists_ok_and _ (tokenize .standard "naïve >= .5e3\nAND\t'ü''' <>\n 12")
      (fun tokens => tokens.map Token.start == [⟨1, 1, 0⟩, ⟨1, 7, 7⟩, ⟨1, 10, 10⟩, ⟨2, 1, 15⟩,
        ⟨2, 5, 19⟩, ⟨2, 11, 26⟩, ⟨3, 2, 30⟩, ⟨3, 4, 32⟩]) (by decide +kernel)
  exact ⟨tokens, htokens, beq_iff_eq.mp hstarts, tokenize_tiles htokens⟩

end GeoFilter
