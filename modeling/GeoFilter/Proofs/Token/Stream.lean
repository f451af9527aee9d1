import Mathlib
import GeoFilter.Grammar
import GeoFilter.Proofs.Token.Lexeme

/-!
The tokens of a text as a relation that does not count characters, and where they stand.
Reading the tokens finds exactly those of the relation; each of them stands behind the
piece of text in front of it, and a failure stands where no lexeme begins.
-/

namespace GeoFilter

open Text

/-- The tokens of a text in order, the end of input not among them. -/
inductive Lexed (d : Dialect) : List Char → List TokenKind → Prop where
  | done {text : List Char} (h : text.dropWhile isBlank = []) : Lexed d text []
  | token {text : List Char} {c : Char} {rest : List Char} {kind : TokenKind} {run : List Char}
      {kinds : List TokenKind} (h : text.dropWhile isBlank = c :: rest)
      (hlexeme : lexeme d c rest = .ok (kind, run))
      (hkinds : Lexed d ((c :: rest).drop run.length) kinds) : Lexed d text (kind :: kinds)

theorem length_dropWhile_le (p : Char → Bool) (text : List Char) :
    (text.dropWhile p).length ≤ text.length :=
  (List.dropWhile_sublist p).length_le

theorem readTokens_of_lexed {d : Dialect} {text : List Char} {kinds : List TokenKind}
    (h : Lexed d text kinds) {count : Nat} (hcount : text.length ≤ count) (here : Position) :
    (readTokens d count here text).failure = none ∧
      (readTokens d count here text).tokens.map Token.kind = kinds ++ [.endOfInput] := by
  induction h generalizing count here with
  | @done text h =>
      cases count with
      | zero => exact ⟨rfl, rfl⟩
      | succ count => simp [readTokens, h]
  | @token text c rest kind run kinds h hlexeme hkinds ih =>
      have hdrop := length_dropWhile_le isBlank text
      have hrun : 0 < run.length := List.length_pos_iff.mpr (isLexeme_lexeme hlexeme).nonempty
      rw [h, List.length_cons] at hdrop
      cases count with
      | zero => omega
      | succ count =>
          have hrest : ((c :: rest).drop run.length).length ≤ count := by
            rw [List.length_drop, List.length_cons]
            omega
          obtain ⟨hfailure, htokens⟩ :=
            ih hrest ((here.advance (text.takeWhile isBlank)).advance run)
          simp only [readTokens, h, hlexeme, TokenStream.cons]
          exact ⟨hfailure, by rw [List.map_cons, htokens]; rfl⟩

/-- A position tells how many line feeds, characters and bytes stand in front of it. -/
structure Position.StandsBehind (p : Position) (before : List Char) : Prop where
  line : p.line = before.count '\n' + 1
  column : p.column = (before.reverse.takeWhile (· != '\n')).length + 1
  offset : p.offset = (before.map Char.utf8Size).sum

theorem standsBehind_start : Position.start.StandsBehind [] :=
  ⟨rfl, rfl, rfl⟩

theorem Position.StandsBehind.next {p : Position} {before : List Char} (h : p.StandsBehind before)
    (c : Char) : (p.next c).StandsBehind (before ++ [c]) := by
  unfold Position.next
  by_cases hc : c = '\n'
  · subst hc
    refine ⟨?_, ?_, ?_⟩ <;> simp [h.line, h.offset]
  · refine ⟨?_, ?_, ?_⟩ <;> simp [h.line, h.column, h.offset, hc]

theorem Position.StandsBehind.advance {p : Position} {before : List Char}
    (h : p.StandsBehind before) (text : List Char) :
    (p.advance text).StandsBehind (before ++ text) := by
  induction text generalizing p before with
  | nil => simpa using h
  | cons c rest ih =>
      have hnext := ih (h.next c)
      rw [List.append_assoc] at hnext
      exact hnext

/-- How a text is read from a place on: white space and a lexeme in turn, up to the end of
the text or to a character at which no lexeme begins. -/
inductive Tokenized (d : Dialect) : Position → List Char → TokenStream → Prop where
  | done {here : Position} {gap : List Char} (hgap : ∀ c ∈ gap, isBlank c = true) :
      Tokenized d here gap ⟨[⟨.endOfInput, "", here.advance gap⟩], none⟩
  | token {here : Position} {gap run after rest : List Char} {c : Char} {kind : TokenKind}
      {stream : TokenStream} (hgap : ∀ c ∈ gap, isBlank c = true) (hblank : isBlank c = false)
      (hlexeme : lexeme d c rest = .ok (kind, run)) (hrun : c :: rest = run ++ after)
      (hrest : Tokenized d ((here.advance gap).advance run) after stream) :
      Tokenized d here (gap ++ c :: rest)
        (stream.cons ⟨kind, String.ofList run, here.advance gap⟩)
  | stuck {here : Position} {gap rest : List Char} {c : Char} {fault : Fault}
      (hgap : ∀ c ∈ gap, isBlank c = true) (hblank : isBlank c = false)
      (hlexeme : lexeme d c rest = .error fault) :
      Tokenized d here (gap ++ c :: rest) ⟨[], some (.report fault (here.advance gap))⟩

theorem isBlank_of_mem_takeWhile (text : List Char) : ∀ c ∈ text.takeWhile isBlank, isBlank c = true :=
  fun _ hc => List.all_eq_true.mp List.all_takeWhile _ hc

theorem tokenized_readTokens {d : Dialect} (count : Nat) {here : Position} {text : List Char}
    (hcount : text.length ≤ count) : Tokenized d here text (readTokens d count here text) := by
  induction count generalizing here text with
  | zero =>
      obtain rfl : text = [] := List.eq_nil_of_length_eq_zero (by omega)
      exact .done (by simp)
  | succ count ih =>
      have hsplit := List.takeWhile_append_dropWhile (p := isBlank) (l := text)
      have hgap := isBlank_of_mem_takeWhile text
      unfold readTokens
      simp only
      split
      · rename_i hend
        rw [hend, List.append_nil] at hsplit
        rw [hsplit] at hgap ⊢
        exact .done hgap
      · rename_i c rest hdrop
        have hblank : isBlank c = false := by
          have hhead := List.head?_dropWhile_not isBlank text
          rw [hdrop] at hhead
          simpa using hhead
        have hshorter := length_dropWhile_le isBlank text
        rw [hdrop] at hsplit hshorter
        generalize text.takeWhile isBlank = gap at hsplit hgap ⊢
        subst hsplit
        split
        · rename_i fault hfault
          exact .stuck hgap hblank hfault
        · rename_i kind run hlexeme
          obtain ⟨⟨after, hafter⟩, hnonempty, -⟩ := isLexeme_lexeme hlexeme
          have hpos : 0 < run.length := List.length_pos_iff.mpr hnonempty
          have hlength : after.length ≤ count := by
            have := congrArg List.length hafter
            simp only [List.length_append, List.length_cons] at this hcount
            omega
          rw [← hafter, List.drop_left, hafter]
          exact .token hgap hblank hlexeme hafter.symm (ih hlength)

/-- Reading a whole text. -/
theorem tokenized_tokenStream (d : Dialect) (text : String) :
    Tokenized d .start text.toList (tokenStream d text) :=
  tokenized_readTokens _ le_rfl

theorem tokenize_eq_error_iff {d : Dialect} {text : String} {error : CompileError} :
    tokenize d text = .error error ↔ (tokenStream d text).failure = some error := by
  unfold tokenize
  cases hfailure : (tokenStream d text).failure <;> simp [hfailure]

theorem tokenize_eq_ok_iff {d : Dialect} {text : String} {tokens : List Token} :
    tokenize d text = .ok tokens ↔
      (tokenStream d text).failure = none ∧ (tokenStream d text).tokens = tokens := by
  unfold tokenize
  cases hfailure : (tokenStream d text).failure <;> simp [hfailure]

/-- Every token of a text but the end of input is a lexeme. -/
theorem Tokenized.lexemes {d : Dialect} {here : Position} {text : List Char} {stream : TokenStream}
    (h : Tokenized d here text stream) : ∀ token ∈ stream.tokens, token.kind ≠ .endOfInput →
      ∃ c rest run, lexeme d c rest = .ok (token.kind, run) := by
  induction h with
  | done hgap =>
      intro token htoken hkind
      rw [List.mem_singleton.mp htoken] at hkind
      exact absurd rfl hkind
  | token hgap hblank hlexeme hrun hrest ih =>
      intro token htoken hkind
      rcases List.mem_cons.mp htoken with rfl | hmem
      · exact ⟨_, _, _, hlexeme⟩
      · exact ih token hmem hkind
  | stuck hgap hblank hlexeme => simp

/-- What reading a text leads to: where its tokens stand, which tokens they are, and
where the reading stops short. -/
structure TokenStream.ReadFrom (d : Dialect) (whole : List Char) (stream : TokenStream) :
    Prop where
  placed : ∀ token ∈ stream.tokens, ∃ before after,
    whole = before ++ token.text.toList ++ after ∧ token.start.StandsBehind before
  ended : stream.failure = none → ∃ front last, stream.tokens = front ++ [last] ∧
    last.kind = .endOfInput ∧ ∀ token ∈ front, token.kind.Occurs d
  failed : ∀ error, stream.failure = some error → ∃ before c rest fault p,
    whole = before ++ c :: rest ∧ isBlank c = false ∧ lexeme d c rest = .error fault ∧
      p.StandsBehind before ∧ error = .report fault (some p)

theorem readFrom_end {d : Dialect} {whole before rest : List Char} {here : Position}
    (hwhole : whole = before ++ rest) (hhere : here.StandsBehind before) :
    TokenStream.ReadFrom d whole ⟨[⟨.endOfInput, "", here⟩], none⟩ where
  placed := by
    intro token htoken
    rw [List.mem_singleton.mp htoken]
    exact ⟨before, rest, by simpa using hwhole, hhere⟩
  ended := fun _ => ⟨[], _, rfl, rfl, by simp⟩
  failed := by simp

theorem TokenStream.ReadFrom.cons {d : Dialect} {whole before after : List Char}
    {stream : TokenStream} {token : Token} (h : stream.ReadFrom d whole)
    (hwhole : whole = before ++ token.text.toList ++ after)
    (hstart : token.start.StandsBehind before) (hoccurs : token.kind.Occurs d) :
    (stream.cons token).ReadFrom d whole where
  placed := by
    intro other hother
    rcases List.mem_cons.mp hother with rfl | hmem
    · exact ⟨before, after, hwhole, hstart⟩
    · exact h.placed other hmem
  ended := by
    intro hfailure
    obtain ⟨front, last, htokens, hlast, hfront⟩ := h.ended hfailure
    refine ⟨token :: front, last, by simp [TokenStream.cons, htokens], hlast, ?_⟩
    intro other hother
    rcases List.mem_cons.mp hother with rfl | hmem
    · exact hoccurs
    · exact hfront other hmem
  failed := h.failed

theorem Tokenized.readFrom {d : Dialect} {whole before text : List Char} {here : Position}
    {stream : TokenStream} (h : Tokenized d here text stream) (hwhole : whole = before ++ text)
    (hhere : here.StandsBehind before) : stream.ReadFrom d whole := by
  induction h generalizing before with
  | @done here gap hgap =>
      have hend : whole = before ++ gap ++ [] := by rw [List.append_nil, hwhole]
      exact readFrom_end hend (hhere.advance gap)
  | @token here gap run after rest c kind stream hgap hblank hlexeme hrun hrest ih =>
      have hplace : whole = before ++ gap ++ run ++ after := by
        rw [hwhole, hrun]
        simp only [List.append_assoc]
      have hstart := hhere.advance gap
      exact (ih hplace (hstart.advance run)).cons (by simpa using hplace) hstart
        (isLexeme_lexeme hlexeme).occurs
  | @stuck here gap rest c fault hgap hblank hlexeme =>
      refine ⟨by simp, by simp, ?_⟩
      intro error herror
      cases herror
      exact ⟨before ++ gap, c, rest, fault, _, by rw [hwhole, List.append_assoc], hblank, hlexeme,
        hhere.advance gap, rfl⟩

theorem readFrom_tokenStream (d : Dialect) (text : String) :
    (tokenStream d text).ReadFrom d text.toList :=
  (tokenized_tokenStream d text).readFrom rfl standsBehind_start

/-- A text with the tokens of the relation is tokenized into them. -/
theorem tokenize_of_lexed {d : Dialect} {text : String} {kinds : List TokenKind}
    (h : Lexed d text.toList kinds) :
    ∃ tokens, tokenize d text = .ok tokens ∧ tokens.map Token.kind = kinds ++ [.endOfInput] := by
  obtain ⟨hfailure, htokens⟩ := readTokens_of_lexed h (Nat.le_refl _) Position.start
  exact ⟨(tokenStream d text).tokens, tokenize_eq_ok_iff.mpr ⟨hfailure, rfl⟩, htokens⟩

theorem meaningfulKinds_of_kinds {tokens : List Token} {kinds : List TokenKind}
    (h : tokens.map Token.kind = kinds ++ [.endOfInput]) (hkinds : .endOfInput ∉ kinds) :
    meaningfulKinds tokens = kinds := by
  unfold meaningfulKinds
  rw [h, List.takeWhile_append_of_pos]
  · simp
  · intro kind hkind
    have hne : kind ≠ .endOfInput := by
      rintro rfl
      exact hkinds hkind
    simpa using hne

theorem Lexed.occurs {d : Dialect} {text : List Char} {kinds : List TokenKind}
    (h : Lexed d text kinds) : ∀ kind ∈ kinds, kind.Occurs d := by
  induction h with
  | done h => simp
  | token h hlexeme hkinds ih =>
      intro kind hkind
      rcases List.mem_cons.mp hkind with rfl | hmem
      · exact (isLexeme_lexeme hlexeme).occurs
      · exact ih kind hmem

theorem endOfInput_not_mem {d : Dialect} {kinds : List TokenKind}
    (h : ∀ kind ∈ kinds, kind.Occurs d) : .endOfInput ∉ kinds :=
  fun hmem => h _ hmem

section Results

variable {α : Type}

theorem exists_ok {result : Except CompileError α} (h : result.toOption.isSome = true) :
    ∃ value, result = .ok value := by
  cases result with
  | ok value => exact ⟨value, rfl⟩
  | error error => cases h

theorem exists_ok_and {result : Except CompileError α} {p : α → Bool}
    (h : result.toOption.any p = true) : ∃ value, result = .ok value ∧ p value = true := by
  cases result with
  | ok value => exact ⟨value, rfl, h⟩
  | error error => cases h

end Results

end GeoFilter
