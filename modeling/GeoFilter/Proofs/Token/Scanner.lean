import GeoFilter.Proofs.Token.Longest
import GeoFilter.Proofs.Token.Tiling
import GeoFilter.Token.Scanner

/-!
Where the scanner stops. Called again and again, it yields the tokens of the text, then the
error if there is one, and then nothing any more. However far it looked ahead to find an
error, the text in front of the error has the same tokens and ends where the error stands.
-/

namespace GeoFilter

open Text

variable {d : Dialect}

/-- What there is to yield: the tokens, and behind them the error. -/
def TokenStream.items (stream : TokenStream) : List (Except CompileError Token) :=
  stream.tokens.map .ok ++ stream.failure.toList.map .error

section Calls

variable {here : Position} {text : List Char}

/-- A call goes past the white space in front of the text. -/
theorem Scanner.scan_gap {gap rest : List Char} {c : Char} (hgap : ∀ x ∈ gap, isBlank x = true)
    (hblank : isBlank c = false) (finished : Bool) :
    Scanner.scan d ⟨here, gap ++ c :: rest, finished⟩ = match lexeme d c rest with
      | .error fault => .error (.report fault (here.advance gap))
      | .ok (kind, run) => .ok (⟨kind, String.ofList run, here.advance gap⟩,
          ⟨(here.advance gap).advance run, (c :: rest).drop run.length, finished⟩) := by
  have hhead : ∀ x ∈ (c :: rest).head?, isBlank x = false := by
    rintro x ⟨⟩
    exact hblank
  have hdrop := dropWhile_run hgap hhead
  cases hlexeme : lexeme d c rest <;>
    simp only [Scanner.scan, takeWhile_run hgap hhead, hdrop, hlexeme]

/-- Behind white space alone the end of input is yielded. -/
theorem Scanner.scan_end {gap : List Char} (hgap : ∀ c ∈ gap, isBlank c = true)
    (finished : Bool) : Scanner.scan d ⟨here, gap, finished⟩ =
      .ok (⟨.endOfInput, "", here.advance gap⟩, ⟨here.advance gap, [], finished⟩) := by
  have hdrop : gap.dropWhile isBlank = [] := List.dropWhile_eq_nil_iff.mpr hgap
  have htake : gap.takeWhile isBlank = gap := List.takeWhile_eq_self_iff.mpr hgap
  simp only [Scanner.scan, hdrop, htake]

theorem Scanner.calls_finished {scanner : Scanner} (h : scanner.finished = true) (count : Nat) :
    scanner.calls d count = List.replicate count none := by
  induction count with
  | zero => rfl
  | succ count ih =>
      have hnext : scanner.next d = (none, scanner) := if_pos h
      simp only [Scanner.calls, hnext, ih]
      rfl

theorem Scanner.calls_token {scanner behind : Scanner} {token : Token}
    (h : scanner.finished = false) (hscan : scanner.scan d = .ok (token, behind)) (count : Nat) :
    scanner.calls d (count + 1) = some (.ok token) ::
      Scanner.calls d count { behind with finished := token.kind == .endOfInput } := by
  simp [Scanner.calls, Scanner.next, h, hscan]

theorem Scanner.calls_error {scanner : Scanner} {error : CompileError}
    (h : scanner.finished = false) (hscan : scanner.scan d = .error error) (count : Nat) :
    scanner.calls d (count + 1) = some (.error error) :: List.replicate count none := by
  simp [Scanner.calls, Scanner.next, h, hscan, Scanner.calls_finished]

/-- The calls yield what is read in one go, and nothing behind it. -/
theorem Tokenized.calls {stream : TokenStream} (h : Tokenized d here text stream) (count : Nat) :
    Scanner.calls d (stream.items.length + count) ⟨here, text, false⟩ =
      stream.items.map some ++ List.replicate count none := by
  induction h with
  | @done here gap hgap =>
      rw [show TokenStream.items _ = [.ok _] from rfl, List.length_singleton, Nat.add_comm,
        Scanner.calls_token rfl (Scanner.scan_end hgap false), Scanner.calls_finished rfl]
      rfl
  | @token here gap run after rest c kind stream hgap hblank hlexeme hrun hrest ih =>
      have hkind : (kind == .endOfInput) = false := by
        rw [beq_eq_false_iff_ne]
        rintro rfl
        exact (isLexeme_lexeme hlexeme).occurs
      have hscan := @Scanner.scan_gap d here gap rest c hgap hblank false
      simp only [hlexeme] at hscan
      rw [hrun, List.drop_left] at hscan
      have hitems : (stream.cons ⟨kind, String.ofList run, here.advance gap⟩).items =
          .ok ⟨kind, String.ofList run, here.advance gap⟩ :: stream.items := rfl
      rw [hitems, List.length_cons, Nat.add_right_comm, hrun, Scanner.calls_token rfl hscan, hkind, ih]
      rfl
  | @stuck here gap rest c fault hgap hblank hlexeme =>
      have hscan := @Scanner.scan_gap d here gap rest c hgap hblank false
      simp only [hlexeme] at hscan
      rw [show TokenStream.items _ = [.error _] from rfl, List.length_singleton, Nat.add_comm,
        Scanner.calls_error rfl hscan]
      rfl

end Calls

section Fronts

variable {run after after' : List Char} {kind : TokenKind}

/-- The longest match is the longest as well where less of the text is left. -/
theorem IsLongest.shorten (h : IsLongest d run after kind) (hafter : after' <+: after) :
    IsLongest d run after' kind where
  token := h.token
  longest := by
    intro other rest kind' hother htext
    obtain ⟨more, rfl⟩ := hafter
    refine h.longest other (rest ++ more) kind' hother ?_
    rw [← List.append_assoc, htext, List.append_assoc]

/-- What spoils a token still does so where the text goes on. -/
theorem Spoiled.lengthen (h : Spoiled run after') (hafter : after' <+: after) :
    Spoiled run after := by
  obtain ⟨more, rfl⟩ := hafter
  cases h with
  | attached hparts hc => exact .attached hparts hc
  | outOfRange hparts hfractional hvalue => exact .outOfRange hparts hfractional hvalue
  | requoted hmark => exact .requoted hmark

/-- A text that cannot be cut up to its end has a front that can, up to a character that is no
white space. -/
theorem Scans.front {here place : Position} {text : List Char} {tokens : List Token}
    (h : Scans d here text tokens (some place)) :
    ∃ before c after, text = before ++ c :: after ∧ isBlank c = false ∧
      place = here.advance before ∧
        Scans d here before (tokens ++ [⟨.endOfInput, "", place⟩]) none := by
  generalize hstop : some place = stop at h
  induction h with
  | done hgap => cases hstop
  | @token here gap run behind kind tokens stop hgap hlongest hsound hrest ih =>
      obtain ⟨before, c, after, rfl, hblank, hplace, hscans⟩ := ih hstop
      have hbefore : before <+: before ++ c :: after := List.prefix_append _ _
      refine ⟨gap ++ (run ++ before), c, after, by simp, hblank, ?_, ?_⟩
      · rw [hplace, Position.advance_append, Position.advance_append]
      · exact .token hgap (hlongest.shorten hbefore)
          (fun hspoiled => hsound (hspoiled.lengthen hbefore)) hscans
  | @stuck here gap rest c hgap hblank hspoiled =>
      cases hstop
      exact ⟨gap, c, rest, rfl, hblank, rfl, .done hgap⟩

end Fronts

/-- How reading a text ends in an error. In front of the character at which the error stands
the text has tokens up to there, and these are what the calls yield before the error. -/
structure StopsShort (d : Dialect) (text : String) (error : CompileError) (before : String)
    (front : List Token) (place : Position) : Prop where
  position : error.position = some place
  offset : place.offset = before.utf8ByteSize
  character : ∃ (c : Char) (after : String), text = before ++ String.singleton c ++ after ∧
    isBlank c = false
  tokens : tokenize d before = .ok (front ++ [⟨.endOfInput, "", place⟩])
  meaningful : ∀ token ∈ front, token.kind ≠ .endOfInput
  calls : ∀ count, (Scanner.ofText text).calls d (front.length + 1 + count) =
    front.map (some ∘ .ok) ++ some (.error error) :: List.replicate count none

/-- A text with a lexical error has the tokens of the text in front of the error, and
nothing is read behind it. -/
theorem tokenize_stopsShort {d : Dialect} {text : String} {error : CompileError}
    (h : tokenize d text = .error error) :
    ∃ before front place, StopsShort d text error before front place := by
  have hfailure : (tokenStream d text).failure = some error := tokenize_eq_error_iff.mp h
  have htokenized := tokenized_tokenStream d text
  obtain ⟨stop, hscans, hstop⟩ := htokenized.scans
  cases stop with
  | none =>
      rw [TokenStream.StopsAt, hfailure] at hstop
      cases hstop
  | some place =>
      obtain ⟨found, hfound, -, hposition⟩ := hstop
      obtain rfl := Option.some.inj (hfailure.symm.trans hfound)
      obtain ⟨before, c, after, htext, hblank, hplace, hfront⟩ := hscans.front
      -- The front is read to its end, so that its last token is the end of input.
      rw [← String.toList_ofList (l := before)] at hfront
      obtain ⟨htokens, hend⟩ := hfront.readTokens le_rfl
      have hread : (tokenStream d (String.ofList before)).tokens = _ := htokens
      obtain ⟨others, last, hlast, -, hoccurs⟩ :=
        (readFrom_tokenStream d (String.ofList before)).ended hend
      rw [hread] at hlast
      obtain ⟨rfl, -⟩ := List.append_inj' hlast rfl
      refine ⟨String.ofList before, (tokenStream d text).tokens, place, hposition, ?_, ?_, ?_, ?_, ?_⟩
      · rw [hplace, Position.offset_advance, String.utf8ByteSize_ofList]
        exact Nat.zero_add _
      · refine ⟨c, String.ofList after, ?_, hblank⟩
        apply String.toList_injective
        simp [htext]
      · exact tokenize_eq_ok_iff.mpr ⟨hend, hread⟩
      · rintro token htoken hkind
        have := hoccurs token htoken
        rw [hkind] at this
        exact this
      · intro count
        have hcalls := htokenized.calls count
        rw [TokenStream.items, hfailure] at hcalls
        simpa [Scanner.ofText] using hcalls

/-- Two lines with a quotation and a number that goes on with a letter. -/
theorem tokenize_stopsShort_standard :
    ∃ error, tokenize .standard "ï <> 'a''b'\n\t1.5e+2x 'open" = .error error ∧
      error.position = some ⟨2, 2, 14⟩ ∧
      ∃ before front place,
        StopsShort .standard "ï <> 'a''b'\n\t1.5e+2x 'open" error before front place := by
  have hposition : (match tokenize .standard "ï <> 'a''b'\n\t1.5e+2x 'open" with
      | .ok _ => none
      | .error error => error.position) = some ⟨2, 2, 14⟩ := by
    decide +kernel
  cases h : tokenize .standard "ï <> 'a''b'\n\t1.5e+2x 'open" with
  | ok tokens =>
      rw [h] at hposition
      cases hposition
  | error error =>
      rw [h] at hposition
      exact ⟨error, rfl, hposition, tokenize_stopsShort h⟩

end GeoFilter
