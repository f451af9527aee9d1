import GeoFilter.CommandLine
import GeoFilter.Proofs.Parsing
import GeoFilter.Proofs.Text.Lines
import GeoFilter.Proofs.Token.Tiling

/-!
The caret of an error report. An error stands at a character that is no white space or at the
end of the text, so the caret stands below that character, or behind everything on the line,
however the line is indented and whatever surrounds it.
-/

namespace GeoFilter

open Grammar Text

variable {d : Dialect} {text : String} {α : Type}

/-- A place in a text at which it ends or goes on with a character that is no white space. -/
def Position.StandsOut (whole : List Char) (p : Position) : Prop :=
  ∃ before after, whole = before ++ after ∧ p.StandsBehind before ∧
    ∀ c ∈ after.head?, isBlank c = false

/-- Every token stands out: white space is left behind before one begins. -/
theorem Tokenized.standsOut {here : Position} {whole before rest : List Char}
    {stream : TokenStream} (h : Tokenized d here rest stream) (hwhole : whole = before ++ rest)
    (hhere : here.StandsBehind before) : ∀ token ∈ stream.tokens, token.start.StandsOut whole := by
  induction h generalizing before with
  | @done here gap hgap =>
      intro token htoken
      rw [List.mem_singleton.mp htoken]
      exact ⟨before ++ gap, [], by rw [hwhole, List.append_nil], hhere.advance gap, nofun⟩
  | @token here gap run after rest c kind stream hgap hblank hlexeme hrun hrest ih =>
      intro token htoken
      have hplace : whole = before ++ gap ++ (c :: rest) := by rw [hwhole, List.append_assoc]
      have hstart := hhere.advance gap
      rcases List.mem_cons.mp htoken with rfl | hmem
      · refine ⟨before ++ gap, c :: rest, hplace, hstart, ?_⟩
        rintro x ⟨⟩
        exact hblank
      · refine ih ?_ (hstart.advance run) token hmem
        rw [hplace, hrun, List.append_assoc (before ++ gap)]
  | stuck hgap hblank hlexeme => exact nofun

theorem standsOut_of_tokenize {error : CompileError} (h : tokenize d text = .error error) :
    ∃ p, error.position = some p ∧ p.StandsOut text.toList := by
  obtain ⟨before, c, rest, fault, p, htext, hblank, hlexeme, hp, rfl⟩ :=
    (readFrom_tokenStream d text).failed _ (tokenize_eq_error_iff.mp h)
  have hnameable := (offends_lexeme hblank hlexeme).1
  refine ⟨p, (report_of_nameable hnameable (some p)).2.2, before, c :: rest, htext, hp, ?_⟩
  rintro x ⟨⟩
  exact hblank

theorem standsOut_of_tokens {tokens : List Token} (h : tokenize d text = .ok tokens) :
    ∀ token ∈ tokens, token.start.StandsOut text.toList := by
  obtain ⟨-, rfl⟩ := tokenize_eq_ok_iff.mp h
  exact (tokenized_tokenStream d text).standsOut rfl standsBehind_start

/-- Every error of a text stands out. -/
theorem standsOut_of_parse {production : Parse α} {Q : α → Prop}
    (hyields : Yields (.all d) production Q) {error : CompileError}
    (h : (do runOn production (← tokenize d text)) = .error error) :
    ∃ p, error.position = some p ∧ p.StandsOut text.toList := by
  rcases ofTokens_of_parse h with ⟨other, htokens, hother⟩ | ⟨tokens, htokens, hrun⟩
  · cases hother
    exact standsOut_of_tokenize htokens
  · obtain ⟨hoccurring, hlength, -⟩ := tokens_of_tokenize htokens
    obtain ⟨fault, hnameable, token, htoken, rfl⟩ := report_of_runOn hyields hoccurring hlength hrun
    have hout := standsOut_of_tokens htokens token htoken
    have ⟨before, _, _, hstart, _⟩ := hout
    refine ⟨token.start, ?_, hout⟩
    rw [(report_of_nameable hnameable token.position?).2.2, position?_of_standsBehind hstart]

/-- A line of a text behind its number, without the white space at both ends. -/
def numberedRow (number : Nat) (line : List Char) : List Char :=
  s!"line {number}:  ".toList ++ trim line

/-- Rows that begin with a numbered line and with a caret below it, in a column counted from
zero. -/
def Underlines (rows : List String) (number : Nat) (line : List Char) (column : Nat) : Prop :=
  ∃ rest, rows = String.ofList (numberedRow number line) ::
    String.ofList (List.replicate column ' ' ++ ['^']) :: rest

/-- How rows point at a place between two halves of a text. Where a character follows, the caret
stands below it. At the end of the text it stands behind the line, unless that is blank. -/
structure PointsAt (rows : List String) (before after : List Char) (p : Position) : Prop where
  place : p.StandsBehind before
  character : ∀ c later, after = c :: later → ∃ column,
    Underlines rows p.line (lineAround before after) column ∧
      (numberedRow p.line (lineAround before after))[column]? = some c
  ending : after = [] → (∃ c ∈ lineAround before after, isBlank c = false) → ∃ column,
    Underlines rows p.line (lineAround before after) column ∧
      (numberedRow p.line (lineAround before after)).length ≤ column

section Rows

variable {p : Position} {before after : List Char} {error : CompileError}

/-- The rows of an error begin with the line around its place, if that line is not empty. -/
theorem underlines_errorRows (hplace : p.StandsBehind before) (htext : text.toList = before ++ after)
    (hposition : error.position = some p) (hline : lineAround before after ≠ []) :
    ∃ line ending, lineAround before after = line ++ ending ∧ (∀ c ∈ ending, isBlank c = true) ∧
      Underlines (CommandLine.errorRows text error) p.line (lineAround before after)
        (s!"line {p.line}:  ".toList.length +
          ((lastLine before).length - (line.takeWhile isBlank).length)) := by
  obtain ⟨line, ending, hfound, hsplit, hblank⟩ := exists_line before after hline
  refine ⟨line, ending, hsplit, hblank, ?_⟩
  have hcolumn : p.column - 1 = (lastLine before).length := by
    rw [hplace.column, lastLine, List.length_reverse, Nat.add_sub_cancel]
  have hexcerpt : Excerpt.around? text p = some ⟨p.line, trim line,
      (lastLine before).length - (line.takeWhile isBlank).length⟩ := by
    rw [Excerpt.around?, htext, hplace.line, Nat.add_sub_cancel, hfound, hcolumn]
    rfl
  rw [CommandLine.errorRows, hposition, Option.bind_some, hexcerpt, hsplit]
  refine ⟨CommandLine.errorRow s!"{error.kind.describe} error: {error.message}" ::
    error.causes.map fun cause => CommandLine.causeRow cause.describe, ?_⟩
  rw [numberedRow, trim_append_of_blank hblank]
  rfl

/-- A character that is no white space has the caret below it. -/
theorem underlines_character {c : Char} {later : List Char} (hplace : p.StandsBehind before)
    (htext : text.toList = before ++ c :: later) (hposition : error.position = some p)
    (hc : isBlank c = false) : ∃ column,
      Underlines (CommandLine.errorRows text error) p.line (lineAround before (c :: later)) column ∧
        (numberedRow p.line (lineAround before (c :: later)))[column]? = some c := by
  have hfeed : (c != '\n') = true := by
    refine bne_iff_ne.mpr ?_
    rintro rfl
    cases hc
  have haround : lineAround before (c :: later) =
      lastLine before ++ c :: later.takeWhile (· != '\n') := by
    rw [lineAround, List.takeWhile_cons_of_pos (p := (· != '\n')) hfeed]
  obtain ⟨line, ending, hsplit, hending, hrows⟩ :=
    underlines_errorRows hplace htext hposition (by simp [haround])
  refine ⟨_, hrows, ?_⟩
  -- The character does not belong to the white space at the end of the line.
  rcases mem_or_behind (hsplit.symm.trans haround) with ⟨more, rfl⟩ | ⟨inside, -, hinside⟩
  · rw [numberedRow, List.getElem?_append_right (Nat.le_add_right _ _), Nat.add_sub_cancel_left,
      hsplit, trim_append_of_blank hending]
    exact getElem?_trim hc
  · have hblank := hending c (by simp [hinside])
    rw [hc] at hblank
    cases hblank

/-- At the end of the text the caret stands behind what is shown of the last line. -/
theorem underlines_ending (hplace : p.StandsBehind before) (htext : text.toList = before ++ [])
    (hposition : error.position = some p) (hline : lineAround before [] ≠ []) : ∃ column,
      Underlines (CommandLine.errorRows text error) p.line (lineAround before []) column ∧
        (numberedRow p.line (lineAround before [])).length ≤ column := by
  obtain ⟨line, ending, hsplit, hending, hrows⟩ := underlines_errorRows hplace htext hposition hline
  refine ⟨_, hrows, ?_⟩
  have htrim := length_trim_le line
  have hlength := congrArg List.length hsplit
  rw [lineAround, List.takeWhile_nil, List.append_nil, List.length_append] at hlength
  rw [numberedRow, List.length_append, hsplit, trim_append_of_blank hending]
  omega

theorem pointsAt_errorRows (hplace : p.StandsBehind before)
    (htext : text.toList = before ++ after) (hposition : error.position = some p)
    (hblank : ∀ c ∈ after.head?, isBlank c = false) :
    PointsAt (CommandLine.errorRows text error) before after p where
  place := hplace
  character := by
    rintro c later rfl
    exact underlines_character hplace htext hposition (hblank c rfl)
  ending := by
    rintro rfl ⟨c, hc, -⟩
    exact underlines_ending hplace htext hposition (List.ne_nil_of_mem hc)

end Rows

/-- Showing a result adds no error. -/
theorem error_of_map {β : Type} {result : Except CompileError α} {shown : α → β}
    {error : CompileError} (h : result.map shown = .error error) : result = .error error := by
  cases result with
  | error other =>
      cases h
      rfl
  | ok value => cases h

theorem standsOut_of_parsed {invocation : Invocation} {error : CompileError}
    (h : CommandLine.parsed invocation d text = .error error) :
    ∃ p, error.position = some p ∧ p.StandsOut text.toList := by
  unfold CommandLine.parsed at h
  split at h
  · exact standsOut_of_parse yields_wholeExpression (error_of_map h)
  · exact standsOut_of_parse yields_wholeFilter (error_of_map h)

/-- How an invocation reports an error of a text: with a place in it, at which the rows point. -/
structure Reports (outcome : Outcome) (text : String) (error : CompileError) : Prop where
  code : outcome.code = 1
  errors : outcome.errors = CommandLine.errorRows text error
  pointed : ∃ p before after, error.position = some p ∧ text.toList = before ++ after ∧
    PointsAt outcome.errors before after p

theorem reports_of_standsOut {error : CompileError} (rows : List String)
    (h : ∃ p, error.position = some p ∧ p.StandsOut text.toList) :
    Reports ⟨1, rows, CommandLine.errorRows text error⟩ text error := by
  obtain ⟨p, hposition, before, after, htext, hplace, hblank⟩ := h
  exact ⟨rfl, rfl, p, before, after, hposition, htext,
    pointsAt_errorRows hplace htext hposition hblank⟩

theorem parsed_of_tokenize {error : CompileError} (invocation : Invocation)
    (h : tokenize d text = .error error) : CommandLine.parsed invocation d text = .error error := by
  unfold CommandLine.parsed Expression.parse Filter.parse
  rw [h]
  split <;> rfl

/-- Whatever the invocation and the dialect, every error of a text is reported and pointed at,
and nothing is reported of a text without one. -/
theorem answerFor_reports (invocation : Invocation) (d : Dialect) (text : String) :
    (∀ error, CommandLine.parsed invocation d text = .error error →
      Reports (CommandLine.answerFor invocation d text) text error) ∧
    ∀ shown, CommandLine.parsed invocation d text = .ok shown →
      (CommandLine.answerFor invocation d text).code = 0 ∧
        (CommandLine.answerFor invocation d text).errors = [] := by
  unfold CommandLine.answerFor
  split
  · -- The tokens are shown first, and a text that has none cannot be parsed either.
    rename_i found hshown
    split at hshown
    · have hparsed := parsed_of_tokenize invocation (error_of_map hshown)
      rw [hparsed]
      refine ⟨?_, nofun⟩
      rintro error ⟨⟩
      exact reports_of_standsOut [] (standsOut_of_parsed hparsed)
    · cases hshown
  · rename_i rows _
    cases hparsed : CommandLine.parsed invocation d text with
    | error found =>
        refine ⟨?_, nofun⟩
        rintro error ⟨⟩
        exact reports_of_standsOut rows (standsOut_of_parsed hparsed)
    | ok shown => exact ⟨nofun, fun _ _ => ⟨rfl, rfl⟩⟩

/-- A check of a text without further switches. -/
def plainCheck : Invocation where
  command := .check
  text := none
  file := none
  config := none
  debug := false
  expression := false
  json := false

/-- A text of three lines, with white space of one and of several bytes in front of the last line
and a carriage return behind it. -/
def indentedText : String := "a = 'é\n' AND\n\u3000 \tb ~ 1\r\n"

theorem answerFor_reports_indented :
    (∃ error, CommandLine.parsed plainCheck .standard indentedText = .error error ∧
      Reports (CommandLine.answerFor plainCheck .standard indentedText) indentedText error ∧
      (CommandLine.answerFor plainCheck .standard indentedText).errors.take 2 =
        ["line 3:  b ~ 1", "           ^"]) ∧
    ∃ shown, CommandLine.parsed plainCheck .standard "a = 1" = .ok shown ∧
      (CommandLine.answerFor plainCheck .standard "a = 1").code = 0 ∧
      (CommandLine.answerFor plainCheck .standard "a = 1").errors = [] := by
  obtain ⟨error, herror, -⟩ :=
    @exists_error _ (CommandLine.parsed plainCheck .standard indentedText) .lexical
      (by decide +kernel)
  obtain ⟨shown, hshown⟩ :=
    @exists_ok _ (CommandLine.parsed plainCheck .standard "a = 1") (by decide +kernel)
  exact ⟨⟨error, herror, (answerFor_reports _ _ _).1 error herror, by decide +kernel⟩,
    shown, hshown, (answerFor_reports _ _ _).2 shown hshown⟩

end GeoFilter
