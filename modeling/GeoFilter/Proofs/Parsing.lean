import GeoFilter.Proofs.Grammar.Accepted
import GeoFilter.Proofs.Token.Failure
import GeoFilter.Proofs.Token.Stream

/-!
What parsing a text promises. Every node of a tree that a text denotes is resolved in the
dialect, and every error of a text can be shown and stands at one of its tokens or at the
characters that are none.
-/

namespace GeoFilter

open Grammar Text

variable {d : Dialect} {K : Vocabulary d} {text : String} {α : Type}

/-- The tokens of a text are those that can occur, with the end of input behind them. -/
theorem tokens_of_tokenize {tokens : List Token} (h : tokenize d text = .ok tokens) :
    Occurring (.all d) (meaningfulKinds tokens) ∧ (meaningfulKinds tokens).length < tokens.length ∧
      ∀ token ∈ tokens, ∃ before after,
        text.toList = before ++ token.text.toList ++ after ∧ token.start.StandsBehind before := by
  have hread := readFrom_tokenStream d text
  obtain ⟨hfailure, rfl⟩ := tokenize_eq_ok_iff.mp h
  obtain ⟨front, last, htokens, hlast, hfront⟩ := hread.ended hfailure
  have hoccurs : ∀ kind ∈ front.map Token.kind, kind.Occurs d := by
    intro kind hkind
    obtain ⟨token, htoken, rfl⟩ := List.mem_map.mp hkind
    exact hfront token htoken
  have hkinds : (tokenStream d text).tokens.map Token.kind =
      front.map Token.kind ++ [.endOfInput] := by
    rw [htokens, List.map_append, List.map_singleton, hlast]
  have hmeaningful := meaningfulKinds_of_kinds hkinds (endOfInput_not_mem hoccurs)
  refine ⟨?_, ?_, hread.placed⟩
  · rw [hmeaningful]
    exact hoccurs
  · rw [hmeaningful, htokens, List.length_map, List.length_append, List.length_singleton]
    omega

theorem property_of_runOn {production : Parse α} {Q : α → Prop} (hyields : Yields K production Q)
    {tokens : List Token} (htokens : Occurring K (meaningfulKinds tokens)) {value : α}
    (h : runOn production tokens = .ok value) : Q value := by
  have hproduction := hyields ⟨meaningfulKinds tokens, .resting 0⟩ htokens
  obtain ⟨last, hresult⟩ := exists_of_runOn h
  rw [hresult] at hproduction
  exact hproduction.1

/-- The place of a failure is a token of the list, or the end of input behind it. -/
theorem report_of_runOn {production : Parse α} {Q : α → Prop} (hyields : Yields K production Q)
    {tokens : List Token} (htokens : Occurring K (meaningfulKinds tokens))
    (hlength : (meaningfulKinds tokens).length < tokens.length) {error : CompileError}
    (h : runOn production tokens = .error error) :
    ∃ fault : Fault, fault.Nameable ∧ ∃ token ∈ tokens, error = .report fault token.position? := by
  have hproduction := hyields ⟨meaningfulKinds tokens, .resting 0⟩ htokens
  obtain ⟨failure, hresult, rfl⟩ := exists_failure_of_runOn h
  rw [hresult] at hproduction
  have hindex : (meaningfulKinds tokens).length - failure.place.length < tokens.length := by
    omega
  refine ⟨failure.fault, hproduction, _, List.getElem_mem hindex, ?_⟩
  rw [List.getElem?_eq_getElem hindex, Option.bind_some]

theorem ofTokens_of_parse {production : Parse α} {result : Except CompileError α}
    (h : (do runOn production (← tokenize d text)) = result) :
    (∃ error, tokenize d text = .error error ∧ result = .error error) ∨
      ∃ tokens, tokenize d text = .ok tokens ∧ runOn production tokens = result := by
  cases htokens : tokenize d text with
  | ok tokens =>
      rw [htokens] at h
      exact .inr ⟨tokens, rfl, h⟩
  | error error =>
      rw [htokens] at h
      exact .inl ⟨error, rfl, h.symm⟩

/-- The tokens of a text as a vocabulary. -/
def vocabulary {tokens : List Token} (h : tokenize d text = .ok tokens) : Vocabulary d where
  holds kind := kind ∈ meaningfulKinds tokens
  occurs := (tokens_of_tokenize h).1

theorem builtFrom_of_parse {production : Parse α} {Q : Vocabulary d → α → Prop}
    (hyields : ∀ K, Yields K production (Q K)) {value : α}
    (h : (do runOn production (← tokenize d text)) = .ok value) :
    ∃ (tokens : List Token) (htokens : tokenize d text = .ok tokens), Q (vocabulary htokens) value := by
  rcases ofTokens_of_parse h with ⟨_, _, herror⟩ | ⟨tokens, htokens, hrun⟩
  · cases herror
  · exact ⟨tokens, htokens, property_of_runOn (hyields _) (fun _ hkind => hkind) hrun⟩

theorem builtFrom_of_parseFilter {f : Filter} (h : Filter.parse d text = .ok f) :
    ∃ (tokens : List Token) (htokens : tokenize d text = .ok tokens),
      f.BuiltFrom (vocabulary htokens) :=
  builtFrom_of_parse (fun _ => yields_wholeFilter) h

theorem builtFrom_of_parseExpression {e : Expression} (h : Expression.parse d text = .ok e) :
    ∃ (tokens : List Token) (htokens : tokenize d text = .ok tokens),
      e.BuiltFrom (vocabulary htokens) :=
  builtFrom_of_parse (fun _ => yields_wholeExpression) h

theorem accepted_of_parseFilter {f : Filter} (h : Filter.parse d text = .ok f) :
    f.Accepted d := by
  obtain ⟨_, _, hbuilt⟩ := builtFrom_of_parseFilter h
  exact hbuilt.accepted

theorem accepted_of_parseExpression {e : Expression} (h : Expression.parse d text = .ok e) :
    e.Accepted d := by
  obtain ⟨_, _, hbuilt⟩ := builtFrom_of_parseExpression h
  exact hbuilt.accepted

/-- Every node of a tree that a text denotes is resolved, in any dialect whatever. -/
theorem parse_resolved (d : Dialect) (text : String) :
    (∀ f, Filter.parse d text = .ok f → f.Resolved d) ∧
      ∀ e, Expression.parse d text = .ok e → e.Resolved d :=
  ⟨fun _ h => (accepted_of_parseFilter h).resolved, fun _ h => (accepted_of_parseExpression h).resolved⟩

/-- A filter with a call and a list, and an expression with a chain. -/
theorem parse_resolved_standard :
    (∃ f, Filter.parse .standard "abs(a) > 1 AND NOT b IN ('x')" = .ok f ∧
      f.Resolved .standard) ∧
      ∃ e, Expression.parse .standard "1 + area(POINT EMPTY) * -a" = .ok e ∧
        e.Resolved .standard := by
  have hfilter : (Filter.parse .standard
      "abs(a) > 1 AND NOT b IN ('x')").toOption.isSome = true := by
    decide +kernel
  have hexpression : (Expression.parse .standard
      "1 + area(POINT EMPTY) * -a").toOption.isSome = true := by
    decide +kernel
  obtain ⟨f, hf⟩ := exists_ok hfilter
  obtain ⟨e, he⟩ := exists_ok hexpression
  exact ⟨⟨f, hf, (parse_resolved _ _).1 f hf⟩, ⟨e, he, (parse_resolved _ _).2 e he⟩⟩

/-- Where a token of a text starts, the end of input included. -/
def StartsToken (d : Dialect) (text : String) (p : Position) : Prop :=
  ∃ tokens, tokenize d text = .ok tokens ∧ ∃ token ∈ tokens, token.start = p ∧
    ∃ before after, text.toList = before ++ token.text.toList ++ after ∧ p.StandsBehind before

/-- Where a run of characters starts that a fault of the scanner blames. -/
def StartsOffence (text : String) (fault : Fault) (p : Position) : Prop :=
  ∃ before run after, text.toList = before ++ (run ++ after) ∧ run ≠ [] ∧
    fault.Blames run after ∧ p.StandsBehind before

/-- An error of a text that can be shown, with its place in the text. -/
structure CompileError.Located (d : Dialect) (text : String) (error : CompileError) : Prop where
  kind : error.kind ≠ .internal
  message : validateMessage error.message = .ok ()
  position : ∃ p, error.position = some p ∧ (StartsToken d text p ∨
    error.kind = .lexical ∧ ∃ fault : Fault, error.message = fault.message ∧
      StartsOffence text fault p)

theorem located_of_tokenize {error : CompileError} (h : tokenize d text = .error error) :
    error.Located d text := by
  obtain ⟨before, c, rest, fault, p, htext, hblank, hlexeme, hp, rfl⟩ :=
    (readFrom_tokenStream d text).failed _ (tokenize_eq_error_iff.mp h)
  obtain ⟨hnameable, run, after, hrest, hnonempty, hblames⟩ := offends_lexeme hblank hlexeme
  obtain ⟨hkind, hmessage, hposition⟩ := report_of_nameable hnameable (some p)
  refine ⟨?_, ?_, p, hposition, .inr ⟨?_, fault, hmessage, before, run, after, ?_, hnonempty,
    hblames, hp⟩⟩
  · rw [hkind]
    exact fault.kind_ne_internal
  · rw [hmessage]
    exact validateMessage_of_nameable hnameable
  · rw [hkind]
    exact hblames.kind
  · rw [htext, hrest]

/-- A token that stands in a text is on some line, so that its place is known. -/
theorem position?_of_standsBehind {token : Token} {before : List Char}
    (h : token.start.StandsBehind before) : token.position? = some token.start := by
  have hline : token.start.line ≠ 0 := by
    rw [h.line]
    exact Nat.succ_ne_zero _
  rw [Token.position?, if_neg hline]

theorem located_of_runOn {production : Parse α} {Q : α → Prop} (hyields : Yields (.all d) production Q)
    {tokens : List Token} (htokens : tokenize d text = .ok tokens) {error : CompileError}
    (h : runOn production tokens = .error error) : error.Located d text := by
  obtain ⟨hoccurring, hlength, hplaced⟩ := tokens_of_tokenize htokens
  obtain ⟨fault, hnameable, token, htoken, rfl⟩ := report_of_runOn hyields hoccurring hlength h
  obtain ⟨hkind, hmessage, hposition⟩ := report_of_nameable hnameable token.position?
  obtain ⟨before, after, htext, hstart⟩ := hplaced token htoken
  refine ⟨?_, ?_, token.start, ?_, .inl ⟨tokens, htokens, token, htoken, rfl, before, after, htext,
    hstart⟩⟩
  · rw [hkind]
    exact fault.kind_ne_internal
  · rw [hmessage]
    exact validateMessage_of_nameable hnameable
  · rw [hposition, position?_of_standsBehind hstart]

theorem located_of_parse {production : Parse α} {Q : α → Prop} (hyields : Yields (.all d) production Q)
    {error : CompileError} (h : (do runOn production (← tokenize d text)) = .error error) :
    error.Located d text := by
  rcases ofTokens_of_parse h with ⟨other, htokens, hother⟩ | ⟨tokens, htokens, hrun⟩
  · cases hother
    exact located_of_tokenize htokens
  · exact located_of_runOn hyields htokens hrun

/-- Every error of a text can be shown and is located in the text, whatever the dialect. -/
theorem error_located (d : Dialect) (text : String) :
    (∀ error, tokenize d text = .error error → error.Located d text) ∧
      (∀ error, Filter.parse d text = .error error → error.Located d text) ∧
        ∀ error, Expression.parse d text = .error error → error.Located d text :=
  ⟨fun _ h => located_of_tokenize h, fun _ h => located_of_parse yields_wholeFilter h,
    fun _ h => located_of_parse yields_wholeExpression h⟩

theorem exists_error {result : Except CompileError α} {kind : ErrorKind}
    (h : (match result with | .ok _ => none | .error error => some error.kind) = some kind) :
    ∃ error, result = .error error ∧ error.kind = kind := by
  cases result with
  | ok value => cases h
  | error error => exact ⟨error, rfl, Option.some.inj h⟩

theorem exists_error_and {result : Except CompileError α} {p : CompileError → Bool}
    (h : (match result with | .ok _ => false | .error error => p error) = true) :
    ∃ error, result = .error error ∧ p error = true := by
  cases result with
  | ok value => cases h
  | error error => exact ⟨error, rfl, h⟩

/-- A character that is no token, a filter that ends early and a call with too few
arguments. -/
theorem error_located_standard :
    (∃ error, tokenize .standard "a ~ 1" = .error error ∧ error.kind = .lexical ∧
      error.Located .standard "a ~ 1") ∧
      (∃ error, Filter.parse .standard "a =" = .error error ∧ error.kind = .syntactic ∧
        error.Located .standard "a =") ∧
        ∃ error, Expression.parse .standard "1 + abs()" = .error error ∧
          error.kind = .semantic ∧ error.Located .standard "1 + abs()" := by
  obtain ⟨character, hcharacter, hlexical⟩ :=
    @exists_error _ (tokenize .standard "a ~ 1") .lexical (by decide +kernel)
  obtain ⟨ending, hending, hsyntactic⟩ :=
    @exists_error _ (Filter.parse .standard "a =") .syntactic (by decide +kernel)
  obtain ⟨arity, harity, hsemantic⟩ :=
    @exists_error _ (Expression.parse .standard "1 + abs()") .semantic (by decide +kernel)
  exact ⟨⟨character, hcharacter, hlexical, (error_located _ _).1 _ hcharacter⟩,
    ⟨ending, hending, hsyntactic, (error_located _ _).2.1 _ hending⟩,
    ⟨arity, harity, hsemantic, (error_located _ _).2.2 _ harity⟩⟩

end GeoFilter
