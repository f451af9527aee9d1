import GeoFilter.Proofs.Grammar.Ending

/-!
The end of input in a list of tokens. Nothing behind the first one is looked at, by whatever
production and wherever it stands, and a list without one is read as if it had one at its end.
-/

namespace GeoFilter

open Grammar

variable {d : Dialect} {α : Type} {ts rest : List Token}

/-- Runs a production on all tokens of a list, what stands behind an end of input included. -/
def runThrough (production : Parse α) (tokens : List Token) : Except CompileError α :=
  let kinds := tokens.map Token.kind
  match production ⟨kinds, .resting 0⟩ with
  | .ok (value, _) => .ok value
  | .error failure =>
      let index := kinds.length - failure.place.length
      .error (.report failure.fault (tokens[index]?.bind Token.position?))

/-- An end of input that was not read from a text. -/
def suppliedEnd : Token := ⟨.endOfInput, "", ⟨0, 0, 0⟩⟩

/-- What is left out as not looked at begins with an end of input. -/
theorem exists_ended (tokens : List Token) :
    ∃ tail, tokens.map Token.kind = meaningfulKinds tokens ++ tail ∧ Ended tail := by
  refine ⟨_, List.takeWhile_append_dropWhile.symm, ?_⟩
  cases hbehind : (tokens.map Token.kind).dropWhile (· ≠ .endOfInput) with
  | nil => rfl
  | cons kind more =>
      have hkind := List.head?_dropWhile_not (· ≠ .endOfInput) (tokens.map Token.kind)
      rw [hbehind] at hkind
      have hend : kind = .endOfInput := by simpa using hkind
      exact hend

/-- Productions that stop in front of an end of input need not be kept from what stands behind. -/
theorem runThrough_eq_runOn {production : Parse α}
    (h : ∀ tail, Ended tail → ∀ kinds gauge,
      Concurs tail (production ⟨kinds, gauge⟩) (production ⟨kinds ++ tail, gauge⟩))
    (tokens : List Token) : runThrough production tokens = runOn production tokens := by
  obtain ⟨tail, hkinds, htail⟩ := exists_ended tokens
  have hconcurs := h tail htail (meaningfulKinds tokens) (.resting 0)
  unfold runThrough runOn
  simp only [hkinds]
  generalize production ⟨meaningfulKinds tokens, .resting 0⟩ = result at hconcurs
  generalize production ⟨meaningfulKinds tokens ++ tail, .resting 0⟩ = result' at hconcurs
  cases hconcurs with
  | value value later later' => rfl
  | failure fault place =>
      simp only [List.length_append, Nat.add_sub_add_right]

theorem meaningfulKinds_append_ended {behind : List Token} (hts : ∀ t ∈ ts, t.kind ≠ .endOfInput)
    (hbehind : Ended (behind.map Token.kind)) :
    meaningfulKinds (ts ++ behind) = ts.map Token.kind := by
  unfold meaningfulKinds
  rw [List.map_append, List.takeWhile_append_of_pos]
  · cases behind with
    | nil => simp
    | cons e rest =>
        have he : e.kind = .endOfInput := hbehind
        simp [he]
  · simpa using hts

/-- Behind tokens without an end of input, only the place of the next one matters. -/
theorem runOn_append_ended (production : Parse α) {behind behind' : List Token}
    (hts : ∀ t ∈ ts, t.kind ≠ .endOfInput) (hbehind : Ended (behind.map Token.kind))
    (hbehind' : Ended (behind'.map Token.kind))
    (hplace : behind.head?.bind Token.position? = behind'.head?.bind Token.position?) :
    runOn production (ts ++ behind) = runOn production (ts ++ behind') := by
  have hindex : ∀ index ≤ ts.length, (ts ++ behind)[index]?.bind Token.position? =
      (ts ++ behind')[index]?.bind Token.position? := by
    intro index hle
    rcases Nat.lt_or_eq_of_le hle with hlt | rfl
    · rw [List.getElem?_append_left hlt, List.getElem?_append_left hlt]
    · rw [List.getElem?_append_right (Nat.le_refl _), List.getElem?_append_right (Nat.le_refl _),
        Nat.sub_self, ← List.head?_eq_getElem?, ← List.head?_eq_getElem?]
      exact hplace
  unfold runOn
  simp only [meaningfulKinds_append_ended hts hbehind, meaningfulKinds_append_ended hts hbehind',
    List.length_map]
  split
  · rfl
  · rw [hindex _ (Nat.sub_le _ _)]

theorem runOn_supplied (production : Parse α) (hts : ∀ t ∈ ts, t.kind ≠ .endOfInput) :
    runOn production ts = runOn production (ts ++ [suppliedEnd]) := by
  have hsupplied : runOn production (ts ++ []) = runOn production (ts ++ [suppliedEnd]) :=
    runOn_append_ended production hts rfl rfl rfl
  rwa [List.append_nil] at hsupplied

/-- Only the tokens up to the first end of input count, and one that is missing is supplied. The
productions see to this by themselves, on all tokens of a list. -/
theorem ofTokens_endOfInput (d : Dialect) :
    (∀ ts : List Token, (∀ t ∈ ts, t.kind ≠ .endOfInput) →
      (∀ e rest, e.kind = .endOfInput →
        Filter.ofTokens d (ts ++ e :: rest) = Filter.ofTokens d (ts ++ [e]) ∧
          Expression.ofTokens d (ts ++ e :: rest) = Expression.ofTokens d (ts ++ [e])) ∧
      Filter.ofTokens d ts = Filter.ofTokens d (ts ++ [suppliedEnd]) ∧
        Expression.ofTokens d ts = Expression.ofTokens d (ts ++ [suppliedEnd])) ∧
    ∀ tokens, runThrough (wholeFilter d) tokens = Filter.ofTokens d tokens ∧
      runThrough (wholeExpression d) tokens = Expression.ofTokens d tokens := by
  refine ⟨fun ts hts => ⟨fun e rest he => ?_, ?_⟩, fun tokens => ?_⟩
  · exact ⟨runOn_append_ended _ hts he he rfl, runOn_append_ended _ hts he he rfl⟩
  · exact ⟨runOn_supplied _ hts, runOn_supplied _ hts⟩
  · exact ⟨runThrough_eq_runOn (fun _ htail => concurs_wholeFilter htail) tokens,
      runThrough_eq_runOn (fun _ htail => concurs_wholeExpression htail) tokens⟩

/-- A comparison that ends early, with its second operand behind the end of input. -/
theorem ofTokens_endOfInput_early :
    let early : List Token :=
      [⟨.identifier "a", "a", ⟨1, 1, 0⟩⟩, ⟨.operator (.comparison .equal), "=", ⟨1, 3, 2⟩⟩]
    let stop : Token := ⟨.endOfInput, "", ⟨1, 4, 3⟩⟩
    let behind : List Token := [⟨.number "1", "1", ⟨1, 5, 4⟩⟩]
    (∀ t ∈ early, t.kind ≠ .endOfInput) ∧ stop.kind = .endOfInput ∧
      Filter.ofTokens .standard (early ++ stop :: behind) =
        Filter.ofTokens .standard (early ++ [stop]) ∧
      Filter.ofTokens .standard early = Filter.ofTokens .standard (early ++ [suppliedEnd]) ∧
      runThrough (wholeFilter .standard) (early ++ stop :: behind) =
        Filter.ofTokens .standard (early ++ stop :: behind) := by
  intro early stop behind
  have hearly : ∀ t ∈ early, t.kind ≠ .endOfInput := by simp [early]
  obtain ⟨hcount, hsupplied, -⟩ := (ofTokens_endOfInput .standard).1 early hearly
  exact ⟨hearly, rfl, (hcount stop behind rfl).1, hsupplied,
    ((ofTokens_endOfInput .standard).2 _).1⟩

end GeoFilter
