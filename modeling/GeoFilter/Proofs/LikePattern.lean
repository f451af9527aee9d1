import GeoFilter.Filter

/-!
What a pattern is made of, whatever characters it is written with. Respelling a pattern
keeps its parts as long as no character of the target has two meanings, and a target with
such a character spoils some pattern.
-/

namespace GeoFilter

/-- A part of a pattern. An escape character at the end has nothing to act on. -/
inductive PatternPart where
  | anyRun
  | anySingle
  | literal (c : Char)
  | danglingEscape
deriving DecidableEq, Repr

namespace LikeCharacters

/-- The three characters differ. -/
structure Distinct (characters : LikeCharacters) : Prop where
  wildcardSingle : characters.wildcard ≠ characters.single
  wildcardEscape : characters.wildcard ≠ characters.escape
  singleEscape : characters.single ≠ characters.escape

/-- How a pattern reads. -/
def parts (characters : LikeCharacters) : List Char → List PatternPart
  | [] => []
  | c :: rest =>
      if c = characters.escape then
        match rest with
        | [] => [.danglingEscape]
        | escaped :: later => .literal escaped :: parts characters later
      else if c = characters.wildcard then
        .anyRun :: parts characters rest
      else if c = characters.single then
        .anySingle :: parts characters rest
      else
        .literal c :: parts characters rest

variable {characters target : LikeCharacters}

theorem parts_escaped (characters : LikeCharacters) (c : Char) (rest : List Char) :
    characters.parts (characters.escape :: c :: rest) = .literal c :: characters.parts rest := by
  rw [parts, if_pos rfl]

theorem parts_wildcard {c : Char} (hescape : c ≠ characters.escape) (hc : c = characters.wildcard)
    (rest : List Char) : characters.parts (c :: rest) = .anyRun :: characters.parts rest := by
  rw [parts.eq_def]
  exact (if_neg hescape).trans (if_pos hc)

theorem parts_single {c : Char} (hescape : c ≠ characters.escape)
    (hwildcard : c ≠ characters.wildcard) (hc : c = characters.single) (rest : List Char) :
    characters.parts (c :: rest) = .anySingle :: characters.parts rest := by
  rw [parts.eq_def]
  exact (if_neg hescape).trans ((if_neg hwildcard).trans (if_pos hc))

theorem parts_ordinary {c : Char} (hescape : c ≠ characters.escape)
    (hwildcard : c ≠ characters.wildcard) (hsingle : c ≠ characters.single) (rest : List Char) :
    characters.parts (c :: rest) = .literal c :: characters.parts rest := by
  rw [parts.eq_def]
  exact (if_neg hescape).trans ((if_neg hwildcard).trans (if_neg hsingle))

/-- A respelled pattern has the same parts. -/
theorem parts_respell (h : target.Distinct) (source : LikeCharacters) (pattern : List Char) :
    target.parts (source.respell target pattern) = source.parts pattern := by
  fun_induction respell source target pattern with
  | case1 => rfl
  | case2 c hescape =>
      obtain rfl := beq_iff_eq.mp hescape
      simp [parts]
  | case3 c hescape escaped later ih =>
      obtain rfl := beq_iff_eq.mp hescape
      rw [parts_escaped, parts_escaped, ih]
  | case4 c rest hescape hwildcard ih =>
      simp only [beq_iff_eq] at hescape hwildcard
      rw [parts_wildcard h.wildcardEscape rfl, parts_wildcard hescape hwildcard, ih]
  | case5 c rest hescape hwildcard hsingle ih =>
      simp only [beq_iff_eq] at hescape hwildcard hsingle
      rw [parts_single h.singleEscape h.wildcardSingle.symm rfl,
        parts_single hescape hwildcard hsingle, ih]
  | case6 c rest hescape hwildcard hsingle hspecial ih =>
      simp only [beq_iff_eq] at hescape hwildcard hsingle
      rw [parts_escaped, parts_ordinary hescape hwildcard hsingle, ih]
  | case7 c rest hescape hwildcard hsingle hspecial ih =>
      simp only [beq_iff_eq] at hescape hwildcard hsingle
      simp only [isSpecial, Bool.or_eq_true, beq_iff_eq, not_or] at hspecial
      rw [parts_ordinary hspecial.2 hspecial.1.1 hspecial.1.2,
        parts_ordinary hescape hwildcard hsingle, ih]

example : LikeCharacters.standard.respell ⟨'*', '?', '!'⟩ ['5', '*', '\\', '%', '%'] =
    ['5', '!', '*', '!', '%', '*'] := by decide

/-- A character that stands for any run of characters is not the escape character. -/
theorem ne_escape_of_parts_anyRun {c : Char} (h : characters.parts [c] = [.anyRun]) :
    c ≠ characters.escape := by
  rintro rfl
  simp [parts] at h

theorem ne_of_parts_anySingle {c : Char} (h : characters.parts [c] = [.anySingle]) :
    c ≠ characters.escape ∧ c ≠ characters.wildcard := by
  constructor
  · rintro rfl
    simp [parts] at h
  · rintro rfl
    by_cases hescape : characters.wildcard = characters.escape
    · simp [parts, hescape] at h
    · rw [parts_wildcard hescape rfl] at h
      cases h

/-- The targets that keep the parts of every test's pattern are those whose characters differ. -/
theorem distinct_iff_parts_respell (target : LikeCharacters) :
    target.Distinct ↔ ∀ test : Like,
      target.parts (test.characters.respell target test.pattern.toList) =
        test.characters.parts test.pattern.toList := by
  constructor
  · exact fun h test => parts_respell h test.characters test.pattern.toList
  · intro h
    have hrun : target.parts [target.wildcard] = [.anyRun] :=
      h ⟨.literal .null, "%", .standard, true⟩
    have hsingle : target.parts [target.single] = [.anySingle] :=
      h ⟨.literal .null, "_", .standard, true⟩
    obtain ⟨hsingleEscape, hsingleWildcard⟩ := ne_of_parts_anySingle hsingle
    exact ⟨hsingleWildcard.symm, ne_escape_of_parts_anyRun hrun, hsingleEscape⟩

/-- A pattern for one choice of special characters is respelled for the same choice as it is. -/
theorem respell_self (characters : LikeCharacters) (pattern : List Char) :
    characters.respell characters pattern = pattern := by
  fun_induction LikeCharacters.respell characters characters pattern with
  | case1 => rfl
  | case2 c hescape => simpa using (beq_iff_eq.mp hescape).symm
  | case3 c hescape escaped later ih => rw [ih, beq_iff_eq.mp hescape]
  | case4 c rest _ hwildcard ih => rw [ih, beq_iff_eq.mp hwildcard]
  | case5 c rest _ _ hsingle ih => rw [ih, beq_iff_eq.mp hsingle]
  | case6 c rest hescape hwildcard hsingle hspecial ih =>
      simp_all [LikeCharacters.isSpecial]
  | case7 c rest _ _ _ _ ih => rw [ih]

end LikeCharacters

end GeoFilter
