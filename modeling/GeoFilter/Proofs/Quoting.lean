import GeoFilter.Proofs.Grammar.Surplus

/-!
When property names stand between double quotes. The canonical text of a property is its name
wherever the name denotes the property by itself, and the name between double quotes elsewhere.
Parentheses, quotation marks and white space all take up room that the name does not have, so
that a text which denotes itself as a property consists of plain words and dots.
-/

namespace GeoFilter

open Grammar

variable {d : Dialect} {G : List TokenKind → Geometry → Prop} {kinds : List TokenKind}
  {text : List Char} {name : String}

/-- The characters that a token takes up at least. -/
def TokenKind.width : TokenKind → Nat
  | .identifier name => name.length
  | .quotedIdentifier name => name.length + 2
  | _ => 1

/-- The characters that tokens take up at least. -/
def width (kinds : List TokenKind) : Nat :=
  (kinds.map TokenKind.width).sum

@[simp] theorem width_nil : width [] = 0 := rfl

@[simp] theorem width_cons (kind : TokenKind) (kinds : List TokenKind) :
    width (kind :: kinds) = kind.width + width kinds := by
  simp [width]

@[simp] theorem width_append (kinds kinds' : List TokenKind) :
    width (kinds ++ kinds') = width kinds + width kinds' := by
  simp [width]

theorem width_enclosed (kinds : List TokenKind) : width (enclosed kinds) = width kinds + 2 := by
  simp [enclosed, TokenKind.width]
  omega

section Texts

theorem classifyWord_cases (d : Dialect) (word : String) :
    classifyWord d word = .identifier word ∨ ∃ keyword, classifyWord d word = .keyword keyword := by
  unfold classifyWord
  split
  · exact .inr ⟨_, rfl⟩
  · split
    · exact .inr ⟨_, rfl⟩
    · split
      · exact .inr ⟨_, rfl⟩
      · exact .inl rfl

theorem length_le_doubled (mark : Char) (value : List Char) :
    value.length ≤ (doubled mark value).length := by
  induction value with
  | nil => exact le_rfl
  | cons c value ih =>
      simp only [doubled, List.flatMap_cons, List.length_append, List.length_cons] at ih ⊢
      split <;> simp only [List.length_cons, List.length_nil] <;> omega

/-- A token is no wider than the text that it takes up. -/
theorem IsToken.width_le {run : List Char} {kind : TokenKind} (h : IsToken d run kind)
    (hnonempty : run ≠ []) : kind.width ≤ run.length := by
  have hlength : 1 ≤ run.length := List.length_pos_iff.mpr hnonempty
  cases h with
  | @word first rest hfirst hrest =>
      rcases classifyWord_cases d (String.ofList (first :: rest)) with heq | ⟨keyword, heq⟩
      · rw [heq]
        simp only [TokenKind.width, String.length_ofList, le_refl]
      · rw [heq]
        exact hlength
  | number hparts => exact hlength
  | @quotation mark hmark value =>
      have hdoubled := length_le_doubled mark value
      unfold quotationKind
      split
      · simp only [TokenKind.width, String.length_ofList, quoted, List.length_cons,
          List.length_append, List.length_nil]
        omega
      · exact hlength
  | symbol hsymbol =>
      have hwidth : kind.width = 1 := by cases hsymbol <;> rfl
      rw [hwidth]
      exact hlength

theorem Lexed.width_le (h : Lexed d text kinds) : width kinds ≤ text.length := by
  induction h with
  | done h => exact Nat.zero_le _
  | @token text c rest kind run kinds hdrop hlexeme hkinds ih =>
      have hrun := isLexeme_lexeme hlexeme
      have hfinds := findsLongest_lexeme d c rest
      rw [hlexeme] at hfinds
      obtain ⟨after, htext, hlongest, -⟩ := hfinds
      have hkind := hlongest.token.width_le hrun.nonempty
      have hshort := length_dropWhile_le Text.isBlank text
      rw [hdrop, htext, List.length_append] at hshort
      rw [htext, List.drop_left] at ih
      rw [width_cons]
      omega

end Texts

section Paths

/-- Quotation marks take up more room than the name between them. -/
theorem width_of_nameOf? {kind : TokenKind} (h : nameOf? kind = some name) :
    name.length ≤ kind.width ∧ (kind.width ≤ name.length → kind = .identifier name) := by
  unfold nameOf? at h
  split at h <;> cases h
  · exact ⟨le_rfl, fun _ => rfl⟩
  · exact ⟨Nat.le_add_right _ 2, fun hfits => absurd hfits (by simp [TokenKind.width])⟩

theorem width_dotted {segments : List (TokenKind × String)}
    (h : ∀ segment ∈ segments, nameOf? segment.1 = some segment.2) :
    (segments.map fun segment => segment.2.length + 1).sum ≤ width (dotted segments) ∧
      (width (dotted segments) ≤ (segments.map fun segment => segment.2.length + 1).sum →
        ∀ segment ∈ segments, segment.1 = .identifier segment.2) := by
  induction segments with
  | nil => simp [dotted]
  | cons segment segments ih =>
      obtain ⟨hsegment, hsegments⟩ := List.forall_mem_cons.mp h
      obtain ⟨hlength, hplain⟩ := width_of_nameOf? hsegment
      obtain ⟨hlengths, hplains⟩ := ih hsegments
      have hwidth : width (dotted (segment :: segments)) =
          segment.1.width + 1 + width (dotted segments) := by
        simp only [dotted, List.flatMap_cons, List.cons_append, List.nil_append, width_cons]
        simp only [TokenKind.width]
        omega
      simp only [hwidth, List.map_cons, List.sum_cons]
      refine ⟨by omega, fun hfits => ?_⟩
      exact List.forall_mem_cons.mpr ⟨hplain (by omega), hplains (by omega)⟩

theorem length_intercalate_dots (first : String) (others : List String) :
    (".".intercalate (first :: others)).length =
      first.length + (others.map fun name => name.length + 1).sum := by
  induction others generalizing first with
  | nil => simp
  | cons second others ih =>
      rw [String.intercalate_cons_cons, String.length_append, String.length_append, ih]
      simp only [List.map_cons, List.sum_cons, show ".".length = 1 from rfl]
      omega

/-- A property takes up at least the room of its name, and where there is no more room identifiers
stand with dots between them. -/
theorem Grammar.Denotes.width_property {floor : Nat} (h : Denotes G floor kinds (.property name)) :
    name.length ≤ width kinds ∧ (width kinds ≤ name.length →
      ∃ names, names ≠ [] ∧ name = ".".intercalate names ∧ ∀ n ∈ names, .identifier n ∈ kinds) := by
  generalize he : Expression.property name = e at h
  induction h with
  | @property first others hnames =>
      cases he
      obtain ⟨hfirst, hothers⟩ := List.forall_mem_cons.mp hnames
      obtain ⟨hlength, hplain⟩ := width_of_nameOf? hfirst
      obtain ⟨hlengths, hplains⟩ := width_dotted hothers
      have hname := length_intercalate_dots first.2 (others.map Prod.snd)
      rw [List.map_map] at hname
      simp only [Function.comp_def] at hname
      rw [hname, width_cons]
      refine ⟨by omega, fun hfits => ⟨_, by simp, rfl, List.forall_mem_cons.mpr ⟨?_, ?_⟩⟩⟩
      · rw [← hplain (by omega)]
        exact List.mem_cons_self
      · rw [List.forall_mem_map]
        intro segment hsegment
        rw [← hplains (by omega) segment hsegment]
        exact List.mem_cons_of_mem _ (List.mem_flatMap.mpr ⟨segment, hsegment, by simp⟩)
  | group h ih =>
      obtain ⟨hlength, -⟩ := ih he
      rw [width_enclosed]
      exact ⟨by omega, fun hfits => by omega⟩
  | loose h ih => exact ih he
  | _ => cases he

end Paths

/-- A text that denotes itself as a property is a plain path. -/
theorem isPlainPath_of_parse (h : Expression.parse d name = .ok (.property name)) :
    Writing.isPlainPath d name = true := by
  obtain ⟨kinds, hlexed, hconsumes⟩ := consumes_of_parseExpression h
  obtain ⟨-, hplain⟩ := (hconsumes.denotes (readsGeometry_surplus d)).width_property
  obtain ⟨names, hnonempty, rfl, hnames⟩ := hplain hlexed.width_le
  exact isPlainPath_intercalate hnonempty fun n hn => hlexed.occurs _ (hnames n hn)

theorem parse_write_property (hquotes : d.doubleQuotes = .identifier) (hdepth : 1 ≤ d.maxDepth)
    (name : String) :
    Expression.parse d ((Expression.property name).write d) = .ok (.property name) := by
  have haccepted : (Expression.property name).Accepted d :=
    ⟨trivial, .inl hquotes, trivial⟩
  exact (answers_expression haccepted).eq_ok rfl hdepth

/-- The canonical text of a property denotes it, and it is the bare name exactly where the bare name
denotes the property. -/
theorem write_property_eq_iff (d : Dialect) (hquotes : d.doubleQuotes = .identifier)
    (hdepth : 1 ≤ d.maxDepth) (name : String) :
    Expression.parse d ((Expression.property name).write d) = .ok (.property name) ∧
      ((Expression.property name).write d = name ↔
        Expression.parse d name = .ok (.property name)) := by
  have hparse := parse_write_property hquotes hdepth name
  refine ⟨hparse, fun hbare => ?_, fun hbare => ?_⟩
  · rwa [hbare] at hparse
  · have hplain := isPlainPath_of_parse hbare
    simp [Expression.write, Writing.propertyText, hplain]

/-- A path and a keyword as names. -/
theorem write_property_standard :
    (Dialect.standard.doubleQuotes = .identifier ∧ 1 ≤ Dialect.standard.maxDepth) ∧
      Expression.parse .standard "shop.offer" = .ok (.property "shop.offer") ∧
      Expression.parse .standard "\"And\"" = .ok (.property "And") ∧
      ¬Expression.parse .standard "And" = .ok (.property "And") := by
  have hquotes : Dialect.standard.doubleQuotes = .identifier := rfl
  have hdepth : 1 ≤ Dialect.standard.maxDepth := by decide
  have hpath : (Expression.property "shop.offer").write .standard = "shop.offer" := by
    decide +kernel
  have hkeyword : (Expression.property "And").write .standard = "\"And\"" := by
    decide +kernel
  obtain ⟨hquoted, hbare⟩ := write_property_eq_iff .standard hquotes hdepth "And"
  refine ⟨⟨hquotes, hdepth⟩, ?_, ?_, ?_⟩
  · exact (write_property_eq_iff .standard hquotes hdepth "shop.offer").2.mp hpath
  · rwa [hkeyword] at hquoted
  · rw [← hbare, hkeyword]
    decide

end GeoFilter
