import GeoFilter.Proofs.RoundTrip

/-!
Filters in another dialect. The canonical text of a filter for a dialect with the same
predicates and functions denotes the filter again, with its patterns respelled, as long as
the dialect can write the names of its properties. It cannot write every name where double
quotes denote strings: such a name turns into a string.
-/

namespace GeoFilter

/-- The test with its pattern respelled for other special characters. -/
def Like.translate (target : LikeCharacters) (test : Like) : Like :=
  { test with
    pattern := String.ofList (test.characters.respell target test.pattern.toList)
    characters := target }

/-- A test of the same expression for the given special characters, against a pattern that
reads alike. -/
structure Like.Agrees (target : LikeCharacters) (a b : Like) : Prop where
  operand : b.operand = a.operand
  matchCase : b.matchCase = a.matchCase
  characters : b.characters = target
  parts : target.parts b.pattern.toList = a.characters.parts a.pattern.toList

namespace Filter

mutual

/-- The filter with its patterns respelled for other special characters. -/
def translate (target : LikeCharacters) : Filter → Filter
  | .like test => .like (test.translate target)
  | .logical op first second others =>
      .logical op (translate target first) (translate target second) (translateAll target others)
  | .not operand => .not (translate target operand)
  | f => f

def translateAll (target : LikeCharacters) : List Filter → List Filter
  | [] => []
  | first :: others => translate target first :: translateAll target others

end

mutual

/-- The second filter is the first one, but for tests against patterns. These are for the
given special characters, and their patterns read alike. -/
def Agrees (target : LikeCharacters) : Filter → Filter → Prop
  | .like a, g => ∃ b, g = .like b ∧ a.Agrees target b
  | .logical op first second others, g => ∃ first' second' others',
      g = .logical op first' second' others' ∧ Agrees target first first' ∧
        Agrees target second second' ∧ AgreesAll target others others'
  | .not operand, g => ∃ operand', g = .not operand' ∧ Agrees target operand operand'
  | f, g => g = f

def AgreesAll (target : LikeCharacters) : List Filter → List Filter → Prop
  | [], filters => filters = []
  | first :: others, filters => ∃ first' others', filters = first' :: others' ∧
      Agrees target first first' ∧ AgreesAll target others others'

end

end Filter

section Trees

variable {target : LikeCharacters} {P Q : Expression → Prop} {F G : Filter → Prop}

mutual

theorem Filter.agrees_translate (h : target.Distinct) :
    ∀ f : Filter, f.Agrees target (f.translate target)
  | .like test => ⟨_, rfl, rfl, rfl, rfl, by
      rw [Like.translate, String.toList_ofList]
      exact LikeCharacters.parts_respell h _ _⟩
  | .logical _ first second others => ⟨_, _, _, rfl, Filter.agrees_translate h first,
      Filter.agrees_translate h second, Filter.agreesAll_translateAll h others⟩
  | .not operand => ⟨_, rfl, Filter.agrees_translate h operand⟩
  | .everything => rfl
  | .nothing => rfl
  | .comparison _ _ _ => rfl
  | .between _ _ _ => rfl
  | .isNull _ => rfl
  | .oneOf _ _ => rfl
  | .ids _ => rfl
  | .spatial _ => rfl

theorem Filter.agreesAll_translateAll (h : target.Distinct) :
    ∀ filters : List Filter, Filter.AgreesAll target filters (Filter.translateAll target filters)
  | [] => rfl
  | first :: others =>
      ⟨_, _, rfl, Filter.agrees_translate h first, Filter.agreesAll_translateAll h others⟩

end

mutual

theorem Filter.Every.translate (hF : ∀ f, F f → G (f.translate target)) {f : Filter}
    (h : f.Every P F) : (f.translate target).Every P G := by
  cases f with
  | logical op first second others =>
      obtain ⟨hnode, hfirst, hsecond, hothers⟩ := h
      exact ⟨hF _ hnode, hfirst.translate hF, hsecond.translate hF,
        Filter.EveryAll.translateAll hF hothers⟩
  | not operand => exact ⟨hF _ h.1, h.2.translate hF⟩
  | _ => exact ⟨hF _ h.1, h.2⟩

theorem Filter.EveryAll.translateAll (hF : ∀ f, F f → G (f.translate target)) :
    ∀ {filters : List Filter}, Filter.EveryAll P F filters →
      Filter.EveryAll P G (Filter.translateAll target filters)
  | [], _ => trivial
  | _ :: _, ⟨hfirst, hothers⟩ => ⟨hfirst.translate hF, Filter.EveryAll.translateAll hF hothers⟩

end

mutual

/-- Filters that agree are made of the same expressions. -/
theorem Filter.Agrees.every {f g : Filter} (h : f.Agrees target g) (hg : g.Every P F) :
    f.Every P fun _ => True := by
  cases f with
  | like test =>
      obtain ⟨other, rfl, hother⟩ := h
      refine ⟨trivial, fun e he => hg.2 e ?_⟩
      rwa [Filter.expressions, hother.operand]
  | logical op first second others =>
      obtain ⟨first', second', others', rfl, hfirst, hsecond, hothers⟩ := h
      obtain ⟨-, hfirst', hsecond', hothers'⟩ := hg
      exact ⟨trivial, hfirst.every hfirst', hsecond.every hsecond',
        Filter.AgreesAll.every hothers hothers'⟩
  | not operand =>
      obtain ⟨operand', rfl, hoperand⟩ := h
      exact ⟨trivial, hoperand.every hg.2⟩
  | _ =>
      obtain rfl := h
      exact hg.imp (fun _ he => he) fun _ _ => trivial

theorem Filter.AgreesAll.every : ∀ {filters others : List Filter},
    Filter.AgreesAll target filters others → Filter.EveryAll P F others →
      Filter.EveryAll P (fun _ => True) filters
  | [], _, _, _ => trivial
  | _ :: _, _, ⟨_, _, rfl, hfirst, hrest⟩, ⟨hfirst', hrest'⟩ =>
      ⟨hfirst.every hfirst', Filter.AgreesAll.every hrest hrest'⟩

end

end Trees

section Writing

theorem Filter.isLogical_translate (target : LikeCharacters) (f : Filter) :
    (f.translate target).isLogical = f.isLogical := by
  cases f <;> rfl

mutual

/-- Writing respells the patterns, so that it does not matter whether they have been. -/
theorem Filter.write_translate (d : Dialect) (f : Filter) :
    (f.translate d.like).write d = f.write d := by
  cases f with
  | like test =>
      simp only [translate, Filter.write, Like.write, Like.translate, String.toList_ofList,
        LikeCharacters.respell_self]
  | logical op first second others =>
      simp only [translate, Filter.write, isLogical_translate, write_translate d first,
        write_translate d second, writeOperands_translateAll d others]
  | not operand =>
      simp only [translate, Filter.write, isLogical_translate, write_translate d operand]
  | _ => rfl

theorem Filter.writeOperands_translateAll (d : Dialect) : ∀ filters : List Filter,
    Filter.writeOperands d (Filter.translateAll d.like filters) = Filter.writeOperands d filters
  | [] => rfl
  | first :: others => by
      simp only [translateAll, Filter.writeOperands, isLogical_translate, write_translate d first,
        writeOperands_translateAll d others]

end

end Writing

/-- Dialects with the same predicates and functions. -/
structure Dialect.Shares (a b : Dialect) : Prop where
  spatialPredicates : a.spatialPredicates = b.spatialPredicates
  functions : a.functions = b.functions
  strictFunctions : a.strictFunctions = b.strictFunctions

/-- The names of all properties and functions can be written in the dialect. -/
def Filter.Named (d : Dialect) (f : Filter) : Prop :=
  f.Every (Expression.NodeNamed d) fun _ => True

section Dialects

variable {d d₁ d₂ : Dialect}

theorem distinct_of_fault? (h : d.fault? = none) : d.like.Distinct := by
  unfold Dialect.fault? at h
  simp only at h
  split at h
  · cases h
  · rename_i hclash
    simp only [not_or] at hclash
    exact ⟨hclash.1, hclash.2.1, hclash.2.2⟩

namespace Dialect.Shares

theorem spatialEnabled (h : d₁.Shares d₂) : d₁.spatialEnabled = d₂.spatialEnabled := by
  funext op
  unfold Dialect.spatialEnabled
  rw [h.spatialPredicates]

theorem admits (h : d₁.Shares d₂) {name : String} {given : Nat} (hadmits : d₁.Admits name given) :
    d₂.Admits name given := by
  have harity : d₂.functionArity? name = d₁.functionArity? name := by
    unfold Dialect.functionArity?
    rw [h.functions]
  refine ⟨?_, ?_⟩
  · rw [harity]
    exact hadmits.arity
  · rw [harity, ← h.strictFunctions]
    exact hadmits.known

theorem isPlainWord (h : d₁.Shares d₂) : isPlainWord d₁ = isPlainWord d₂ := by
  funext word
  unfold GeoFilter.isPlainWord classifyWord
  rw [h.spatialEnabled]

/-- Names can always be written, except for those that stand between double quotes in a
dialect where double quotes denote strings. -/
theorem nodeNamed (h : d₁.Shares d₂)
    (hquotes : d₂.doubleQuotes = .identifier ∨ d₁.doubleQuotes = .string) {e : Expression}
    (hnamed : e.NodeNamed d₁) : e.NodeNamed d₂ := by
  cases e with
  | property name =>
      rcases hquotes with hidentifier | hstring
      · exact .inl hidentifier
      · -- The first dialect could not quote the name either, so that it is a plain path there.
        have hpath : Writing.isPlainPath d₁ name = true := by
          rcases hnamed with hidentifier | hpath
          · rw [hstring] at hidentifier
            cases hidentifier
          · exact hpath
        unfold Writing.isPlainPath at hpath
        rw [h.isPlainWord] at hpath
        exact .inr hpath
  | call name arguments =>
      have hword : GeoFilter.isPlainWord d₁ name = true := hnamed
      rw [h.isPlainWord] at hword
      exact hword
  | literal value => trivial
  | arithmetic op left right => trivial

theorem expressionAccepted (h : d₁.Shares d₂) {e : Expression} (haccepted : e.NodeAccepted d₁)
    (hnamed : e.NodeNamed d₂) : e.NodeAccepted d₂ := by
  refine ⟨?_, hnamed, haccepted.numeric⟩
  have hresolved := haccepted.resolved
  cases e with
  | literal value => cases value <;> exact hresolved
  | call name arguments => exact h.admits hresolved
  | property name => trivial
  | arithmetic op left right => trivial

theorem filterAccepted (h : d₁.Shares d₂) {f : Filter} (haccepted : f.NodeAccepted d₁) :
    (f.translate d₂.like).NodeAccepted d₂ := by
  obtain ⟨hresolved, hnumeric⟩ := haccepted
  cases f with
  | like test => exact ⟨rfl, trivial⟩
  | logical op first second others =>
      have hlength : 2 ≤ (first.translate d₂.like :: second.translate d₂.like ::
          Filter.translateAll d₂.like others).length := by simp
      exact ⟨hlength, trivial⟩
  | spatial predicate =>
      refine ⟨⟨?_, hresolved.2⟩, hnumeric⟩
      rw [← h.spatialEnabled]
      exact hresolved.1
  | _ => exact ⟨hresolved, hnumeric⟩

end Dialect.Shares

section Finite

theorem Coordinate.Every.isFinite {c : Coordinate}
    (h : c.Every fun value => value.isFinite = true) : c.isFinite = true := by
  obtain ⟨x, y, z⟩ := c
  obtain ⟨hx, hy, hz⟩ := h
  cases z with
  | none => simp [Coordinate.isFinite, hx, hy]
  | some z => simp [Coordinate.isFinite, hx, hy, hz z rfl]

mutual

theorem Geometry.Every.finite : ∀ {g : Geometry},
    (g.Every fun value => value.isFinite = true) → g.Finite
  | .point _, h => fun c hc => (h c hc).isFinite
  | .lineString _, h => fun c hc => (h c hc).isFinite
  | .polygon _, h => fun ring hring c hc => (h ring hring c hc).isFinite
  | .multiPoint _, h => fun c hc => (h c hc).isFinite
  | .multiLineString _, h => fun path hpath c hc => (h path hpath c hc).isFinite
  | .multiPolygon _, h => fun rings hrings ring hring c hc => (h rings hrings ring hring c hc).isFinite
  | .collection members, h => @Geometry.EveryAll.finite members h
  | .envelope _, h => ⟨h.minX, h.minY, h.maxX, h.maxY⟩

theorem Geometry.EveryAll.finite : ∀ {members : List Geometry},
    Geometry.EveryAll (fun value => value.isFinite = true) members → Geometry.FiniteAll members
  | [], _ => trivial
  | _ :: _, ⟨hfirst, hothers⟩ => ⟨hfirst.finite, Geometry.EveryAll.finite hothers⟩

end

theorem Expression.NodeNumericWith.finite {e : Expression}
    (h : e.NodeNumericWith fun value => value.isFinite = true) : e.NodeFinite := by
  have hordinates := h.ordinates
  unfold Expression.NodeOrdinates at hordinates
  split at hordinates
  · exact hordinates.finite
  · rename_i hother
    unfold Expression.NodeFinite
    split
    · exact absurd rfl (hother _)
    · trivial

end Finite

variable {f g : Filter}

/-- A translated filter is well-formed in the dialect it is translated for. -/
theorem wellFormed_translate (hshares : d₁.Shares d₂) (haccepted : f.Accepted d₁)
    (hfinite : f.NumericWith fun value => value.isFinite = true) (hnamed : f.Named d₂) :
    (f.translate d₂.like).WellFormed d₂ := by
  have hnodes := (haccepted.and hfinite).and hnamed
  have hwell : f.Every (Expression.NodeWellFormed d₂) (Filter.NodeAccepted d₁) :=
    hnodes.imp (fun _ hnode => ⟨hshares.expressionAccepted hnode.1.1 hnode.2, hnode.1.2.finite⟩)
      fun _ hnode => hnode.1.1
  exact hwell.translate fun _ hnode => hshares.filterAccepted hnode

theorem Expression.NodeNamed.ofDepth {e : Expression} {depth : Nat}
    (h : e.NodeNamed { d with maxDepth := depth }) : e.NodeNamed d := by
  cases e with
  | property name => exact h
  | call name arguments => exact h
  | literal value => trivial
  | arithmetic op left right => trivial

/-- A text that denotes a filter like the given one shows that its names can be written. -/
theorem named_of_agrees {text : String} {depth : Nat}
    (h : Filter.parse { d with maxDepth := depth } text = .ok g) (hagrees : f.Agrees d.like g) :
    f.Named d :=
  (hagrees.every (accepted_of_parseFilter h)).imp (fun _ hnode => hnode.named.ofDepth)
    fun _ hnode => hnode

/-- Writing a parsed filter for another dialect with the same predicates and functions and
parsing the text there leads to the same filter with its patterns respelled exactly if the
names of its properties can be written in that dialect. They can unless the dialect takes
double quotes for strings and the first one does not. -/
theorem parse_write_translated (hvalid : d₂.fault? = none) (hshares : d₁.Shares d₂) {text : String}
    (h : Filter.parse d₁ text = .ok f)
    (hfinite : f.NumericWith fun value => value.isFinite = true) :
    (d₂.doubleQuotes = .identifier ∨ d₁.doubleQuotes = .string → f.Named d₂) ∧
      (f.Named d₂ → ∃ bound, ∀ depth, bound ≤ depth → ∃ g,
        Filter.parse { d₂ with maxDepth := depth } (f.write d₂) = .ok g ∧ f.Agrees d₂.like g) ∧
      (¬f.Named d₂ → ∀ depth g,
        Filter.parse { d₂ with maxDepth := depth } (f.write d₂) = .ok g → ¬f.Agrees d₂.like g) := by
  have haccepted := accepted_of_parseFilter h
  refine ⟨?_, ?_, ?_⟩
  · intro hquotes
    exact haccepted.imp (fun _ hnode => hshares.nodeNamed hquotes hnode.named) fun _ _ => trivial
  · intro hnamed
    have hwell := wellFormed_translate hshares haccepted hfinite hnamed
    -- The text is that of the translated filter too, which says how much depth it takes.
    refine ⟨(f.translate d₂.like).demand.within.depth, fun depth hdepth =>
      ⟨f.translate d₂.like, ?_, f.agrees_translate (distinct_of_fault? hvalid)⟩⟩
    have hanswers := answers_filter (hwell.accepted depth)
    rw [Filter.write_withDepth, Filter.write_translate] at hanswers
    exact hanswers.eq_ok (complete_filter hwell) hdepth
  · intro hnamed depth g hg hagrees
    exact hnamed (named_of_agrees hg hagrees)

/-- A dialect in which double quotes denote strings, with special characters of its own. -/
abbrev stringQuoting : Dialect :=
  { Dialect.standard with like := ⟨'*', '?', '!'⟩, doubleQuotes := .string }

theorem fault?_stringQuoting : stringQuoting.fault? = none := by decide +kernel

theorem shares_stringQuoting : Dialect.standard.Shares stringQuoting := ⟨rfl, rfl, rfl⟩

/-- A pattern with a character that becomes special and one that does not stay so. -/
def discounts : Filter := .like ⟨.property "shop.offer", "5*\\%%", .standard, true⟩

/-- A property that has to stand between double quotes. -/
def spaced : Filter := .comparison .equal (.property "a b") (.literal (.integer 1))

theorem parse_discounts : Filter.parse .standard "shop.offer LIKE '5*\\%%'" = .ok discounts := by rfl

theorem parse_spaced : Filter.parse .standard "\"a b\" = 1" = .ok spaced := by rfl

theorem numericWith_discounts : discounts.NumericWith fun value => value.isFinite = true := by
  refine ⟨trivial, fun e he => ?_⟩
  rw [List.mem_singleton.mp he]
  exact ⟨trivial, trivial⟩

theorem numericWith_spaced : spaced.NumericWith fun value => value.isFinite = true := by
  refine ⟨trivial, fun e he => ?_⟩
  rcases List.mem_cons.mp he with rfl | hmem
  · exact ⟨trivial, trivial⟩
  · rw [List.mem_singleton.mp hmem]
    exact ⟨trivial, trivial⟩

theorem named_discounts : discounts.Named stringQuoting := by
  have hpath : Writing.isPlainPath stringQuoting "shop.offer" = true := by decide +kernel
  refine ⟨trivial, fun e he => ?_⟩
  rw [List.mem_singleton.mp he]
  exact .inr hpath

theorem not_named_spaced : ¬spaced.Named stringQuoting := by
  have hpath : ¬Writing.isPlainPath stringQuoting "a b" = true := by decide +kernel
  intro h
  rcases h.2 (.property "a b") List.mem_cons_self with hquotes | hplain
  · cases hquotes
  · exact hpath hplain

/-- The pattern moves to the other dialect, and the property does not. -/
theorem parse_write_translated_stringQuoting :
    (Filter.parse .standard "shop.offer LIKE '5*\\%%'" = .ok discounts ∧
      ∃ bound, ∀ depth, bound ≤ depth → ∃ g,
        Filter.parse { stringQuoting with maxDepth := depth } (discounts.write stringQuoting) = .ok g ∧
          discounts.Agrees stringQuoting.like g) ∧
      Filter.parse .standard "\"a b\" = 1" = .ok spaced ∧
        ∀ depth g, Filter.parse { stringQuoting with maxDepth := depth } (spaced.write stringQuoting) =
          .ok g → ¬spaced.Agrees stringQuoting.like g := by
  obtain ⟨-, hmoves, -⟩ := parse_write_translated fault?_stringQuoting shares_stringQuoting
    parse_discounts numericWith_discounts
  obtain ⟨-, -, hchanges⟩ := parse_write_translated fault?_stringQuoting shares_stringQuoting
    parse_spaced numericWith_spaced
  exact ⟨⟨parse_discounts, hmoves named_discounts⟩, parse_spaced, hchanges not_named_spaced⟩

/-- Not every filter means the same in another dialect with the same predicates and functions. -/
theorem not_forall_parse_write_translated :
    ¬∀ d₁ d₂ : Dialect, d₁.fault? = none → d₂.fault? = none → d₁.Shares d₂ →
      ∀ text f, Filter.parse d₁ text = .ok f → (f.NumericWith fun value => value.isFinite = true) →
        ∃ bound, ∀ depth, bound ≤ depth → ∃ g,
          Filter.parse { d₂ with maxDepth := depth } (f.write d₂) = .ok g ∧ f.Agrees d₂.like g := by
  intro h
  have hstandard : Dialect.standard.fault? = none := by decide +kernel
  obtain ⟨bound, hbound⟩ := h .standard stringQuoting hstandard fault?_stringQuoting
    shares_stringQuoting _ spaced parse_spaced numericWith_spaced
  obtain ⟨g, hg, hagrees⟩ := hbound bound le_rfl
  exact not_named_spaced (named_of_agrees hg hagrees)

end Dialects

end GeoFilter
