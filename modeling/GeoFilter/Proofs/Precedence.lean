import GeoFilter.Proofs.Grammar.Composition

/-!
Precedence and associativity of the operators. Multiplications and divisions are taken together
first, then additions and subtractions, from the left both times, and signs bind tightest. A sign
directly in front of a number belongs to the number; any other subtracts from zero.
-/

namespace GeoFilter

open Grammar Text

variable {d : Dialect} {α : Type}

/-- A text that is a single number. -/
def IsNumeral (d : Dialect) (text digits : String) : Prop :=
  ∃ tokens, tokenize d text = .ok tokens ∧ meaningfulKinds tokens = [.number digits]

/-- A text behind a number of signs, and what it denotes together with them: the text of anything
but a number or an operator, a number, or the text of any expression between parentheses. The
depth is no part of it. -/
inductive IsAtom (d : Dialect) (signs : Nat) : String → Expression → Prop where
  | plain {text : String} {e : Expression} {depth : Nat}
      (h : Expression.parse { d with maxDepth := depth } text = .ok e)
      (hroot : ∀ op a b, e ≠ .arithmetic op a b)
      (hnumber : e.literal?.bind Literal.toFloat? = none) : IsAtom d signs text (subtracted signs e)
  | number {text digits : String} {value : Literal} (htext : IsNumeral d text digits)
      (hvalue : Check.numberLiteral (decide (0 < signs)) digits = .ok value) :
      IsAtom d signs text (subtracted (signs - 1) (.literal value))
  | group {text : String} {e : Expression} {depth : Nat}
      (h : Expression.parse { d with maxDepth := depth } text = .ok e) :
      IsAtom d signs ("(" ++ text ++ ")") (subtracted signs e)

/-- An atom with any number of signs in front, and with white space between them and behind. -/
def IsFactor (d : Dialect) (text : String) (e : Expression) : Prop :=
  ∃ signs atom gap : String, text = signs ++ atom ++ gap ∧
    (∀ c ∈ signs.toList, c = '-' ∨ isBlank c = true) ∧ (∀ c ∈ gap.toList, isBlank c = true) ∧
    IsAtom d (signs.toList.count '-') atom e

namespace Chain

/-- The maximal runs of multiplications and divisions, with the other operators between them. -/
def runs (first : α) : List (ArithmeticOp × α) → Chain (Chain α)
  | [] => ⟨⟨first, []⟩, []⟩
  | (op, next) :: links =>
      let rest := runs next links
      if op.precedence = 2 then
        ⟨⟨first, (op, rest.first.first) :: rest.first.links⟩, rest.links⟩
      else
        ⟨⟨first, []⟩, (op, rest.first) :: rest.links⟩

/-- The operands grouped by precedence, each group from the left. -/
def grouped (value : α → Expression) (c : Chain α) : Expression :=
  (runs c.first c.links).tree (tree value)

section Runs

variable (first : α) (links : List (ArithmeticOp × α))

theorem text_runs (spelling : α → String) :
    (runs first links).text (text spelling) = text spelling ⟨first, links⟩ := by
  induction links generalizing first with
  | nil => simp [runs, text]
  | cons link links ih =>
      obtain ⟨op, next⟩ := link
      have hrest := ih next
      simp only [text] at hrest
      by_cases hop : op.precedence = 2
      · simp only [runs, hop, if_true, text, List.map_cons, String.join_cons, ← hrest,
          String.append_assoc]
      · simp only [runs, hop, if_false, text, List.map_cons, List.map_nil, String.join_cons,
          ← hrest, String.append_assoc]
        simp

/-- Within a run there are tighter operators, and between the runs there are the others. -/
theorem precedence_runs :
    (∀ link ∈ (runs first links).links, link.1.precedence = 1) ∧
      ∀ run ∈ (runs first links).operands, ∀ link ∈ run.links, link.1.precedence = 2 := by
  induction links generalizing first with
  | nil => simp [runs, operands]
  | cons link links ih =>
      obtain ⟨op, next⟩ := link
      obtain ⟨hbetween, hwithin⟩ := ih next
      simp only [operands, List.forall_mem_cons] at hwithin
      obtain ⟨hfirst, hothers⟩ := hwithin
      by_cases hop : op.precedence = 2
      · simp only [runs, hop, if_true, operands, List.forall_mem_cons]
        exact ⟨hbetween, ⟨trivial, hfirst⟩, hothers⟩
      · have hop' : op.precedence = 1 := by cases op <;> simp [ArithmeticOp.precedence] at hop ⊢
        simp only [runs, hop, if_false, operands, List.forall_mem_cons, List.map_cons]
        exact ⟨⟨hop', hbetween⟩, by simp, hfirst, hothers⟩

theorem forall_operands_runs {P : α → Prop} (h : ∀ x ∈ operands ⟨first, links⟩, P x) :
    ∀ run ∈ (runs first links).operands, ∀ x ∈ run.operands, P x := by
  induction links generalizing first with
  | nil => simpa [runs, operands] using h
  | cons link links ih =>
      obtain ⟨op, next⟩ := link
      simp only [operands, List.map_cons, List.forall_mem_cons] at h
      obtain ⟨hfirst, hnext, hlinks⟩ := h
      have hrest := ih next (List.forall_mem_cons.mpr ⟨hnext, hlinks⟩)
      simp only [operands, List.forall_mem_cons] at hrest
      obtain ⟨⟨hhead, hwithin⟩, hothers⟩ := hrest
      by_cases hop : op.precedence = 2
      · simp only [runs, hop, if_true, operands, List.forall_mem_cons, List.map_cons]
        exact ⟨⟨hfirst, hhead, hwithin⟩, hothers⟩
      · simp only [runs, hop, if_false, operands, List.forall_mem_cons, List.map_cons, List.map_nil]
        exact ⟨⟨hfirst, by simp⟩, ⟨hhead, hwithin⟩, hothers⟩

end Runs

end Chain

section Factors

variable {text : String} {e : Expression} {signs : Nat} {kinds : List TokenKind}

theorem lexed_signs {front after : List Char} (hfront : ∀ c ∈ front, c = '-' ∨ isBlank c = true)
    (h : Lexed d after kinds) :
    Lexed d (front ++ after) (List.replicate (front.count '-') (.operator .minus) ++ kinds) := by
  induction front with
  | nil => exact h
  | cons c front ih =>
      have hrest := ih fun x hx => hfront x (List.mem_cons_of_mem _ hx)
      by_cases hc : c = '-'
      · subst hc
        rw [List.count_cons_self, List.replicate_succ]
        exact opens_minus _ _ hrest
      · have hblank := (hfront c List.mem_cons_self).resolve_left hc
        rw [List.count_cons_of_ne hc]
        have hgap : ∀ x ∈ [c], isBlank x = true := by simpa using hblank
        have hlexed := Lexed.gap hgap hrest
        exact hlexed

/-- Signs in front of an atom are read with it. -/
theorem IsAtom.reads (h : IsAtom d signs text e) :
    ∃ (kinds : List TokenKind) (bound : Nat), Lexed d text.toList kinds ∧
      ∀ limit tail, Follows 3 tail → ReadsWithin (d.withDepth limit) (unary (d.withDepth limit))
        (List.replicate signs (.operator .minus) ++ (kinds ++ tail)) (.expression e) tail
        (bound + signs) := by
  cases h with
  | @plain _ e depth h hroot hnumber =>
      obtain ⟨kinds, hlexed, hconsumes⟩ := consumes_of_parseExpression h
      have hunary := hconsumes.unary hroot
      refine ⟨kinds, depth - 1, hlexed.withDepth d.maxDepth, fun limit tail hfollows => ?_⟩
      apply ReadsWithin.signs (hunary.head_ne_number hnumber tail)
      exact hunary.readsWithin hfollows fun _ _ hlevel => carries_unary hlevel
  | @number _ digits value htext hvalue =>
      obtain ⟨tokens, htokens, hkinds⟩ := htext
      refine ⟨[.number digits], 0, hkinds ▸ lexed_of_tokenize htokens, fun limit tail _ => ?_⟩
      have hreads := reads_numberLiteral (d := d.withDepth limit) hvalue tail
      cases signs with
      | zero => exact hreads.freely
      | succ signs =>
          have hnumber := ReadsWithin.signs (by simp) (hreads.within rfl) signs
          rw [List.replicate_succ', List.append_assoc]
          exact hnumber.mono (Nat.add_le_add_left (Nat.le_succ signs) 0)
  | @group text e depth h =>
      obtain ⟨kinds, bound, hlexed, hreads⟩ := (textReads_of_parseExpression h).group
      refine ⟨enclosed kinds, bound, hlexed, fun limit tail _ => ?_⟩
      exact (hreads limit tail).signs (by simp [enclosed]) signs

theorem IsFactor.reads (h : IsFactor d text e) :
    TextReads d unary (Follows 3) text.toList (.expression e) := by
  obtain ⟨signs, atom, gap, rfl, hsigns, hgap, hatom⟩ := h
  obtain ⟨kinds, bound, hlexed, hreads⟩ := hatom.reads
  have hseparated : Separated gap.toList := fun c hc =>
    isSeparator_of_isBlank (hgap c (List.mem_of_mem_head? hc))
  have hbehind := hlexed.append (lexed_gap hgap) hseparated
  refine ⟨List.replicate (signs.toList.count '-') (.operator .minus) ++ (kinds ++ []),
    bound + signs.toList.count '-', ?_, fun limit tail hfollows => ?_⟩
  · rw [String.toList_append, String.toList_append, List.append_assoc]
    exact lexed_signs hsigns hbehind
  · rw [List.append_nil, List.append_assoc]
    exact hreads limit tail hfollows

end Factors

/-- Factors with operators between them are read as their groups wherever enough depth is left. -/
theorem parse_factors (d : Dialect) (factors : Chain (String × Expression))
    (hfactors : ∀ factor ∈ factors.operands, IsFactor d factor.1 factor.2) :
    ∃ bound, ∀ depth, bound ≤ depth →
      Expression.parse { d with maxDepth := depth } (factors.text Prod.fst) =
        .ok (factors.grouped Prod.snd) := by
  obtain ⟨hbetween, hwithin⟩ := Chain.precedence_runs factors.first factors.links
  have hoperands := Chain.forall_operands_runs factors.first factors.links hfactors
  have hruns : ∀ run ∈ (Chain.runs factors.first factors.links).operands,
      TextReads d (tier · 2) (Follows 2) (run.text Prod.fst).toList
        (.expression (run.tree Prod.snd)) := fun run hrun =>
    textReads_chain (.inr rfl) (hwithin run hrun) fun factor hfactor =>
      (hoperands run hrun factor hfactor).reads
  have hreads := textReads_chain (.inl rfl) hbetween hruns
  rw [Chain.text_runs] at hreads
  exact TextReads.parseExpression (TextReads.disjunction hreads) (stops_of_closes (.inl rfl))

/-- Signs in front of a property, a number and parentheses, with operators of both precedences. -/
theorem parse_factors_standard : ∃ sum : Expression,
    IsFactor .standard "a " (.property "a") ∧
      IsFactor .standard " - -2 " (.arithmetic .subtract (.integer 0) (.literal (.integer (-2)))) ∧
      IsFactor .standard " (b + c) " sum ∧
      IsFactor .standard " -d" (.arithmetic .subtract (.integer 0) (.property "d")) ∧
      ∃ bound, ∀ depth, bound ≤ depth →
        Expression.parse { Dialect.standard with maxDepth := depth } "a - - -2 * (b + c) / -d" =
          .ok (.arithmetic .subtract (.property "a")
            (.arithmetic .divide
              (.arithmetic .multiply
                (.arithmetic .subtract (.integer 0) (.literal (.integer (-2)))) sum)
              (.arithmetic .subtract (.integer 0) (.property "d")))) := by
  have hblank : isBlank ' ' = true := rfl
  have hproperty : ∀ name signs,
      (Expression.parse .standard name).toOption.any (·.same (.property name)) = true →
        IsAtom .standard signs name (subtracted signs (.property name)) := by
    intro name signs h
    obtain ⟨e, he, hsame⟩ := exists_ok_and h
    cases e with
    | property found =>
        obtain rfl : found = name := by simpa [Expression.same] using hsame
        exact @IsAtom.plain _ signs found _ 128 he (by simp) rfl
    | _ => simp [Expression.same] at hsame
  obtain ⟨sum, hsum⟩ :=
    exists_ok (show (Expression.parse .standard "b + c").toOption.isSome = true by decide +kernel)
  obtain ⟨tokens, htokens, hnumber⟩ := @exists_ok_and _ (tokenize .standard "2")
    (fun tokens => meaningfulKinds tokens == [.number "2"]) (by decide +kernel)
  have htwo : IsAtom .standard 2 "2" (subtracted 1 (.literal (.integer (-2)))) :=
    .number ⟨tokens, htokens, by simpa using hnumber⟩ rfl
  have hgroup : IsAtom .standard 0 "(b + c)" sum := @IsAtom.group _ 0 "b + c" sum 128 hsum
  have ha : IsFactor .standard "a " (.property "a") :=
    ⟨"", "a", " ", rfl, by simp, by simp [hblank], hproperty "a" 0 (by decide +kernel)⟩
  have hnegative : IsFactor .standard " - -2 "
      (.arithmetic .subtract (.integer 0) (.literal (.integer (-2)))) :=
    ⟨" - -", "2", " ", rfl, by simp [hblank], by simp [hblank], htwo⟩
  have hparentheses : IsFactor .standard " (b + c) " sum :=
    ⟨" ", "(b + c)", " ", rfl, by simp [hblank], by simp [hblank], hgroup⟩
  have hd : IsFactor .standard " -d" (.arithmetic .subtract (.integer 0) (.property "d")) :=
    ⟨" -", "d", "", rfl, by simp [hblank], by simp, hproperty "d" 1 (by decide +kernel)⟩
  refine ⟨sum, ha, hnegative, hparentheses, hd, ?_⟩
  refine parse_factors .standard ⟨("a ", .property "a"),
    [(.subtract, " - -2 ", .arithmetic .subtract (.integer 0) (.literal (.integer (-2)))),
      (.multiply, " (b + c) ", sum),
      (.divide, " -d", .arithmetic .subtract (.integer 0) (.property "d"))]⟩ ?_
  simp only [Chain.operands, List.map_cons, List.map_nil, List.forall_mem_cons]
  exact ⟨ha, hnegative, hparentheses, hd, by simp⟩

end GeoFilter
