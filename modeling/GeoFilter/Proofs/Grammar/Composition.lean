import GeoFilter.Proofs.Grammar.Inversion

/-!
Texts put together from texts. A text is read by a production if its tokens are, under any limit
that leaves enough levels and in front of any tail to stop at. Such texts can be put between
parentheses, behind signs and between operators, whatever they are read as.
-/

namespace GeoFilter

open Grammar

variable {d : Dialect} {limit : Nat} {α : Type}

/-- An operand and further ones, each behind its operator. -/
structure Chain (α : Type) where
  first : α
  links : List (ArithmeticOp × α)

namespace Chain

variable (spelling : α → String) (value : α → Expression)

def operands (c : Chain α) : List α :=
  c.first :: c.links.map Prod.snd

/-- The operands with the operators between them. -/
def text (c : Chain α) : String :=
  spelling c.first ++
    String.join (c.links.map fun (op, operand) => op.symbol ++ spelling operand)

def linksText (links : List (ArithmeticOp × α)) : List Char :=
  links.flatMap fun (op, operand) => op.symbol.toList ++ (spelling operand).toList

def linked (first : Expression) (links : List (ArithmeticOp × α)) : Expression :=
  links.foldl (fun left (op, operand) => .arithmetic op left (value operand)) first

/-- The operands taken together from the left, whatever the operators are. -/
def tree (c : Chain α) : Expression :=
  linked value (value c.first) c.links

theorem toList_text (c : Chain α) :
    (c.text spelling).toList = (spelling c.first).toList ++ linksText spelling c.links := by
  simp [Chain.text, linksText, List.flatMap_map]

end Chain

namespace Grammar

/-- A text that is read as a value by a production, with some number of levels, in front of the
tails that the condition admits. -/
def TextReads (d : Dialect) (p : Dialect → Level → Parse α) (ends : List TokenKind → Prop)
    (text : List Char) (value : α) : Prop :=
  ∃ (kinds : List TokenKind) (bound : Nat), Lexed d text kinds ∧
    ∀ (limit : Nat) (tail : List TokenKind), ends tail →
      ReadsWithin (d.withDepth limit) (p (d.withDepth limit)) (kinds ++ tail) value tail bound

section Wholes

variable {ends : List TokenKind → Prop} {text : String} {e : Expression} {f : Filter} {depth : Nat}

/-- A text that is read as a filter as a whole denotes it under every limit from some on. -/
theorem TextReads.parseFilter (h : TextReads d disjunction ends text.toList (.filter f))
    (hends : ends []) : ∃ bound, ∀ depth, bound ≤ depth →
      Filter.parse { d with maxDepth := depth } text = .ok f := by
  obtain ⟨kinds, bound, hlexed, hreads⟩ := h
  refine ⟨bound + 1, fun depth hdepth => ?_⟩
  have hwhole := hreads depth [] hends
  rw [List.append_nil] at hwhole
  exact parseFilter_of_readsWithin (hlexed.withDepth depth) hwhole hdepth

theorem TextReads.parseExpression (h : TextReads d disjunction ends text.toList (.expression e))
    (hends : ends []) : ∃ bound, ∀ depth, bound ≤ depth →
      Expression.parse { d with maxDepth := depth } text = .ok e := by
  obtain ⟨kinds, bound, hlexed, hreads⟩ := h
  refine ⟨bound + 1, fun depth hdepth => ?_⟩
  have hwhole := hreads depth [] hends
  rw [List.append_nil] at hwhole
  exact parseExpression_of_readsWithin (hlexed.withDepth depth) hwhole hdepth

theorem textReads_of_parseFilter (h : Filter.parse { d with maxDepth := depth } text = .ok f) :
    TextReads d disjunction (Stops · .group) text.toList (.filter f) := by
  obtain ⟨kinds, hlexed, hconsumes⟩ := consumes_of_parseFilter h
  refine ⟨kinds, depth - 1, hlexed.withDepth d.maxDepth, fun limit tail hstops => ?_⟩
  exact hconsumes.readsWithin hstops fun _ _ hlevel => carries_disjunction hlevel

theorem textReads_of_parseExpression
    (h : Expression.parse { d with maxDepth := depth } text = .ok e) :
    TextReads d disjunction (Stops · .group) text.toList (.expression e) := by
  obtain ⟨kinds, hlexed, hconsumes⟩ := consumes_of_parseExpression h
  refine ⟨kinds, depth - 1, hlexed.withDepth d.maxDepth, fun limit tail hstops => ?_⟩
  exact hconsumes.readsWithin hstops fun _ _ hlevel => carries_disjunction hlevel

end Wholes

section Groups

variable {kinds tail : List TokenKind} {value : Parsed} {bound : Nat}

theorem ReadsWithin.unary (hsign : kinds.headD .endOfInput ≠ .operator .minus)
    (h : ReadsWithin d (primary d) kinds value tail bound) :
    ReadsWithin d (Grammar.unary d) kinds value tail bound := by
  apply ReadsWithin.step reads_peek
  simp only [hsign, if_false]
  exact h

/-- A group stops where the tokens are over, or in front of a closing parenthesis. -/
theorem stops_of_closes (h : Closes tail) : Stops tail .group := by
  refine ⟨⟨h.ends.follows 1, ?_, ?_⟩, fun op => ?_⟩ <;>
    rcases h with h | h <;> rw [h] <;> simp [beginsTest]

/-- A group between parentheses, whatever it holds. -/
theorem ReadsWithin.group
    (h : ReadsWithin d (disjunction d) (kinds ++ .punctuation .closeParen :: tail) value
      (.punctuation .closeParen :: tail) bound) :
    ReadsWithin d (Grammar.unary d) (enclosed kinds ++ tail) value tail (bound + 1) := by
  rw [append_enclosed]
  apply ReadsWithin.unary (by simp)
  apply ReadsWithin.step reads_mark
  apply ReadsWithin.step reads_next
  apply ReadsWithin.step reads_mark
  apply ReadsWithin.bind (@ReadsWithin.nested d _ _ _ _ _ (fun inner => inner .group) _ _ h)
  apply ReadsWithin.step (reads_close _)
  exact reads_pure.freely

theorem lexed_parenthesised {text : String} (h : Lexed d text.toList kinds) :
    Lexed d ("(" ++ text ++ ")").toList (enclosed kinds) := by
  have hclose : Lexed d [')'] [.punctuation .closeParen] :=
    opens_closeParen [] [] (lexed_gap (by simp))
  have hclosed := h.append hclose (separated_cons rfl [])
  have hopened := opens_openParen _ _ hclosed
  simpa [enclosed] using hopened

theorem TextReads.group {text : String}
    (h : TextReads d disjunction (Stops · .group) text.toList value) :
    ∃ (kinds : List TokenKind) (bound : Nat),
      Lexed d ("(" ++ text ++ ")").toList (enclosed kinds) ∧ ∀ limit tail,
        ReadsWithin (d.withDepth limit) (Grammar.unary (d.withDepth limit)) (enclosed kinds ++ tail)
          value tail bound := by
  obtain ⟨kinds, bound, hlexed, hreads⟩ := h
  refine ⟨kinds, bound + 1, lexed_parenthesised hlexed, fun limit tail => ?_⟩
  exact (hreads limit _ (stops_of_closes (.inr rfl))).group

/-- An operand in front of anything but an operator is a chain by itself. -/
theorem ReadsWithin.chain_alone {operator? : TokenKind → Option ArithmeticOp}
    {operand : Level → Parse Parsed} (h : ReadsWithin d operand kinds value tail bound)
    (htail : operator? (tail.headD .endOfInput) = none) :
    ReadsWithin d (fun inner => chain d operator? (operand inner)) kinds value tail bound := by
  apply ReadsWithin.step reads_mark
  apply ReadsWithin.bind h
  apply ReadsWithin.step reads_tokensLeft
  exact (reads_chainRest_nil _ _ htail _ _ _).freely

theorem ReadsWithin.additive (h : ReadsWithin d (Grammar.unary d) kinds value tail bound)
    (hfollows : Follows 1 tail) : ReadsWithin d (Grammar.additive d) kinds value tail bound :=
  (h.chain_alone (hfollows.operator 2 (Nat.le_succ 1))).chain_alone (hfollows.operator 1 le_rfl)

/-- A predicate is no negation, since NOT begins no expression. -/
theorem ReadsWithin.of_predicate (h : ReadsWithin d (predicate d) kinds value tail bound) :
    ReadsWithin d (Grammar.negation d) kinds value tail bound := by
  by_cases hnot : kinds.headD .endOfInput = .keyword .not
  · intro height gauge hheight hdepth
    obtain ⟨later, hresult, -⟩ := h height gauge hheight hdepth
    obtain ⟨_, _, hadditive, -⟩ := exists_of_bind hresult
    exact absurd hnot (headD_of_additive (.inl rfl) hadditive)
  · apply ReadsWithin.step reads_peek
    simp only [hnot, if_false]
    exact h

/-- What is read without a test behind it is what it is by itself. -/
theorem ReadsWithin.negation (h : ReadsWithin d (Grammar.additive d) kinds value tail bound)
    (hends : EndsPredicate tail) : ReadsWithin d (Grammar.negation d) kinds value tail bound := by
  apply ReadsWithin.of_predicate
  apply ReadsWithin.bind h
  cases value with
  | filter f => exact reads_pure.freely
  | expression e =>
      apply ReadsWithin.step reads_peek
      simp only [test?_eq_none hends.negated hends.test]
      exact reads_pure.freely

/-- A single operand is what it is by itself. -/
theorem ReadsWithin.logical_alone {op : LogicalOp} {operand : Level → Parse Parsed}
    (h : ReadsWithin d operand kinds value tail bound)
    (htail : tail.headD .endOfInput ≠ .keyword op.keyword) :
    ReadsWithin d (fun inner => logical op (operand inner)) kinds value tail bound := by
  apply ReadsWithin.step reads_mark
  apply ReadsWithin.bind h
  apply ReadsWithin.step reads_peek
  simp only [htail, if_false]
  exact reads_pure.freely

/-- What joins no others is read as a whole where no operand comes behind. -/
theorem ReadsWithin.disjunction (h : ReadsWithin d (Grammar.negation d) kinds value tail bound)
    (hstops : Stops tail .group) :
    ReadsWithin d (Grammar.disjunction d) kinds value tail bound :=
  (h.logical_alone (hstops.2 .and)).logical_alone (hstops.2 .or)

/-- An expression is read as a whole where neither a test nor an operand comes behind. -/
theorem TextReads.disjunction {text : List Char}
    (h : TextReads d Grammar.additive (Follows 1) text value) :
    TextReads d Grammar.disjunction (Stops · .group) text value := by
  obtain ⟨kinds, bound, hlexed, hreads⟩ := h
  refine ⟨kinds, bound, hlexed, fun limit tail hstops => ?_⟩
  exact ((hreads limit tail hstops.1.follows).negation hstops.1).disjunction hstops

end Groups

section Signs

variable {input tail : List TokenKind} {bound : Nat} {e : Expression}

/-- An expression behind a number of signs, each of which subtracts from zero. -/
def subtracted : Nat → Expression → Expression
  | 0, e => e
  | count + 1, e => .arithmetic .subtract (.integer 0) (subtracted count e)

/-- Only a sign directly in front of a number belongs to it. -/
theorem ReadsWithin.sign (hnumber : ∀ digits, input.headD .endOfInput ≠ .number digits)
    (h : ReadsWithin d (Grammar.unary d) input (.expression e) tail bound) :
    ReadsWithin d (Grammar.unary d) (.operator .minus :: input)
      (.expression (.arithmetic .subtract (.integer 0) e)) tail (bound + 1) := by
  apply ReadsWithin.step reads_peek
  simp only [List.headD_cons, if_true]
  apply ReadsWithin.step reads_mark
  apply ReadsWithin.step reads_next
  apply ReadsWithin.step reads_mark
  apply ReadsWithin.step reads_peek
  split
  · rename_i digits hhead
    exact absurd hhead (hnumber digits)
  · have hoperand : ReadsWithin d
        (fun inner => Grammar.unary d inner >>= fun parsed => requireExpression input parsed)
        input e tail bound := ReadsWithin.bind h reads_pure.freely
    apply ReadsWithin.bind (@ReadsWithin.nested d _ _ _ _ _
      (fun inner => inner .signed >>= fun parsed => requireExpression input parsed) _ _ hoperand)
    exact reads_pure.freely

theorem ReadsWithin.signs (hnumber : ∀ digits, input.headD .endOfInput ≠ .number digits)
    (h : ReadsWithin d (Grammar.unary d) input (.expression e) tail bound) (count : Nat) :
    ReadsWithin d (Grammar.unary d) (List.replicate count (.operator .minus) ++ input)
      (.expression (subtracted count e)) tail (bound + count) := by
  induction count with
  | zero => exact h
  | succ count ih =>
      have hsigns : ∀ digits, (List.replicate count (TokenKind.operator .minus) ++
          input).headD .endOfInput ≠ .number digits := by
        intro digits
        cases count with
        | zero => exact hnumber digits
        | succ count => simp [List.replicate_succ]
      exact ReadsWithin.sign hsigns ih

end Signs

section Chains

variable {precedence : Nat} {links : List (ArithmeticOp × α)} {spelling : α → String}
  {value : α → Expression}

theorem separated_linksText (spelling : α → String) (links : List (ArithmeticOp × α)) :
    Separated (Chain.linksText spelling links) := by
  match links with
  | [] => exact separated_nil
  | (op, _) :: _ => cases op <;> exact separated_cons (by decide) _

/-- The further operands of a chain, one by one. Each of them takes the chain one level further
in. -/
theorem textReads_chainRest (hops : ∀ link ∈ links, link.1.precedence = precedence)
    (h : ∀ link ∈ links, TextReads d (tier · (precedence + 1)) (Follows (precedence + 1))
      (spelling link.2).toList (.expression (value link.2))) :
    ∃ (kinds : List TokenKind) (bound : Nat),
      Lexed d (Chain.linksText spelling links) kinds ∧ links.length ≤ kinds.length ∧
        ∀ limit tail start count first, Follows precedence tail → links.length ≤ count →
          Follows (precedence + 1) (kinds ++ tail) ∧ ReadsWithin (d.withDepth limit)
            (fun inner => chainRest (d.withDepth limit) (operatorAt? precedence)
              (tier (d.withDepth limit) (precedence + 1) inner) start count (.expression first))
            (kinds ++ tail) (.expression (Chain.linked value first links)) tail bound := by
  induction links with
  | nil =>
      refine ⟨[], 0, lexed_gap (by simp [Chain.linksText]), le_rfl, ?_⟩
      intro limit tail start count first hfollows _
      exact ⟨hfollows.mono (Nat.le_succ _),
        (reads_chainRest_nil _ _ (hfollows.operator precedence le_rfl) start count _).freely⟩
  | cons link others ih =>
      obtain ⟨op, operand⟩ := link
      obtain ⟨ks, more, hlexed, hlength, hothers⟩ :=
        ih (fun link hlink => hops link (List.mem_cons_of_mem _ hlink))
          fun link hlink => h link (List.mem_cons_of_mem _ hlink)
      obtain ⟨kinds, bound, hoperand, hreads⟩ := h _ List.mem_cons_self
      obtain rfl : op.precedence = precedence := hops _ List.mem_cons_self
      refine ⟨.operator op.operator :: (kinds ++ ks), max bound more + 1, ?_, ?_, ?_⟩
      · have hbehind := hoperand.append hlexed (separated_linksText spelling others)
        have hoperator := opens_arithmetic op _ _ hbehind
        simpa [Chain.linksText] using hoperator
      · simp only [List.length_cons, List.length_append]
        omega
      · intro limit tail start count first hfollows hcount
        refine ⟨follows_operator op _, ?_⟩
        cases count with
        | zero => cases hcount
        | succ count =>
            obtain ⟨hbehind, hrest⟩ := hothers limit tail start count
              (.arithmetic op first (value operand)) hfollows (Nat.le_of_succ_le_succ hcount)
            rw [List.cons_append, List.append_assoc]
            apply ReadsWithin.step reads_peek
            simp only [List.headD_cons, operatorAt?_operator]
            apply ReadsWithin.step reads_mark
            apply ReadsWithin.step reads_next
            apply ReadsWithin.deeper
            apply ReadsWithin.step reads_pure
            apply ReadsWithin.step reads_mark
            apply ReadsWithin.bind ((hreads limit _ hbehind).mono (Nat.le_max_left _ _))
            apply ReadsWithin.step reads_pure
            exact hrest.mono (Nat.le_max_right _ _)

/-- A chain of one precedence is read as its operands taken together from the left. -/
theorem textReads_chain (hprecedence : precedence = 1 ∨ precedence = 2) {c : Chain α}
    (hops : ∀ link ∈ c.links, link.1.precedence = precedence)
    (h : ∀ operand ∈ c.operands, TextReads d (tier · (precedence + 1)) (Follows (precedence + 1))
      (spelling operand).toList (.expression (value operand))) :
    TextReads d (tier · precedence) (Follows precedence) (c.text spelling).toList
      (.expression (c.tree value)) := by
  obtain ⟨kinds, bound, hlexed, hreads⟩ := h c.first List.mem_cons_self
  obtain ⟨ks, more, hlinks, hlength, hothers⟩ := textReads_chainRest hops fun link hlink =>
    h link.2 (List.mem_cons_of_mem _ (List.mem_map_of_mem hlink))
  refine ⟨kinds ++ ks, max bound more, ?_, fun limit tail hfollows => ?_⟩
  · rw [Chain.toList_text]
    exact hlexed.append hlinks (separated_linksText spelling c.links)
  · have hcount : c.links.length ≤ (ks ++ tail).length := by
      rw [List.length_append]
      omega
    obtain ⟨hbehind, hrest⟩ :=
      hothers limit tail (kinds ++ (ks ++ tail)) _ (value c.first) hfollows hcount
    rw [List.append_assoc]
    change ReadsWithin _ (tier (d.withDepth limit) precedence) _ _ _ _
    rw [tier_eq_chain hprecedence]
    apply ReadsWithin.step reads_mark
    apply ReadsWithin.bind ((hreads limit _ hbehind).mono (Nat.le_max_left _ _))
    apply ReadsWithin.step reads_tokensLeft
    exact hrest.mono (Nat.le_max_right _ _)

end Chains

section Operands

variable {op : LogicalOp} {operand : Dialect → Level → Parse Parsed}
  {ends stops : List TokenKind → Prop} {parts : List (String × Filter)}

/-- The text of further operands, each behind the operator. -/
def operandsText (op : LogicalOp) (texts : List String) : List Char :=
  texts.flatMap fun text => ' ' :: (op.name.toList ++ ' ' :: text.toList)

/-- A separator in front of every text but the first. -/
theorem toList_intercalate_cons (separator first : String) (others : List String) :
    (separator.intercalate (first :: others)).toList =
      first.toList ++ others.flatMap fun text => separator.toList ++ text.toList := by
  induction others generalizing first with
  | nil => simp
  | cons second others ih =>
      rw [String.intercalate_cons_cons, String.toList_append, String.toList_append, ih]
      simp

theorem toList_intercalate_operands (op : LogicalOp) (first : String) (others : List String) :
    ((" " ++ op.name ++ " ").intercalate (first :: others)).toList =
      first.toList ++ operandsText op others := by
  rw [toList_intercalate_cons]
  simp [operandsText]

theorem separated_operandsText (op : LogicalOp) (texts : List String) :
    Separated (operandsText op texts) := by
  cases texts with
  | nil => exact separated_nil
  | cons first others => exact separated_cons (by decide) _

theorem lexed_operandsText {text : String} {kinds ks : List TokenKind} {after : List Char}
    (h : Lexed d text.toList kinds) (hafter : Lexed d after ks) (hseparated : Separated after) :
    Lexed d (' ' :: (op.name.toList ++ ' ' :: text.toList) ++ after)
      (.keyword op.keyword :: (kinds ++ ks)) := by
  have hoperand := (h.append hafter hseparated).blank
  have hkeyword := spells_logicalOp (d := d) op _ _ (by rintro c ⟨⟩; rfl) hoperand
  simpa using hkeyword.blank

variable (hends : ∀ more, ends (.keyword op.keyword :: more))
  (hstops : ∀ tail, stops tail → ends tail ∧ tail.headD .endOfInput ≠ .keyword op.keyword)
include hends hstops

/-- The further operands of a conjunction or disjunction, one by one. -/
theorem textReads_operandsRest
    (h : ∀ part ∈ parts, TextReads d operand ends part.1.toList (.filter part.2)) :
    ∃ (kinds : List TokenKind) (bound : Nat),
      Lexed d (operandsText op (parts.map Prod.fst)) kinds ∧ parts.length ≤ kinds.length ∧
        (∀ part others, parts = part :: others → ∃ more, kinds = .keyword op.keyword :: more) ∧
        ∀ limit tail count, stops tail → parts.length ≤ count →
          ends (kinds ++ tail) ∧ ReadsWithin (d.withDepth limit)
            (fun inner => operandsRest op (operand (d.withDepth limit) inner) count) (kinds ++ tail)
            (parts.map Prod.snd) tail bound := by
  induction parts with
  | nil =>
      refine ⟨[], 0, lexed_gap (by simp [operandsText]), le_rfl, by simp, ?_⟩
      intro limit tail count htail _
      exact ⟨(hstops tail htail).1, (reads_operandsRest_nil _ (hstops tail htail).2 count).freely⟩
  | cons part others ih =>
      obtain ⟨ks, more, hlexed, hlength, -, hothers⟩ :=
        ih fun part hpart => h part (List.mem_cons_of_mem _ hpart)
      obtain ⟨kinds, bound, hpart, hreads⟩ := h part List.mem_cons_self
      refine ⟨.keyword op.keyword :: (kinds ++ ks), max bound more,
        lexed_operandsText hpart hlexed (separated_operandsText _ _), ?_, fun _ _ _ => ⟨_, rfl⟩, ?_⟩
      · simp only [List.length_cons, List.length_append]
        omega
      · intro limit tail count htail hcount
        refine ⟨hends _, ?_⟩
        cases count with
        | zero => cases hcount
        | succ count =>
            obtain ⟨hbehind, hrest⟩ :=
              hothers limit tail count htail (Nat.le_of_succ_le_succ hcount)
            rw [List.cons_append, List.append_assoc]
            apply ReadsWithin.step reads_accept
            apply ReadsWithin.step reads_mark
            apply ReadsWithin.bind ((hreads limit _ hbehind).mono (Nat.le_max_left _ _))
            apply ReadsWithin.step reads_pure
            apply ReadsWithin.bind (hrest.mono (Nat.le_max_right _ _))
            exact reads_pure.freely

/-- Operands with a logical operator between them are read as the filter that joins them. -/
theorem textReads_logical (hparts : parts ≠ [])
    (h : ∀ part ∈ parts, TextReads d operand ends part.1.toList (.filter part.2)) :
    TextReads d (fun d inner => logical op (operand d inner)) stops
      ((" " ++ op.name ++ " ").intercalate (parts.map Prod.fst)).toList
      (.filter (.join op (parts.map Prod.snd))) := by
  obtain ⟨part, others, rfl⟩ := List.exists_cons_of_ne_nil hparts
  obtain ⟨kinds, bound, hpart, hreads⟩ := h part List.mem_cons_self
  obtain ⟨ks, more, hlexed, hlength, hhead, hothers⟩ := textReads_operandsRest hends hstops
    fun part hpart => h part (List.mem_cons_of_mem _ hpart)
  refine ⟨kinds ++ ks, max bound more, ?_, fun limit tail htail => ?_⟩
  · rw [List.map_cons, toList_intercalate_operands]
    exact hpart.append hlexed (separated_operandsText _ _)
  · obtain ⟨hbehind, -⟩ := hothers limit tail others.length htail le_rfl
    have hfirst := (hreads limit _ hbehind).mono (Nat.le_max_left bound more)
    rw [List.append_assoc]
    cases others with
    | nil =>
        obtain rfl : ks = [] := by
          cases hlexed with
          | done => rfl
          | token hdrop => cases hdrop
        exact hfirst.logical_alone (hstops tail htail).2
    | cons second others =>
        obtain ⟨behind, rfl⟩ := hhead second others rfl
        have hcount : (second :: others).length ≤
            (TokenKind.keyword op.keyword :: behind ++ tail).length := by
          rw [List.length_append]
          omega
        obtain ⟨-, hrest⟩ := hothers limit tail _ htail hcount
        apply ReadsWithin.step reads_mark
        apply ReadsWithin.bind hfirst
        apply ReadsWithin.step reads_peek
        simp only [List.cons_append, List.headD_cons, if_true]
        apply ReadsWithin.step reads_pure
        apply ReadsWithin.step reads_tokensLeft
        apply ReadsWithin.bind (hrest.mono (Nat.le_max_right _ _))
        exact reads_pure.freely

end Operands

end Grammar

end GeoFilter
