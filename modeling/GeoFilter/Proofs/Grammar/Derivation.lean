import GeoFilter.Proofs.Grammar.Inversion

/-!
The grammar of expressions by itself, apart from the productions that read it. Whatever they read
as an expression is derived by its rules, which tell what can be concluded from a text denoting
an expression. How geometries are written is left open.
-/

namespace GeoFilter.Grammar

variable {d : Dialect} {α β : Type}

/-- What is related to the tokens that a production has left, wherever it succeeds. -/
def Leaves (p : Parse α) (rest : List TokenKind) (Q : List TokenKind → α → Prop) : Prop :=
  ∀ (gauge : Gauge) (value : α) (last : Cursor),
    p ⟨rest, gauge⟩ = .ok (value, last) → Q last.rest value

/-- The tokens that a production consumes are related to its value. -/
def Derives (p : Parse α) (I : List TokenKind → α → Prop) : Prop :=
  ∀ rest, Leaves p rest fun left value => ∃ used, rest = used ++ left ∧ I used value

section Combinators

variable {rest : List TokenKind} {Q R : List TokenKind → α → Prop} {S : List TokenKind → β → Prop}
  {p : Parse α}

theorem Leaves.imp (h : Leaves p rest Q) (himp : ∀ left value, Q left value → R left value) :
    Leaves p rest R :=
  fun gauge value last hresult => himp _ _ (h gauge value last hresult)

theorem leaves_any : Leaves p rest fun _ _ => True :=
  fun _ _ _ _ => trivial

theorem leaves_pure {value : α} (h : Q rest value) : Leaves (pure value) rest Q := by
  rintro gauge found last ⟨⟩
  exact h

theorem leaves_fail {fault : Fault} {place : Mark} : Leaves (fail fault place) rest Q :=
  fun _ _ _ hresult => nomatch hresult

theorem leaves_unexpected {found : TokenKind} {expected : Expectation} {place : Mark} :
    Leaves (unexpected found expected place) rest Q :=
  leaves_fail

theorem Leaves.bind {q : α → Parse β} (hp : Leaves p rest Q)
    (hq : ∀ left value, Q left value → Leaves (q value) left S) : Leaves (p >>= q) rest S := by
  intro gauge value last hresult
  obtain ⟨found, middle, hfound, hresult⟩ := exists_of_bind hresult
  exact hq _ found (hp gauge found middle hfound) middle.gauge value last hresult

theorem Leaves.after_mark {q : Mark → Parse β} (h : Leaves (q rest) rest S) :
    Leaves (mark >>= q) rest S :=
  h

theorem Leaves.after_tokensLeft {q : Nat → Parse β} (h : Leaves (q rest.length) rest S) :
    Leaves (tokensLeft >>= q) rest S :=
  h

theorem Leaves.after_peek {q : TokenKind → Parse β}
    (h : Leaves (q (rest.headD .endOfInput)) rest S) :
    Leaves (peek >>= q) rest S :=
  h

/-- The next token, unless there is none. -/
theorem Leaves.after_next {q : TokenKind → Parse β} (hend : Leaves (q .endOfInput) [] S)
    (h : ∀ kind more, rest = kind :: more → Leaves (q kind) more S) :
    Leaves (next >>= q) rest S := by
  cases rest with
  | nil => exact hend
  | cons kind more => exact h kind more rfl

theorem Leaves.after_next_cons {kind : TokenKind} {q : TokenKind → Parse β}
    (h : Leaves (q kind) rest S) :
    Leaves (next >>= q) (kind :: rest) S :=
  h

theorem Leaves.after_accept {kind : TokenKind} {q : Bool → Parse β} (hkind : kind ≠ .endOfInput)
    (htrue : ∀ more, rest = kind :: more → Leaves (q true) more S)
    (hfalse : rest.headD .endOfInput ≠ kind → Leaves (q false) rest S) :
    Leaves (accept kind >>= q) rest S := by
  unfold accept
  rw [bind_assoc]
  apply Leaves.after_peek
  split
  · rename_i hfound
    rw [bind_assoc]
    obtain ⟨more, rfl⟩ := exists_of_headD hkind hfound
    exact htrue more rfl
  · rename_i hfound
    exact hfalse hfound

/-- A token that may be left out. -/
theorem Leaves.after_optional {kind : TokenKind} {q : Bool → Parse β} (hkind : kind ≠ .endOfInput)
    (h : ∀ found more, rest = (if found then [kind] else []) ++ more → Leaves (q found) more S) :
    Leaves (accept kind >>= q) rest S :=
  Leaves.after_accept hkind (fun more hrest => h true more hrest) fun _ => h false rest rfl

theorem Leaves.after_expect {kind : TokenKind} {expected : Expectation} {q : Mark → Parse β}
    (hkind : kind ≠ .endOfInput) (h : ∀ more, rest = kind :: more → Leaves (q rest) more S) :
    Leaves (expect kind expected >>= q) rest S := by
  unfold expect
  rw [bind_assoc]
  apply Leaves.after_mark
  rw [bind_assoc]
  apply Leaves.after_next
  · rw [if_neg hkind.symm]
    exact leaves_unexpected.bind (Q := fun _ _ => False) fun _ _ => False.elim
  · intro found more hrest
    split
    · rename_i heq
      exact h more (heq ▸ hrest)
    · exact leaves_unexpected.bind (Q := fun _ _ => False) fun _ _ => False.elim

theorem leaves_close {opening : Mark} :
    Leaves (close opening) rest fun left _ => rest = .punctuation .closeParen :: left := by
  apply Leaves.after_mark
  apply Leaves.after_next
  · exact leaves_fail
  · intro kind more hrest
    split
    · exact leaves_pure hrest
    · exact leaves_fail
    · exact leaves_unexpected

theorem leaves_nested {depth : Depth} {place : Mark} (h : Leaves p rest Q) :
    Leaves (nested d depth place p) rest Q := by
  intro gauge value last hresult
  obtain ⟨-, later, hinner, -⟩ := exists_of_nested hresult
  exact h gauge.rise value ⟨last.rest, later⟩ hinner

theorem leaves_check {checked : Except Fault α} {place : Mark} :
    Leaves (check place checked) rest fun left value => left = rest ∧ checked = .ok value := by
  cases checked with
  | ok value => exact leaves_pure ⟨rfl, rfl⟩
  | error fault => exact leaves_fail

theorem leaves_checkNone {checked : Option Fault} {place : Mark} :
    Leaves (checkNone place checked) rest fun left _ => left = rest := by
  cases checked with
  | none => exact leaves_pure rfl
  | some fault => exact leaves_fail

variable {I : List TokenKind → α → Prop} {item : Parse α} {opening : Mark}

theorem leaves_listRest (h : Derives item I) (count : Nat) (rest : List TokenKind) :
    Leaves (listRest opening item count) rest fun left values =>
      ∃ parts : List (List TokenKind × α), (∀ part ∈ parts, I part.1 part.2) ∧
        values = parts.map Prod.snd ∧
        rest = (parts.flatMap fun part => .punctuation .comma :: part.1) ++
          .punctuation .closeParen :: left := by
  induction count generalizing rest with
  | zero => exact leaves_fail
  | succ count ih =>
      apply Leaves.after_mark
      apply Leaves.after_next
      · exact leaves_fail
      · intro kind more hrest
        split
        · refine (h more).bind ?_
          rintro middle value ⟨used, rfl, hused⟩
          refine (ih middle).bind ?_
          rintro left values ⟨parts, hparts, rfl, rfl⟩
          apply leaves_pure
          refine ⟨(used, value) :: parts, List.forall_mem_cons.mpr ⟨hused, hparts⟩, rfl, ?_⟩
          simp [hrest]
        · exact leaves_pure ⟨[], by simp, rfl, hrest⟩
        · exact leaves_fail
        · exact leaves_unexpected

/-- The items of a list, with commas between them and a parenthesis behind. -/
theorem leaves_list (h : Derives item I) (rest : List TokenKind) :
    Leaves (list opening item) rest fun left values =>
      ∃ parts : List (List TokenKind × α), parts ≠ [] ∧ (∀ part ∈ parts, I part.1 part.2) ∧
        values = parts.map Prod.snd ∧
        rest = separated (parts.map Prod.fst) ++ .punctuation .closeParen :: left := by
  refine (h rest).bind ?_
  rintro middle first ⟨used, rfl, hused⟩
  apply Leaves.after_tokensLeft
  refine (leaves_listRest h _ middle).bind ?_
  rintro left values ⟨parts, hparts, rfl, rfl⟩
  apply leaves_pure
  refine ⟨(used, first) :: parts, by simp, List.forall_mem_cons.mpr ⟨hused, hparts⟩, rfl, ?_⟩
  simp [separated, List.flatMap_map]

end Combinators

/-- The name that a token stands for in a path. -/
def nameOf? : TokenKind → Option String
  | .identifier name => some name
  | .quotedIdentifier name => some name
  | _ => none

/-- The literal that a token by itself stands for, unless it is a number. -/
def constant? : TokenKind → Option Literal
  | .string value => some (.string value)
  | .keyword .truth => some (.boolean true)
  | .keyword .falsity => some (.boolean false)
  | .keyword .null => some .null
  | _ => none

/-- The segments of a path behind its first, each behind a dot. -/
def dotted (segments : List (TokenKind × String)) : List TokenKind :=
  segments.flatMap fun segment => [.punctuation .dot, segment.1]

/-- The rules of expressions. Tokens are derived as an expression at a floor, which is the
precedence that the expression has at least where it stands. `G` tells how geometries are
written. -/
inductive Denotes (G : List TokenKind → Geometry → Prop) :
    Nat → List TokenKind → Expression → Prop where
  | number {negative : Bool} {digits : String} {value : Literal}
      (h : Check.numberLiteral negative digits = .ok value) :
      Denotes G 3 ((if negative then [.operator .minus] else []) ++ [.number digits])
        (.literal value)
  | constant {kind : TokenKind} {value : Literal} (h : constant? kind = some value) :
      Denotes G 3 [kind] (.literal value)
  | geometry {kinds : List TokenKind} {value : Geometry} (h : G kinds value) :
      Denotes G 3 kinds (.literal (.geometry value))
  | property {first : TokenKind × String} {others : List (TokenKind × String)}
      (h : ∀ segment ∈ first :: others, nameOf? segment.1 = some segment.2) :
      Denotes G 3 (first.1 :: dotted others)
        (.property (".".intercalate (first.2 :: others.map Prod.snd)))
  | call {name : String} {parts : List (List TokenKind × Expression)}
      (h : ∀ part ∈ parts, Denotes G 1 part.1 part.2) :
      Denotes G 3 (.identifier name :: enclosed (separated (parts.map Prod.fst)))
        (.call name (parts.map Prod.snd))
  | group {kinds : List TokenKind} {e : Expression} (h : Denotes G 1 kinds e) :
      Denotes G 3 (enclosed kinds) e
  | signed {kinds : List TokenKind} {e : Expression} (h : Denotes G 3 kinds e) :
      Denotes G 3 (.operator .minus :: kinds) (.arithmetic .subtract (.integer 0) e)
  | operator {op : ArithmeticOp} {left right : List TokenKind} {a b : Expression}
      (hleft : Denotes G op.precedence left a) (hright : Denotes G (op.precedence + 1) right b) :
      Denotes G op.precedence (left ++ .operator op.operator :: right) (.arithmetic op a b)
  | loose {floor : Nat} {kinds : List TokenKind} {e : Expression}
      (h : Denotes G (floor + 1) kinds e) :
      Denotes G floor kinds e

/-- Tokens that are read as an expression are derived as it. Nothing is said of a filter. -/
def DenotesParsed (G : List TokenKind → Geometry → Prop) (floor : Nat) (rest left : List TokenKind)
    (value : Parsed) : Prop :=
  ∀ e, value = .expression e → ∃ used, rest = used ++ left ∧ Denotes G floor used e

section Productions

variable {G : List TokenKind → Geometry → Prop} {rest : List TokenKind} {inner : Level}
  {floor : Nat}

/-- What the productions of a level read is derived by the rules. -/
structure Level.Sound (G : List TokenKind → Geometry → Prop) (inner : Level) : Prop where
  group : ∀ rest, Leaves (inner .group) rest (DenotesParsed G 1 rest)
  signed : ∀ rest, Leaves (inner .signed) rest (DenotesParsed G 3 rest)
  argument : Derives (inner .argument) (Denotes G 1)
  member : Derives (inner .member) G

theorem denotesParsed_filter {left : List TokenKind} {value : Filter} :
    DenotesParsed G floor rest left (.filter value) :=
  fun _ h => nomatch h

theorem denotesParsed_expression {left used : List TokenKind} {e : Expression}
    (hrest : rest = used ++ left) (h : Denotes G floor used e) :
    DenotesParsed G floor rest left (.expression e) := by
  rintro found ⟨⟩
  exact ⟨used, hrest, h⟩

theorem leaves_requireExpression {start : Mark} {value : Parsed} :
    Leaves (requireExpression start value) rest fun left e =>
      left = rest ∧ value = .expression e := by
  cases value with
  | filter f => exact leaves_fail
  | expression e => exact leaves_pure ⟨rfl, rfl⟩

/-- A production that has to read an expression. -/
theorem derives_requireExpression {p : Parse Parsed} {start : Mark}
    (h : Leaves p rest (DenotesParsed G floor rest)) :
    Leaves (p >>= requireExpression start) rest fun left e =>
      ∃ used, rest = used ++ left ∧ Denotes G floor used e := by
  refine h.bind fun left value hvalue => leaves_requireExpression.imp ?_
  rintro _ e ⟨rfl, rfl⟩
  exact hvalue e rfl

theorem leaves_pathSegments (count : Nat) (rest : List TokenKind) :
    Leaves (pathSegments count) rest fun left names =>
      ∃ segments, (∀ segment ∈ segments, nameOf? segment.1 = some segment.2) ∧
        names = segments.map Prod.snd ∧ rest = dotted segments ++ left := by
  induction count generalizing rest with
  | zero => exact leaves_pure ⟨[], by simp, rfl, rfl⟩
  | succ count ih =>
      refine Leaves.after_accept (by simp) ?_ ?_
      · intro more hrest
        have hsegment : ∀ kind name behind, more = kind :: behind → nameOf? kind = some name →
            Leaves (do let rest ← pathSegments count; return name :: rest) behind fun left names =>
              ∃ segments, (∀ segment ∈ segments, nameOf? segment.1 = some segment.2) ∧
                names = segments.map Prod.snd ∧ rest = dotted segments ++ left := by
          intro kind name behind hmore hname
          refine (ih behind).bind ?_
          rintro left names ⟨segments, hsegments, rfl, rfl⟩
          apply leaves_pure
          exact ⟨(kind, name) :: segments, List.forall_mem_cons.mpr ⟨hname, hsegments⟩, rfl, by
            simp [hrest, hmore, dotted]⟩
        apply Leaves.after_mark
        apply Leaves.after_next
        · exact leaves_unexpected
        · intro kind behind hmore
          split
          · exact hsegment _ _ behind hmore rfl
          · exact hsegment _ _ behind hmore rfl
          · exact leaves_unexpected
      · exact fun _ => leaves_pure ⟨[], by simp, rfl, rfl⟩

/-- A path behind its first segment. -/
theorem leaves_property (kind : TokenKind) {name : String} (hname : nameOf? kind = some name)
    (rest : List TokenKind) :
    Leaves (property name) rest fun left e =>
      ∃ used, rest = used ++ left ∧ Denotes G 3 (kind :: used) e := by
  apply Leaves.after_tokensLeft
  refine (leaves_pathSegments _ rest).bind ?_
  rintro left names ⟨segments, hsegments, rfl, rfl⟩
  apply leaves_pure
  exact ⟨_, rfl, @Denotes.property G (kind, name) segments
    (List.forall_mem_cons.mpr ⟨hname, hsegments⟩)⟩

theorem leaves_callArguments (hinner : inner.Sound G) (rest : List TokenKind) :
    Leaves (callArguments d inner) rest fun left values =>
      ∃ parts : List (List TokenKind × Expression), (∀ part ∈ parts, Denotes G 1 part.1 part.2) ∧
        values = parts.map Prod.snd ∧ rest = enclosed (separated (parts.map Prod.fst)) ++ left := by
  refine Leaves.after_expect (by simp) ?_
  intro more hrest
  refine Leaves.after_accept (by simp) ?_ ?_
  · intro behind hmore
    apply leaves_pure
    exact ⟨[], by simp, rfl, by simp [hrest, hmore, enclosed, separated]⟩
  · intro _
    refine (leaves_nested (leaves_list hinner.argument more)).imp ?_
    rintro left values ⟨parts, -, hparts, rfl, rfl⟩
    exact ⟨parts, hparts, rfl, by simp [hrest, enclosed]⟩

theorem operatorAt?_eq_some {precedence : Nat} {kind : TokenKind} {op : ArithmeticOp}
    (h : operatorAt? precedence kind = some op) :
    kind = .operator op.operator ∧ op.precedence = precedence := by
  match precedence with
  | 0 => cases h
  | 1 =>
      change additive? kind = some op at h
      unfold additive? at h
      split at h <;> cases h <;> exact ⟨rfl, rfl⟩
  | 2 =>
      change multiplicative? kind = some op at h
      unfold multiplicative? at h
      split at h <;> cases h <;> exact ⟨rfl, rfl⟩
  | _ + 3 => cases h

/-- The rest of a chain behind its left operand, which the derivation goes on with. -/
theorem leaves_chainRest {precedence : Nat} {operand : Parse Parsed}
    (hoperand : ∀ rest, Leaves operand rest (DenotesParsed G (precedence + 1) rest)) {start : Mark}
    (count : Nat) (left : Parsed) (rest : List TokenKind) :
    Leaves (chainRest d (operatorAt? precedence) operand start count left) rest fun behind value =>
      ∀ e, value = .expression e → ∃ a used, left = .expression a ∧ rest = used ++ behind ∧
        ∀ front, Denotes G precedence front a → Denotes G precedence (front ++ used) e := by
  have hdone : ∀ (left : Parsed) (rest : List TokenKind),
      Leaves (pure left) rest fun behind value =>
        ∀ e, value = .expression e → ∃ a used, left = .expression a ∧ rest = used ++ behind ∧
          ∀ front, Denotes G precedence front a → Denotes G precedence (front ++ used) e := by
    intro left rest
    apply leaves_pure
    intro e he
    exact ⟨e, [], he, rfl, fun front hfront => by rwa [List.append_nil]⟩
  induction count generalizing left rest with
  | zero => exact hdone left rest
  | succ count ih =>
      apply Leaves.after_peek
      split
      · exact hdone left rest
      · rename_i op hop
        obtain ⟨hkind, rfl⟩ := operatorAt?_eq_some hop
        obtain ⟨more, rfl⟩ := exists_of_headD (by simp) hkind
        apply Leaves.after_mark
        apply Leaves.after_next_cons
        apply leaves_nested
        refine leaves_requireExpression.bind ?_
        rintro _ a ⟨rfl, rfl⟩
        apply Leaves.after_mark
        rw [← bind_assoc]
        refine (derives_requireExpression (hoperand _)).bind ?_
        rintro middle b ⟨used, rfl, hused⟩
        refine (ih (.expression (.arithmetic op a b)) middle).imp ?_
        intro behind value hvalue e he
        obtain ⟨_, further, ⟨⟩, rfl, hfurther⟩ := hvalue e he
        refine ⟨a, .operator op.operator :: (used ++ further), rfl, by simp, fun front hfront => ?_⟩
        have hlink := hfurther _ (hfront.operator hused)
        simpa using hlink

theorem leaves_chain {precedence : Nat} {operand : Parse Parsed}
    (hoperand : ∀ rest, Leaves operand rest (DenotesParsed G (precedence + 1) rest))
    (rest : List TokenKind) :
    Leaves (chain d (operatorAt? precedence) operand) rest (DenotesParsed G precedence rest) := by
  apply Leaves.after_mark
  refine (hoperand rest).bind ?_
  intro middle first hfirst
  apply Leaves.after_tokensLeft
  refine (leaves_chainRest hoperand _ first middle).imp ?_
  intro behind value hvalue e he
  obtain ⟨a, used, rfl, rfl, hused⟩ := hvalue e he
  obtain ⟨front, rfl, hfront⟩ := hfirst a rfl
  exact ⟨front ++ used, by simp, hused front hfront.loose⟩

/-- How geometries are written, if their members are written so. -/
def ReadsGeometry (d : Dialect) (G : List TokenKind → Geometry → Prop) : Prop :=
  ∀ inner : Level, Derives (inner .member) G → ∀ here type,
    Derives (geometry d inner here type) fun used value =>
      G (.keyword (.geometry type) :: used) value

variable (hgeometry : ReadsGeometry d G) (hinner : inner.Sound G)
include hgeometry hinner

theorem leaves_primary (rest : List TokenKind) :
    Leaves (primary d inner) rest (DenotesParsed G 3 rest) := by
  apply Leaves.after_mark
  apply Leaves.after_next
  · exact leaves_unexpected
  · intro kind more hrest
    split
    · refine leaves_check.bind ?_
      rintro left value ⟨rfl, hvalue⟩
      exact leaves_pure (denotesParsed_expression hrest (.number hvalue))
    · exact leaves_pure (denotesParsed_expression hrest (.constant rfl))
    · exact leaves_pure (denotesParsed_expression hrest (.constant rfl))
    · exact leaves_pure (denotesParsed_expression hrest (.constant rfl))
    · exact leaves_pure (denotesParsed_expression hrest (.constant rfl))
    · rename_i name
      apply Leaves.after_peek
      split
      · refine (leaves_callArguments hinner more).bind ?_
        rintro left values ⟨parts, hparts, rfl, rfl⟩
        refine leaves_checkNone.bind ?_
        rintro behind _ rfl
        exact leaves_pure (denotesParsed_expression hrest (.call hparts))
      · refine (leaves_property (G := G) (.identifier name) rfl more).bind ?_
        rintro left e ⟨used, rfl, hused⟩
        exact leaves_pure (denotesParsed_expression hrest hused)
    · rename_i name
      refine (leaves_property (G := G) (.quotedIdentifier name) rfl more).bind ?_
      rintro left e ⟨used, rfl, hused⟩
      exact leaves_pure (denotesParsed_expression hrest hused)
    · refine (hgeometry inner hinner.member rest _ more).bind ?_
      rintro left value ⟨used, rfl, hused⟩
      exact leaves_pure (denotesParsed_expression hrest (.geometry hused))
    · refine leaves_any.bind fun left _ _ => leaves_any.bind fun left _ _ => ?_
      exact leaves_pure denotesParsed_filter
    · exact leaves_pure denotesParsed_filter
    · exact leaves_pure denotesParsed_filter
    · refine leaves_any.bind fun left _ _ => leaves_any.bind fun left _ _ => ?_
      exact leaves_pure denotesParsed_filter
    · apply Leaves.after_mark
      refine (leaves_nested (hinner.group more)).bind ?_
      intro middle parsed hparsed
      refine leaves_close.bind ?_
      rintro left _ rfl
      apply leaves_pure
      rintro e rfl
      obtain ⟨used, rfl, hused⟩ := hparsed e rfl
      exact ⟨enclosed used, by simp [hrest, enclosed], hused.group⟩
    · exact leaves_unexpected

theorem leaves_unary (rest : List TokenKind) :
    Leaves (unary d inner) rest (DenotesParsed G 3 rest) := by
  apply Leaves.after_peek
  split
  · rename_i hsign
    obtain ⟨more, rfl⟩ := exists_of_headD (by simp) hsign
    apply Leaves.after_mark
    apply Leaves.after_next_cons
    apply Leaves.after_mark
    apply Leaves.after_peek
    split
    · rename_i digits hdigits
      obtain ⟨behind, rfl⟩ := exists_of_headD (by simp) hdigits
      apply Leaves.after_next_cons
      refine leaves_check.bind ?_
      rintro left value ⟨rfl, hvalue⟩
      exact leaves_pure (denotesParsed_expression rfl (.number hvalue))
    · refine (leaves_nested (derives_requireExpression (hinner.signed more))).bind ?_
      rintro left e ⟨used, rfl, hused⟩
      exact leaves_pure (denotesParsed_expression rfl hused.signed)
  · exact leaves_primary hgeometry hinner rest

theorem leaves_additive (rest : List TokenKind) :
    Leaves (additive d inner) rest (DenotesParsed G 1 rest) :=
  @leaves_chain d G 1 _ (@leaves_chain d G 2 _ (leaves_unary hgeometry hinner)) rest

theorem derives_member : Derives (member d inner) G := by
  intro rest
  apply Leaves.after_mark
  apply Leaves.after_next
  · exact leaves_unexpected
  · intro kind more hrest
    split
    · refine (hgeometry inner hinner.member rest _ more).imp ?_
      rintro left value ⟨used, rfl, hused⟩
      exact ⟨_, hrest, hused⟩
    · exact leaves_unexpected

/-- The productions of a level are sound if those within them are. -/
theorem Level.Sound.levelAbove : (levelAbove d inner).Sound G where
  group := fun rest gauge _ last hresult e he =>
    leaves_additive hgeometry hinner rest gauge (.expression e) last
      (additive_of_disjunction (he ▸ hresult)) e rfl
  signed := leaves_unary hgeometry hinner
  argument := fun rest => derives_requireExpression (leaves_additive hgeometry hinner rest)
  member := derives_member hgeometry hinner

omit hinner in
theorem sound_level (count : Nat) : (level d count).Sound G := by
  induction count with
  | zero =>
      have hfails : ∀ (production : Nested) (rest : List TokenKind)
          (Q : List TokenKind → production.Result → Prop), Leaves (level d 0 production) rest Q :=
        fun _ _ _ => Leaves.after_mark leaves_fail
      exact ⟨fun rest => hfails .group rest _, fun rest => hfails .signed rest _,
        fun rest => hfails .argument rest _, fun rest => hfails .member rest _⟩
  | succ count ih => exact ih.levelAbove hgeometry

omit hinner in
/-- Tokens that are read as an expression as a whole are derived as it. -/
theorem Consumes.denotes {kinds : List TokenKind} {e : Expression}
    (h : Consumes d (disjunction d) kinds (.expression e)) : Denotes G 1 kinds e := by
  obtain ⟨count, gauge, later, -, hresult⟩ := h
  obtain ⟨used, hused, hdenotes⟩ := leaves_additive hgeometry (sound_level hgeometry count) kinds
    gauge _ _ (additive_of_disjunction hresult) e rfl
  rw [List.append_nil] at hused
  exact hused ▸ hdenotes

end Productions

end GeoFilter.Grammar
