import GeoFilter.Proofs.Grammar.ReadingGeometry

/-!
Reading the tokens of expressions. A chain of operators is read from its left end, while the
tree has the last operator at its root. The left operand of an operator is therefore read
together with whatever the chain goes on with, and the induction is on the left operand.
-/

namespace GeoFilter

open Grammar

namespace Expression

/-- How tightly the parts of an expression hold together. Only operators let go. -/
def binding : Expression → Nat
  | .arithmetic op _ _ => op.precedence
  | _ => 3

/-- The operators of one precedence that stand in a chain, counted along the left operands. -/
def chainLength (precedence : Nat) : Expression → Nat
  | .arithmetic op left _ =>
      if op.precedence = precedence then chainLength precedence left + 1 else 0
  | _ => 0

mutual

/-- What the reading of an expression demands. Every operator of a chain asks for a level, and
so do parentheses around operands or arguments. -/
def demand : Expression → Demand
  | .literal (.geometry value) => value.demand
  | .literal _ => .free
  | .property _ => .free
  | .arithmetic op left right =>
      (Demand.withinIf (needsParentheses op false left) (demand left)).andThen
        ((Demand.withinIf (needsParentheses op true right) (demand right)).raise
          (chainLength op.precedence left + 1))
  | .call _ arguments => .withinIf (!arguments.isEmpty) (.all (demandAll arguments))

def demandAll : List Expression → List Demand
  | [] => []
  | first :: others => demand first :: demandAll others

end

/-- The tokens of an operand, in a place where it has to bind at least so tightly. -/
def kindsAt (d : Dialect) (floor : Nat) (e : Expression) : List TokenKind :=
  enclosedIf (decide (e.binding < floor)) (e.kinds d)

def demandAt (floor : Nat) (e : Expression) : Demand :=
  .withinIf (decide (e.binding < floor)) e.demand

theorem needsParentheses_left (op : ArithmeticOp) (e : Expression) :
    needsParentheses op false e = decide (e.binding < op.precedence) := by
  cases e with
  | arithmetic other left right => cases op <;> cases other <;> rfl
  | _ => cases op <;> rfl

theorem needsParentheses_right (op : ArithmeticOp) (e : Expression) :
    needsParentheses op true e = decide (e.binding < op.precedence + 1) := by
  cases e with
  | arithmetic other left right => cases op <;> cases other <;> rfl
  | _ => cases op <;> rfl

theorem kinds_arithmetic (d : Dialect) (op : ArithmeticOp) (left right : Expression) :
    (Expression.arithmetic op left right).kinds d =
      left.kindsAt d op.precedence ++
        .operator op.operator :: right.kindsAt d (op.precedence + 1) := by
  unfold kindsAt
  rw [← needsParentheses_left, ← needsParentheses_right, kinds]

theorem demand_arithmetic (op : ArithmeticOp) (left right : Expression) :
    (Expression.arithmetic op left right).demand =
      (left.demandAt op.precedence).andThen
        ((right.demandAt (op.precedence + 1)).raise (left.chainLength op.precedence + 1)) := by
  unfold demandAt
  rw [← needsParentheses_left, ← needsParentheses_right, demand]

theorem kindsAll_eq_map (d : Dialect) (expressions : List Expression) :
    kindsAll d expressions = expressions.map (kinds d) := by
  induction expressions with
  | nil => rfl
  | cons first others ih => rw [kindsAll, ih, List.map_cons]

theorem demandAll_eq_map (expressions : List Expression) :
    demandAll expressions = expressions.map demand := by
  induction expressions with
  | nil => rfl
  | cons first others ih => rw [demandAll, ih, List.map_cons]

end Expression

namespace Grammar

open Number Expression

variable {d : Dialect} {e : Expression} {tail : List TokenKind} {precedence floor : Nat}

/-- The operator of a precedence that a token stands for. -/
def operatorAt? : Nat → TokenKind → Option ArithmeticOp
  | 1 => additive?
  | 2 => multiplicative?
  | _ => fun _ => none

/-- The production of the expressions that bind at least so tightly. -/
def tier (d : Dialect) : Nat → Level → Parse Parsed
  | 1 => additive d
  | 2 => multiplicative d
  | _ => unary d

theorem operatorAt?_operator (op : ArithmeticOp) :
    operatorAt? op.precedence (.operator op.operator) = some op := by
  cases op <;> rfl

theorem operatorAt?_of_lt (op : ArithmeticOp) (h : op.precedence < floor) :
    operatorAt? floor (.operator op.operator) = none := by
  match floor with
  | 0 => rfl
  | 1 => cases op <;> simp [ArithmeticOp.precedence] at h
  | 2 => cases op <;> first | rfl | simp [ArithmeticOp.precedence] at h
  | _ + 3 => rfl

/-- What can stand behind an expression that binds so tightly: no path or call goes on, nor
a chain of tighter operators. -/
structure Follows (floor : Nat) (tail : List TokenKind) : Prop where
  dot : tail.headD .endOfInput ≠ .punctuation .dot
  openParen : tail.headD .endOfInput ≠ .punctuation .openParen
  operator : ∀ precedence, floor ≤ precedence →
    operatorAt? precedence (tail.headD .endOfInput) = none

theorem Follows.mono (h : Follows floor tail) {higher : Nat} (hle : floor ≤ higher) :
    Follows higher tail :=
  ⟨h.dot, h.openParen, fun precedence hprecedence =>
    h.operator precedence (hle.trans hprecedence)⟩

theorem follows_operator (op : ArithmeticOp) (tail : List TokenKind) :
    Follows (op.precedence + 1) (.operator op.operator :: tail) where
  dot := by cases op <;> simp [ArithmeticOp.operator]
  openParen := by cases op <;> simp [ArithmeticOp.operator]
  operator := fun _ h => operatorAt?_of_lt op h

/-- The production of a precedence reads the expression, whatever comes behind. -/
def ReadsAt (d : Dialect) (floor : Nat) (e : Expression) : Prop :=
  ∀ tail, Follows floor tail →
    Reads d (tier d floor) (e.kindsAt d floor ++ tail) (.expression e) tail (e.demandAt floor)

/-- The production of a precedence reads the expression and goes on as the rest of the chain
does that has the expression as its left end. -/
def Continues (d : Dialect) (precedence : Nat) (e : Expression) : Prop :=
  ∀ (middle : List TokenKind) (value : Parsed) (rest : List TokenKind) (demand : Demand),
    Follows (precedence + 1) middle →
    (∀ (start : Mark) (count : Nat), middle.length ≤ count →
      Reads d (fun inner => chainRest d (operatorAt? precedence) (tier d (precedence + 1) inner)
        start count (.expression e)) middle value rest demand) →
    Reads d (tier d precedence) (e.kindsAt d precedence ++ middle) value rest
      ((e.demandAt precedence).andThen (demand.raise (e.chainLength precedence)))

section Chains

theorem demandAt_of_le (h : floor ≤ e.binding) : e.demandAt floor = e.demand := by
  have hbinds : ¬e.binding < floor := Nat.not_lt.mpr h
  simp [demandAt, hbinds, Demand.withinIf]

theorem kindsAt_of_le (h : floor ≤ e.binding) : e.kindsAt d floor = e.kinds d := by
  have hbinds : ¬e.binding < floor := Nat.not_lt.mpr h
  simp [kindsAt, hbinds, enclosedIf]

/-- The levels that a chain asks for are part of what its expression demands. -/
theorem demandAt_andThen_chain (precedence : Nat) (e : Expression) :
    (e.demandAt precedence).andThen (Demand.free.raise (e.chainLength precedence)) =
      e.demandAt precedence := by
  cases e with
  | arithmetic op left right =>
      by_cases hop : op.precedence = precedence
      · have hbinding : precedence ≤ (Expression.arithmetic op left right).binding := hop.ge
        have hlength : (Expression.arithmetic op left right).chainLength precedence =
            left.chainLength precedence + 1 := by simp [chainLength, hop]
        rw [demandAt_of_le hbinding, demand_arithmetic, hlength, hop, Demand.andThen_assoc,
          ← Demand.raise_andThen, Demand.andThen_free]
      · have hlength : (Expression.arithmetic op left right).chainLength precedence = 0 := by
          simp [chainLength, hop]
        rw [hlength, Demand.raise_zero, Demand.andThen_free]
  | _ => exact Demand.andThen_free _

theorem reads_chainRest_nil (operator? : TokenKind → Option ArithmeticOp)
    (operand : Level → Parse Parsed) (h : operator? (tail.headD .endOfInput) = none)
    (start : Mark) (count : Nat) (left : Parsed) :
    Reads d (fun inner => chainRest d operator? (operand inner) start count left) tail left tail
      .free := by
  cases count with
  | zero => exact reads_pure
  | succ count =>
      apply Reads.step reads_peek
      rw [h]
      exact reads_pure

/-- A chain that ends behind the expression. -/
theorem Continues.readsAt (h : Continues d precedence e) : ReadsAt d precedence e := by
  intro tail htail
  have hends : ∀ (start : Mark) (count : Nat), tail.length ≤ count →
      Reads d (fun inner => chainRest d (operatorAt? precedence) (tier d (precedence + 1) inner)
        start count (.expression e)) tail (.expression e) tail .free :=
    fun start count _ => reads_chainRest_nil _ _ (htail.operator precedence le_rfl) start count _
  have hreads := h tail (.expression e) tail .free (htail.mono (Nat.le_succ _)) hends
  rwa [demandAt_andThen_chain] at hreads

theorem tier_eq_chain (hprecedence : precedence = 1 ∨ precedence = 2) :
    tier d precedence = fun inner =>
      chain d (operatorAt? precedence) (tier d (precedence + 1) inner) := by
  rcases hprecedence with rfl | rfl <;> rfl

/-- An expression that has no operator of the precedence at its root is the left end of a chain
by itself. -/
theorem ReadsAt.continues (hprecedence : precedence = 1 ∨ precedence = 2)
    (hbinding : e.binding ≠ precedence) (h : ReadsAt d (precedence + 1) e) :
    Continues d precedence e := by
  intro middle value rest demand hmiddle hrest
  have hdecide : decide (e.binding < precedence) = decide (e.binding < precedence + 1) := by
    rw [decide_eq_decide]
    omega
  have hlength : e.chainLength precedence = 0 := by
    cases e with
    | arithmetic op left right => simp [chainLength, show op.precedence ≠ precedence from hbinding]
    | _ => rfl
  have hfirst := h middle hmiddle
  unfold kindsAt demandAt at hfirst ⊢
  rw [← hdecide] at hfirst
  rw [hlength, Demand.raise_zero, tier_eq_chain hprecedence]
  apply Reads.step reads_mark
  apply Reads.bind hfirst
  apply Reads.step reads_tokensLeft
  exact hrest _ _ le_rfl

/-- One operator of a chain, with the rest of the chain behind its right operand. -/
theorem reads_chainRest_cons {op : ArithmeticOp} {left right : Expression} {middle : List TokenKind}
    {value : Parsed} {rest : List TokenKind} {demand : Demand}
    (hright : ReadsAt d (op.precedence + 1) right) (hmiddle : Follows (op.precedence + 1) middle)
    {start : Mark} {count : Nat}
    (hrest : Reads d (fun inner => chainRest d (operatorAt? op.precedence)
      (tier d (op.precedence + 1) inner) start count (.expression (.arithmetic op left right)))
      middle value rest demand) :
    Reads d (fun inner => chainRest d (operatorAt? op.precedence)
      (tier d (op.precedence + 1) inner) start (count + 1) (.expression left))
      (.operator op.operator :: (right.kindsAt d (op.precedence + 1) ++ middle)) value rest
      ((right.demandAt (op.precedence + 1)).andThen demand).within := by
  apply Reads.step reads_peek
  simp only [List.headD_cons, operatorAt?_operator]
  apply Reads.step reads_mark
  apply Reads.step reads_next
  apply Reads.deeper
  apply Reads.step reads_pure
  apply Reads.step reads_mark
  apply Reads.bind (hright middle hmiddle)
  apply Reads.step reads_pure
  exact hrest

/-- The operator that comes behind its left operand in a chain. -/
theorem Continues.arithmetic {op : ArithmeticOp} {left right : Expression}
    (hleft : Continues d op.precedence left) (hright : ReadsAt d (op.precedence + 1) right) :
    Continues d op.precedence (.arithmetic op left right) := by
  intro middle value rest demand hmiddle hrest
  have hchain : ∀ (start : Mark) (count : Nat),
      (.operator op.operator :: (right.kindsAt d (op.precedence + 1) ++ middle)).length ≤ count →
      Reads d (fun inner => chainRest d (operatorAt? op.precedence)
        (tier d (op.precedence + 1) inner) start count (.expression left))
        (.operator op.operator :: (right.kindsAt d (op.precedence + 1) ++ middle)) value rest
        ((right.demandAt (op.precedence + 1)).andThen demand).within := by
    intro start count hcount
    rw [List.length_cons, List.length_append] at hcount
    cases count with
    | zero => omega
    | succ count => exact reads_chainRest_cons hright hmiddle (hrest start count (by omega))
  have hreads := hleft _ value rest _ (follows_operator op _) hchain
  have hbinding : op.precedence ≤ (Expression.arithmetic op left right).binding := le_rfl
  have hlength : (Expression.arithmetic op left right).chainLength op.precedence =
      left.chainLength op.precedence + 1 := by simp [chainLength]
  have hkinds : (Expression.arithmetic op left right).kindsAt d op.precedence ++ middle =
      left.kindsAt d op.precedence ++
        .operator op.operator :: (right.kindsAt d (op.precedence + 1) ++ middle) := by
    rw [kindsAt_of_le hbinding, kinds_arithmetic, List.append_assoc, List.cons_append]
  have hdemand : ((Expression.arithmetic op left right).demandAt op.precedence).andThen
        (demand.raise (left.chainLength op.precedence + 1)) =
      (left.demandAt op.precedence).andThen
        (((right.demandAt (op.precedence + 1)).andThen demand).within.raise
          (left.chainLength op.precedence)) := by
    rw [demandAt_of_le hbinding, demand_arithmetic, Demand.andThen_assoc, ← Demand.raise_andThen,
      Demand.within, Demand.raise_raise, Nat.add_comm 1]
  rw [hkinds, hlength, hdemand]
  exact hreads

end Chains

section Primaries

/-- A token that an expression can begin with is no NOT and closes no list. -/
def Begins (kinds : List TokenKind) : Prop :=
  ∃ first rest, kinds = first :: rest ∧ first ≠ .keyword .not ∧
    first ≠ .punctuation .closeParen

theorem Begins.append {kinds : List TokenKind} (h : Begins kinds) (tail : List TokenKind) :
    Begins (kinds ++ tail) := by
  obtain ⟨first, rest, rfl, hnot, hclose⟩ := h
  exact ⟨first, rest ++ tail, rfl, hnot, hclose⟩

theorem Begins.headD {kinds : List TokenKind} (h : Begins kinds) (tail : List TokenKind) :
    (kinds ++ tail).headD .endOfInput ≠ .keyword .not ∧
      (kinds ++ tail).headD .endOfInput ≠ .punctuation .closeParen := by
  obtain ⟨first, rest, rfl, hnot, hclose⟩ := h
  exact ⟨hnot, hclose⟩

theorem begins_enclosed (kinds : List TokenKind) : Begins (enclosed kinds) :=
  ⟨_, _, rfl, by simp, by simp⟩

theorem begins_number (layout : Layout) (x : Float) : Begins (numberKinds layout x) := by
  unfold numberKinds magnitudeKind
  cases x.isNaN with
  | true => exact ⟨_, _, rfl, by simp, by simp⟩
  | false =>
      cases isNegative x <;> cases x.isInf <;> exact ⟨_, _, rfl, by simp, by simp⟩

theorem begins_literal (value : Literal) : Begins value.kinds := by
  cases value with
  | integer value =>
      rw [Literal.kinds, integerKinds]
      split <;> exact ⟨_, _, rfl, by simp, by simp⟩
  | float value => exact begins_number .literal value
  | string value => exact ⟨_, _, rfl, by simp, by simp⟩
  | boolean value => cases value <;> exact ⟨_, _, rfl, by simp, by simp⟩
  | null => exact ⟨_, _, rfl, by simp, by simp⟩
  | geometry value =>
      rw [Literal.kinds, kinds_eq_cons]
      exact ⟨_, _, rfl, by simp, by simp⟩

theorem begins_property (d : Dialect) (name : String) : Begins (propertyKinds d name) := by
  unfold propertyKinds
  split
  · cases hpieces : Text.pieces '.' name.toList with
    | nil => exact absurd hpieces (Text.pieces_ne_nil _)
    | cons first others => exact ⟨_, _, rfl, by simp, by simp⟩
  · exact ⟨_, _, rfl, by simp, by simp⟩

theorem begins_enclosedIf {kinds : List TokenKind} (h : Begins kinds) (condition : Bool) :
    Begins (enclosedIf condition kinds) := by
  cases condition with
  | true => exact begins_enclosed kinds
  | false => exact h

theorem begins_expression (d : Dialect) (e : Expression) : Begins (e.kinds d) := by
  match e with
  | .literal value => exact begins_literal value
  | .property name => exact begins_property d name
  | .arithmetic op left right =>
      exact (begins_enclosedIf (begins_expression d left) _).append _
  | .call name arguments => exact ⟨_, _, rfl, by simp, by simp⟩

/-- A primary without a sign. -/
theorem reads_unary {input rest : List TokenKind} {value : Parsed} {demand : Demand}
    (hsign : input.headD .endOfInput ≠ .operator .minus)
    (h : Reads d (primary d) input value rest demand) :
    Reads d (unary d) input value rest demand := by
  apply Reads.step reads_peek
  simp only [hsign, if_false]
  exact h

/-- A number without a sign, or with the sign that belongs to it. -/
theorem reads_numberLiteral {negative : Bool} {digits : String} {value : Literal}
    (h : Check.numberLiteral negative digits = .ok value) (tail : List TokenKind) :
    Reads d (unary d)
      ((if negative then [.operator .minus] else []) ++ [.number digits] ++ tail)
      (.expression (.literal value)) tail .free := by
  cases negative with
  | true =>
      apply Reads.step reads_peek
      apply Reads.step reads_mark
      apply Reads.step reads_next
      apply Reads.step reads_mark
      apply Reads.step reads_peek
      apply Reads.step reads_next
      apply Reads.step (reads_check h _)
      exact reads_pure
  | false =>
      apply reads_unary (by simp)
      apply Reads.step reads_mark
      apply Reads.step reads_next
      apply Reads.step (reads_check h _)
      exact reads_pure

/-- Digits alone are the text of an integer, however many there are. -/
theorem numberLiteral_digits {digits : List Char} (h : ∀ c ∈ digits, c.isDigit = true)
    (negative : Bool) :
    Check.numberLiteral negative (String.ofList digits) =
      match readInteger (signedDigits negative digits) with
      | .ok value => .ok (.integer value)
      | .error cause =>
          .error (.integerOutOfRange (String.ofList (signedDigits negative digits)) cause) := by
  have hfloat : Check.isFloatText (String.ofList digits) = false := by
    unfold Check.isFloatText
    rw [String.toList_ofList, List.any_eq_false]
    intro c hc
    have hdigit := h c hc
    simp only [Bool.or_eq_true, beq_iff_eq, not_or]
    refine ⟨⟨?_, ?_⟩, ?_⟩ <;> rintro rfl <;> cases hdigit
  have hsigned : (if negative then "-" ++ String.ofList digits else String.ofList digits) =
      String.ofList (signedDigits negative digits) := by
    cases negative with
    | true => exact String.toList_inj.mp (by simp [signedDigits])
    | false => rfl
  cases hread : readInteger (signedDigits negative digits) <;>
    simp only [Check.numberLiteral, hfloat, Bool.false_eq_true, if_false, hsigned,
      String.toList_ofList, hread]

theorem numberLiteral_integer (value : Int64) :
    Check.numberLiteral (decide (value.toInt < 0))
      (String.ofList (Numeral.ofNat value.toInt.natAbs).text) = .ok (.integer value) := by
  have hdigits : ∀ c ∈ (Numeral.ofNat value.toInt.natAbs).text, c.isDigit = true := by
    rw [Numeral.text_ofNat]
    exact toDigits_all _
  rw [numberLiteral_digits hdigits, readInteger_numeral]

theorem reads_integer (value : Int64) (tail : List TokenKind) :
    Reads d (unary d) (integerKinds value ++ tail) (.expression (.literal (.integer value))) tail
      .free := by
  have hreads := @reads_numberLiteral d _ _ _ (numberLiteral_integer value) tail
  simpa [integerKinds] using hreads

theorem reads_float {value : Float} (h : value.isFinite = true) (tail : List TokenKind) :
    Reads d (unary d) (numberKinds .literal value ++ tail) (.expression (.literal (.float value)))
      tail .free := by
  obtain ⟨digits, hkinds, hread, hpointed⟩ := @numberKinds_of_isFinite .literal rfl value h
  have hliteral : Check.numberLiteral (isNegative value) digits = .ok (.float value) := by
    unfold Check.numberLiteral
    simp only [hpointed rfl, if_true, hread, ite_neg_abs h]
  rw [hkinds]
  exact reads_numberLiteral hliteral tail

theorem reads_literal {value : Literal} (hresolved : (Expression.literal value).NodeResolved d)
    (hnumeric : (Expression.literal value).NodeNumeric) (tail : List TokenKind) :
    Reads d (unary d) (value.kinds ++ tail) (.expression (.literal value)) tail
      (Expression.literal value).demand := by
  cases value with
  | integer value => exact reads_integer value tail
  | float value => exact reads_float hnumeric tail
  | string value =>
      apply reads_unary (by simp [Literal.kinds])
      apply Reads.step reads_mark
      apply Reads.step reads_next
      exact reads_pure
  | boolean value =>
      cases value with
      | true =>
          apply reads_unary (by simp [Literal.kinds])
          apply Reads.step reads_mark
          apply Reads.step reads_next
          exact reads_pure
      | false =>
          apply reads_unary (by simp [Literal.kinds])
          apply Reads.step reads_mark
          apply Reads.step reads_next
          exact reads_pure
  | null =>
      apply reads_unary (by simp [Literal.kinds])
      apply Reads.step reads_mark
      apply Reads.step reads_next
      exact reads_pure
  | geometry value =>
      rw [Literal.kinds, kinds_eq_cons, List.cons_append]
      apply reads_unary (by simp)
      apply Reads.step reads_mark
      apply Reads.step reads_next
      apply Reads.andThen_step (reads_geometry hresolved _ tail)
      exact reads_pure

/-- The segments of a path behind its first, in front of anything but a dot. -/
theorem reads_pathSegments (hdot : tail.headD .endOfInput ≠ .punctuation .dot)
    (segments : List (List Char)) {count : Nat} (hcount : segments.length ≤ count) :
    Reads d (fun _ => pathSegments count) (dottedKinds segments ++ tail)
      (segments.map String.ofList) tail .free := by
  induction segments generalizing count with
  | nil =>
      cases count with
      | zero => exact reads_pure
      | succ count =>
          apply Reads.step (reads_acceptNot hdot)
          exact reads_pure
  | cons first others ih =>
      cases count with
      | zero => simp at hcount
      | succ count =>
          apply Reads.step reads_accept
          apply Reads.step reads_mark
          apply Reads.step reads_next
          apply Reads.step (ih (Nat.le_of_succ_le_succ hcount))
          exact reads_pure

theorem length_le_dottedKinds (segments : List (List Char)) :
    segments.length ≤ (dottedKinds segments).length := by
  induction segments with
  | nil => exact le_rfl
  | cons first others ih =>
      simp only [dottedKinds, List.length_cons]
      omega

/-- A path behind its first segment. -/
theorem reads_path_rest (hdot : tail.headD .endOfInput ≠ .punctuation .dot) (first : String)
    (segments : List (List Char)) :
    Reads d (fun _ => property first) (dottedKinds segments ++ tail)
      (.property (".".intercalate (first :: segments.map String.ofList))) tail .free := by
  apply Reads.step reads_tokensLeft
  apply Reads.step (reads_pathSegments hdot segments ?_)
  · exact reads_pure
  · rw [List.length_append]
    exact (length_le_dottedKinds segments).trans (Nat.le_add_right _ _)

theorem reads_property (hfollows : Follows 3 tail) (name : String) :
    Reads d (unary d) (propertyKinds d name ++ tail) (.expression (.property name)) tail
      .free := by
  unfold propertyKinds
  split
  · have hjoined : ".".intercalate ((Text.pieces '.' name.toList).map String.ofList) = name := by
      apply String.toList_inj.mp
      rw [String.toList_intercalate, List.map_map]
      simpa [Function.comp_def] using Text.intercalate_pieces name.toList
    cases hpieces : Text.pieces '.' name.toList with
    | nil => exact absurd hpieces (Text.pieces_ne_nil _)
    | cons first others =>
        rw [hpieces, List.map_cons] at hjoined
        have hpath := @reads_path_rest d _ hfollows.dot (String.ofList first) others
        rw [hjoined] at hpath
        have hcall : (dottedKinds others ++ tail).headD .endOfInput ≠
            .punctuation .openParen := by
          cases others with
          | nil => exact hfollows.openParen
          | cons second later => simp [dottedKinds]
        rw [segmentsKinds, List.cons_append]
        apply reads_unary (by simp)
        apply Reads.step reads_mark
        apply Reads.step reads_next
        apply Reads.step reads_peek
        simp only [hcall, if_false]
        apply Reads.step hpath
        exact reads_pure
  · have hpath := @reads_path_rest d _ hfollows.dot name []
    rw [List.map_nil, String.intercalate_singleton] at hpath
    apply reads_unary (by simp)
    apply Reads.step reads_mark
    apply Reads.step reads_next
    apply Reads.step hpath
    exact reads_pure

end Primaries

section Groups

/-- A token that is no part of an expression and does not let one go on. -/
structure Ends (kind : TokenKind) : Prop where
  dot : kind ≠ .punctuation .dot
  openParen : kind ≠ .punctuation .openParen
  additive : additive? kind = none
  multiplicative : multiplicative? kind = none

theorem Ends.follows (h : Ends (tail.headD .endOfInput)) (floor : Nat) : Follows floor tail where
  dot := h.dot
  openParen := h.openParen
  operator := fun precedence _ =>
    match precedence with
    | 0 => rfl
    | 1 => h.additive
    | 2 => h.multiplicative
    | _ + 3 => rfl

theorem ends_endOfInput : Ends .endOfInput := ⟨by simp, by simp, rfl, rfl⟩

theorem ends_closeParen : Ends (.punctuation .closeParen) := ⟨by simp, by simp, rfl, rfl⟩

theorem ends_comma : Ends (.punctuation .comma) := ⟨by simp, by simp, rfl, rfl⟩

theorem ends_keyword (word : Keyword) : Ends (.keyword word) := ⟨by simp, by simp, rfl, rfl⟩

theorem ends_comparison (op : Comparison) : Ends (.operator (.comparison op)) :=
  ⟨by simp, by simp, rfl, rfl⟩

theorem EndsItem.ends (h : EndsItem tail) : Ends (tail.headD .endOfInput) := by
  rw [List.headD_eq_head?_getD]
  rcases h with h | h
  · rw [h]
    exact ends_comma
  · rw [h]
    exact ends_closeParen

/-- The end of a filter or an expression as a whole, or of a group between parentheses. -/
def Closes (tail : List TokenKind) : Prop :=
  tail.headD .endOfInput = .endOfInput ∨ tail.headD .endOfInput = .punctuation .closeParen

theorem Closes.ends (h : Closes tail) : Ends (tail.headD .endOfInput) := by
  rcases h with h | h
  · rw [h]
    exact ends_endOfInput
  · rw [h]
    exact ends_closeParen

theorem reads_additive (h : ReadsAt d 1 e) (hends : Ends (tail.headD .endOfInput)) :
    Reads d (additive d) (e.kinds d ++ tail) (.expression e) tail e.demand := by
  have hbinding : 1 ≤ e.binding := by
    cases e with
    | arithmetic op left right => cases op <;> simp [binding, ArithmeticOp.precedence]
    | _ => simp [binding]
  have hreads := h tail (hends.follows 1)
  rwa [kindsAt_of_le hbinding, demandAt_of_le hbinding] at hreads

/-- An expression where no predicate can stand. -/
theorem reads_operand (h : ReadsAt d 1 e) (hends : Ends (tail.headD .endOfInput)) :
    Reads d (operand d) (e.kinds d ++ tail) e tail e.demand := by
  apply Reads.step reads_mark
  apply Reads.andThen_step (reads_additive h hends)
  exact reads_pure

/-- An expression with nothing behind it is no predicate and no operand of one. -/
theorem reads_disjunction_of_additive {input : List TokenKind} {demand : Demand}
    (h : Reads d (additive d) input (.expression e) tail demand)
    (hbegins : input.headD .endOfInput ≠ .keyword .not) (hcloses : Closes tail) :
    Reads d (disjunction d) input (.expression e) tail demand := by
  have hlogical : ∀ op : LogicalOp, tail.headD .endOfInput ≠ .keyword op.keyword := by
    intro op
    rcases hcloses with htail | htail <;> rw [htail] <;> simp
  have htest : ∀ inner, test? d inner e (tail.headD .endOfInput) = none := by
    intro inner
    rcases hcloses with htail | htail <;> rw [htail] <;> rfl
  have hpredicate : Reads d (predicate d) input (.expression e) tail demand := by
    apply Reads.andThen_step h
    apply Reads.step reads_peek
    simp only [htest]
    exact reads_pure
  have hnegation : Reads d (negation d) input (.expression e) tail demand := by
    apply Reads.step reads_peek
    simp only [hbegins, if_false]
    exact hpredicate
  have hconjunction : Reads d (conjunction d) input (.expression e) tail demand := by
    apply Reads.step reads_mark
    apply Reads.andThen_step hnegation
    apply Reads.step reads_peek
    simp only [hlogical .and, if_false]
    exact reads_pure
  apply Reads.step reads_mark
  apply Reads.andThen_step hconjunction
  apply Reads.step reads_peek
  simp only [hlogical .or, if_false]
  exact reads_pure

theorem reads_disjunction (h : ReadsAt d 1 e) (hcloses : Closes tail) :
    Reads d (disjunction d) (e.kinds d ++ tail) (.expression e) tail e.demand :=
  reads_disjunction_of_additive (reads_additive h hcloses.ends)
    ((begins_expression d e).headD tail).1 hcloses

/-- An operand in front of anything but an operator is a chain by itself. -/
theorem reads_chain_alone {operator? : TokenKind → Option ArithmeticOp}
    {operand : Level → Parse Parsed} {input : List TokenKind} {value : Parsed} {demand : Demand}
    (h : Reads d operand input value tail demand)
    (htail : operator? (tail.headD .endOfInput) = none) :
    Reads d (fun inner => chain d operator? (operand inner)) input value tail demand := by
  apply Reads.step reads_mark
  apply Reads.andThen_step h
  apply Reads.step reads_tokensLeft
  exact reads_chainRest_nil _ _ htail _ _ _

/-- A group between parentheses, whatever it holds. -/
theorem reads_group {kinds : List TokenKind} {value : Parsed} {demand : Demand}
    (h : Reads d (disjunction d) (kinds ++ .punctuation .closeParen :: tail) value
      (.punctuation .closeParen :: tail) demand) :
    Reads d (unary d) (enclosed kinds ++ tail) value tail demand.within := by
  rw [append_enclosed]
  apply reads_unary (by simp)
  apply Reads.step reads_mark
  apply Reads.step reads_next
  apply Reads.step reads_mark
  apply Reads.andThen_step
    (@Reads.nested d _ _ _ _ _ (fun inner => inner .group) _ _ h)
  apply Reads.step (reads_close _)
  exact reads_pure

/-- Arguments between parentheses, of which there is at least one. -/
theorem reads_arguments {arguments : List Expression} (hnonempty : arguments ≠ [])
    (h : ∀ e ∈ arguments, ReadsAt d 1 e) (opening : Mark) (rest : List TokenKind) :
    Reads d (fun inner => Grammar.arguments d inner opening)
      (separated (kindsAll d arguments) ++ .punctuation .closeParen :: rest) arguments rest
      (Demand.within (.all (demandAll arguments))) := by
  have hitems : ∀ e ∈ arguments, ∀ tail, EndsItem tail →
      ReadsOrStrays d (operand d) (e.kinds d ++ tail) e tail e.demand :=
    fun e he tail htail => .inl (reads_operand (h e he) htail.ends)
  have hlist := reads_list hnonempty hitems opening rest
  rw [← Expression.kindsAll_eq_map, ← Expression.demandAll_eq_map] at hlist
  exact @Reads.nested d _ _ _ _ _ (fun inner => list opening (inner .argument)) _ _ hlist

theorem begins_separated {arguments : List Expression} (hnonempty : arguments ≠ []) :
    Begins (separated (kindsAll d arguments)) := by
  cases arguments with
  | nil => exact absurd rfl hnonempty
  | cons first others => exact (begins_expression d first).append _

/-- Arguments between parentheses, or an empty pair of them. -/
theorem reads_callArguments {arguments : List Expression}
    (h : ∀ e ∈ arguments, ReadsAt d 1 e) (rest : List TokenKind) :
    Reads d (callArguments d) (enclosed (separated (kindsAll d arguments)) ++ rest) arguments rest
      (.withinIf (!arguments.isEmpty) (.all (demandAll arguments))) := by
  rw [append_enclosed]
  apply Reads.step reads_expect
  by_cases hnonempty : arguments = []
  · rw [hnonempty]
    apply Reads.step reads_accept
    exact reads_pure
  · have hbegins := @begins_separated d arguments hnonempty
    have hopen := (hbegins.headD (.punctuation .closeParen :: rest)).2
    have hdemand : Demand.withinIf (!arguments.isEmpty) (.all (demandAll arguments)) =
        Demand.within (.all (demandAll arguments)) := by
      simp [Demand.withinIf, hnonempty]
    rw [hdemand]
    apply Reads.step (reads_acceptNot hopen)
    exact reads_arguments hnonempty h _ rest

theorem reads_call {name : String} {arguments : List Expression}
    (hadmits : d.Admits name arguments.length) (h : ∀ e ∈ arguments, ReadsAt d 1 e)
    (rest : List TokenKind) :
    Reads d (unary d) ((Expression.call name arguments).kinds d ++ rest)
      (.expression (.call name arguments)) rest (Expression.call name arguments).demand := by
  have hfault : Check.functionFault? d name arguments.length = none :=
    Check.functionFault?_of_admits hadmits
  apply reads_unary (by simp [Expression.kinds])
  apply Reads.step reads_mark
  apply Reads.step reads_next
  apply Reads.step reads_peek
  apply Reads.andThen_step (reads_callArguments h rest)
  apply Reads.step (reads_checkNone hfault _)
  exact reads_pure

end Groups

section Trees

/-- An expression is read back at every precedence. -/
structure ReadsBack (d : Dialect) (e : Expression) : Prop where
  additive : Continues d 1 e
  multiplicative : Continues d 2 e
  unary : ReadsAt d 3 e

/-- An expression that is no operator is read without parentheses. -/
theorem readsBack_of_unary (hbinding : e.binding = 3)
    (h : ∀ tail, Follows 3 tail →
      Reads d (unary d) (e.kinds d ++ tail) (.expression e) tail e.demand) :
    ReadsBack d e := by
  have hunary : ReadsAt d 3 e := by
    intro tail htail
    rw [kindsAt_of_le hbinding.ge, demandAt_of_le hbinding.ge]
    exact h tail htail
  have hmultiplicative : Continues d 2 e := hunary.continues (.inr rfl) (by omega)
  exact ⟨hmultiplicative.readsAt.continues (.inl rfl) (by omega), hmultiplicative, hunary⟩

/-- Where it binds too little, an operator stands between parentheses. -/
theorem readsAt_of_lt (h : ReadsAt d 1 e) (hbinding : e.binding < 3) : ReadsAt d 3 e := by
  intro tail _
  have hgroup := reads_group (@reads_disjunction d e (.punctuation .closeParen :: tail) h (.inr rfl))
  simp only [kindsAt, demandAt, hbinding, decide_true, enclosedIf, Demand.withinIf, if_true]
  exact hgroup

theorem ReadsBack.arithmetic {op : ArithmeticOp} {left right : Expression}
    (hleft : ReadsBack d left) (hright : ReadsBack d right) :
    ReadsBack d (.arithmetic op left right) := by
  by_cases hop : op.precedence = 1
  · have hadditive : Continues d 1 (.arithmetic op left right) := by
      rw [← hop]
      apply Continues.arithmetic
      · rw [hop]
        exact hleft.additive
      · rw [hop]
        exact hright.multiplicative.readsAt
    have hbinding : (Expression.arithmetic op left right).binding = 1 := hop
    have hunary := readsAt_of_lt hadditive.readsAt (by omega)
    exact ⟨hadditive, hunary.continues (.inr rfl) (by omega), hunary⟩
  · have hop : op.precedence = 2 := by
      cases op <;> simp [ArithmeticOp.precedence] at hop ⊢
    have hmultiplicative : Continues d 2 (.arithmetic op left right) := by
      rw [← hop]
      apply Continues.arithmetic
      · rw [hop]
        exact hleft.multiplicative
      · rw [hop]
        exact hright.unary
    have hbinding : (Expression.arithmetic op left right).binding = 2 := hop
    have hadditive : Continues d 1 (.arithmetic op left right) :=
      hmultiplicative.readsAt.continues (.inl rfl) (by omega)
    exact ⟨hadditive, hmultiplicative, readsAt_of_lt hadditive.readsAt (by omega)⟩

mutual

/-- The tokens of an accepted expression are read back as the expression. -/
theorem readsBack : ∀ {e : Expression}, e.Every (NodeAccepted d) → ReadsBack d e
  | .literal _, h =>
      readsBack_of_unary rfl fun tail _ => reads_literal h.resolved h.numeric tail
  | .property name, _ => readsBack_of_unary rfl fun _ htail => reads_property htail name
  | .arithmetic _ _ _, ⟨_, hleft, hright⟩ => (readsBack hleft).arithmetic (readsBack hright)
  | .call _ _, ⟨hcall, harguments⟩ =>
      readsBack_of_unary rfl fun tail _ =>
        reads_call hcall.resolved (fun e he => (readsBack_all harguments e he).additive.readsAt) tail

theorem readsBack_all : ∀ {expressions : List Expression},
    EveryAll (NodeAccepted d) expressions → ∀ e ∈ expressions, ReadsBack d e
  | [], _, e, he => nomatch he
  | _ :: _, ⟨hfirst, hothers⟩, e, he => by
      rcases List.mem_cons.mp he with heq | hmem
      · rw [heq]
        exact readsBack hfirst
      · exact readsBack_all hothers e hmem

end

end Trees

end Grammar

end GeoFilter
