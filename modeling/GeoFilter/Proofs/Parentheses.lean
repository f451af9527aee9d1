import GeoFilter.Proofs.Grammar.Surplus

/-!
The parentheses of canonical text. An operand stands between parentheses only where it is an
operator itself, and these parentheses cannot be spared: without them the text asks for one less
than the expression does, whatever it is read as and however far away the next operator is.
-/

namespace GeoFilter

open Grammar Writing

variable {d : Dialect} {α β : Type}

section Canonical

theorem surplus_numberKinds {layout : Number.Layout} (hsigned : layout.signed = false) {x : Float}
    (h : x.isFinite = true) : surplus (numberKinds layout x) = -1 := by
  obtain ⟨digits, hkinds, -⟩ := numberKinds_of_isFinite hsigned h
  rw [hkinds]
  split <;> rfl

theorem surplus_integerKinds (value : Int64) : surplus (integerKinds value) = -1 := by
  unfold integerKinds
  split <;> rfl

theorem surplus_coordinateKinds {c : Coordinate} (h : c.isFinite = true) :
    surplus c.kinds = c.surplus := by
  obtain ⟨x, y, z⟩ := c
  simp only [Coordinate.isFinite, Bool.and_eq_true] at h
  obtain ⟨⟨hx, hy⟩, hz⟩ := h
  simp only [Coordinate.kinds, surplus_append, @surplus_numberKinds .coordinate rfl x hx,
    @surplus_numberKinds .coordinate rfl y hy]
  cases z with
  | none => rfl
  | some z => simp [@surplus_numberKinds .coordinate rfl z hz, Coordinate.surplus]

section Items

variable {items : List α} {kinds : α → List TokenKind} {weigh : α → Int}
  (h : ∀ item ∈ items, surplus (kinds item) = weigh item)
include h

theorem sum_surplus_items : ((items.map kinds).map surplus).sum = (items.map weigh).sum := by
  rw [List.map_map]
  exact congrArg List.sum (List.map_congr_left h)

theorem surplus_enclosedItems :
    surplus (enclosed (separated (items.map kinds))) = listSurplus weigh items := by
  rw [surplus_enclosed, surplus_separated, sum_surplus_items h, listSurplus]

theorem surplus_taggedItems (type : GeometryType) :
    surplus (taggedKinds type items.isEmpty (separated (items.map kinds))) =
      taggedSurplus weigh items := by
  unfold taggedKinds taggedSurplus
  split
  · rfl
  · rw [surplus_cons, surplus_enclosedItems h]
    exact Int.zero_add _

end Items

theorem surplus_pathKinds {path : List Coordinate} (h : ∀ c ∈ path, c.isFinite = true) :
    surplus (pathKinds path) = listSurplus Coordinate.surplus path :=
  surplus_enclosedItems fun c hc => surplus_coordinateKinds (h c hc)

theorem surplus_ringsKinds {rings : List Ring} (h : ∀ ring ∈ rings, ∀ c ∈ ring, c.isFinite = true) :
    surplus (ringsKinds rings) = listSurplus (listSurplus Coordinate.surplus) rings :=
  surplus_enclosedItems fun ring hring => surplus_pathKinds (h ring hring)

mutual

theorem surplus_geometryKinds : ∀ {g : Geometry}, g.Finite → surplus g.kinds = g.surplus
  | .point none, _ => rfl
  | .point (some c), h => by
      have hc := surplus_coordinateKinds (h c rfl)
      simp [Geometry.kinds, taggedKinds, Geometry.surplus, taggedSurplus, listSurplus, hc,
        TokenKind.surplus]
  | .lineString _, h => surplus_taggedItems (fun c hc => surplus_coordinateKinds (h c hc)) _
  | .polygon _, h => surplus_taggedItems (fun ring hring => surplus_pathKinds (h ring hring)) _
  | .multiPoint _, h => surplus_taggedItems (fun c hc => surplus_coordinateKinds (h c hc)) _
  | .multiLineString _, h =>
      surplus_taggedItems (fun path hpath => surplus_pathKinds (h path hpath)) _
  | .multiPolygon _, h =>
      surplus_taggedItems (fun rings hrings => surplus_ringsKinds (h rings hrings)) _
  | .collection members, h => by
      have hmembers := surplus_geometriesKinds (show Geometry.FiniteAll members from h)
      rw [Geometry.kinds, Geometry.surplus, taggedKinds]
      split
      · rfl
      · rw [surplus_cons, surplus_enclosed, surplus_separated, hmembers]
        exact Int.zero_add _
  | .envelope bounds, h => by
      obtain ⟨hminX, hminY, hmaxX, hmaxY⟩ : bounds.Finite := h
      simp [Geometry.kinds, taggedKinds, Geometry.surplus, TokenKind.surplus,
        @surplus_numberKinds .coordinate rfl _ hminX, @surplus_numberKinds .coordinate rfl _ hminY,
        @surplus_numberKinds .coordinate rfl _ hmaxX, @surplus_numberKinds .coordinate rfl _ hmaxY]

theorem surplus_geometriesKinds : ∀ {members : List Geometry}, Geometry.FiniteAll members →
    ((Geometry.kindsAll members).map surplus).sum = Geometry.surplusAll members
  | [], _ => rfl
  | first :: others, ⟨hfirst, hothers⟩ => by
      rw [Geometry.kindsAll, Geometry.surplusAll, List.map_cons, List.sum_cons,
        surplus_geometryKinds hfirst, surplus_geometriesKinds hothers]

end

theorem surplus_dottedKinds (segments : List (List Char)) : surplus (dottedKinds segments) = 0 := by
  induction segments with
  | nil => rfl
  | cons first others ih => simp [dottedKinds, ih, TokenKind.surplus]

theorem surplus_propertyKinds (d : Dialect) (name : String) :
    surplus (propertyKinds d name) = 0 := by
  unfold propertyKinds
  split
  · cases Text.pieces '.' name.toList with
    | nil => rfl
    | cons first others => simp [segmentsKinds, surplus_dottedKinds, TokenKind.surplus]
  · rfl

mutual

/-- The canonical tokens have the surplus that the expression asks for. -/
theorem surplus_kinds : ∀ {e : Expression}, e.WellFormed d → surplus (e.kinds d) = e.surplus
  | .literal (.integer value), _ => surplus_integerKinds value
  | .literal (.float value), h => surplus_numberKinds rfl (Expression.Every.root h).accepted.numeric
  | .literal (.string _), _ => rfl
  | .literal (.boolean true), _ => rfl
  | .literal (.boolean false), _ => rfl
  | .literal .null, _ => rfl
  | .literal (.geometry value), h => surplus_geometryKinds h.finite
  | .property name, _ => surplus_propertyKinds d name
  | .arithmetic op left right, ⟨_, hleft, hright⟩ => by
      rw [Expression.kinds, Expression.surplus, Expression.needsParentheses_left,
        Expression.needsParentheses_right, surplus_append, surplus_cons, surplus_enclosedIf,
        surplus_enclosedIf, surplus_kinds hleft, surplus_kinds hright]
      simp [TokenKind.surplus]
  | .call name arguments, ⟨_, harguments⟩ => by
      rw [Expression.kinds, Expression.surplus, surplus_cons, surplus_enclosed, surplus_separated,
        surplus_kindsAll harguments]
      exact Int.zero_add _

theorem surplus_kindsAll : ∀ {expressions : List Expression},
    Expression.EveryAll (Expression.NodeWellFormed d) expressions →
    ((Expression.kindsAll d expressions).map surplus).sum = Expression.surplusAll expressions
  | [], _ => rfl
  | first :: others, ⟨hfirst, hothers⟩ => by
      rw [Expression.kindsAll, Expression.surplusAll, List.map_cons, List.sum_cons,
        surplus_kinds hfirst, surplus_kindsAll hothers]

end

end Canonical

section Equality

/-- Items that are equal have the same weights. -/
theorem map_eq_of_beq [BEq α] {weigh : α → Int}
    (hweigh : ∀ a b, (a == b) = true → weigh a = weigh b) :
    ∀ {items items' : List α}, (items == items') = true → items.map weigh = items'.map weigh
  | [], [], _ => rfl
  | [], _ :: _, h => by cases h
  | _ :: _, [], h => by cases h
  | a :: items, b :: items', h => by
      simp only [List.cons_beq_cons, Bool.and_eq_true] at h
      rw [List.map_cons, List.map_cons, hweigh a b h.1, map_eq_of_beq hweigh h.2]

theorem taggedSurplus_congr {weigh : α → Int} {items items' : List α}
    (h : items.map weigh = items'.map weigh) :
    taggedSurplus weigh items = taggedSurplus weigh items' := by
  have hempty : items.isEmpty = items'.isEmpty := by
    rw [← List.isEmpty_map (f := weigh), h, List.isEmpty_map]
  rw [taggedSurplus, taggedSurplus, listSurplus, listSurplus, h, hempty]

theorem taggedSurplus_of_beq [BEq α] {weigh : α → Int}
    (hweigh : ∀ a b, (a == b) = true → weigh a = weigh b) {items items' : List α}
    (h : (items == items') = true) : taggedSurplus weigh items = taggedSurplus weigh items' :=
  taggedSurplus_congr (map_eq_of_beq hweigh h)

theorem listSurplus_of_beq [BEq α] {weigh : α → Int}
    (hweigh : ∀ a b, (a == b) = true → weigh a = weigh b) (items items' : List α)
    (h : (items == items') = true) : listSurplus weigh items = listSurplus weigh items' := by
  rw [listSurplus, listSurplus, map_eq_of_beq hweigh h]

theorem coordinateSurplus_of_beq (a b : Coordinate) (h : (a == b) = true) :
    a.surplus = b.surplus := by
  obtain ⟨x, y, z⟩ := a
  obtain ⟨x', y', z'⟩ := b
  have hparts : (x == x' && (y == y' && z == z')) = true := h
  simp only [Bool.and_eq_true] at hparts
  obtain ⟨-, -, hz⟩ := hparts
  cases z <;> cases z' <;> first | rfl | cases hz

mutual

/-- Geometries that are equal by the numbers they hold have the same surplus. -/
theorem surplus_of_same : ∀ {a b : Geometry}, a.same b = true → a.surplus = b.surplus
  | .point none, .point none, _ => rfl
  | .point (some c), .point (some c'), h => by
      have hsurplus := coordinateSurplus_of_beq c c' h
      exact taggedSurplus_congr (by simp [hsurplus])
  | .lineString _, .lineString _, h => taggedSurplus_of_beq coordinateSurplus_of_beq h
  | .polygon _, .polygon _, h =>
      taggedSurplus_of_beq (listSurplus_of_beq coordinateSurplus_of_beq) h
  | .multiPoint _, .multiPoint _, h => taggedSurplus_of_beq coordinateSurplus_of_beq h
  | .multiLineString _, .multiLineString _, h =>
      taggedSurplus_of_beq (listSurplus_of_beq coordinateSurplus_of_beq) h
  | .multiPolygon _, .multiPolygon _, h =>
      taggedSurplus_of_beq (listSurplus_of_beq (listSurplus_of_beq coordinateSurplus_of_beq)) h
  | .collection members, .collection members', h => by
      rw [Geometry.surplus_collection, Geometry.surplus_collection]
      exact taggedSurplus_congr (surplus_of_sameAll h)
  | .envelope _, .envelope _, _ => rfl

theorem surplus_of_sameAll : ∀ {as bs : List Geometry}, Geometry.sameAll as bs = true →
    as.map Geometry.surplus = bs.map Geometry.surplus
  | [], [], _ => rfl
  | a :: as, b :: bs, h => by
      rw [Geometry.sameAll, Bool.and_eq_true] at h
      rw [List.map_cons, List.map_cons, surplus_of_same h.1, surplus_of_sameAll h.2]

end

namespace Expression

mutual

/-- Expressions that are equal by the values of their literals have the same surplus. -/
theorem surplus_of_same : ∀ {a b : Expression}, a.same b = true →
    a.binding = b.binding ∧ a.surplus = b.surplus
  | .literal a, .literal b, h => ⟨rfl, by
      cases a <;> cases b <;> first | rfl | cases h | exact GeoFilter.surplus_of_same h⟩
  | .property _, .property _, _ => ⟨rfl, rfl⟩
  | .arithmetic op a b, .arithmetic op' a' b', h => by
      simp only [Expression.same, Bool.and_eq_true, beq_iff_eq] at h
      obtain ⟨⟨rfl, hleft⟩, hright⟩ := h
      obtain ⟨hbindsLeft, hleft⟩ := surplus_of_same hleft
      obtain ⟨hbindsRight, hright⟩ := surplus_of_same hright
      refine ⟨rfl, ?_⟩
      rw [surplus, surplus, hbindsLeft, hbindsRight, hleft, hright]
  | .call _ arguments, .call _ arguments', h => by
      simp only [Expression.same, Bool.and_eq_true] at h
      refine ⟨rfl, ?_⟩
      rw [surplus, surplus, surplusAll_of_sameAll h.2]

theorem surplusAll_of_sameAll : ∀ {as bs : List Expression}, sameAll as bs = true →
    surplusAll as = surplusAll bs
  | [], [], _ => rfl
  | a :: as, b :: bs, h => by
      rw [sameAll, Bool.and_eq_true] at h
      rw [surplusAll, surplusAll, (surplus_of_same h.1).2, surplusAll_of_sameAll h.2]

end

end Expression

end Equality

section Operands

/-- The text of an operand, in parentheses if it needs them. -/
def operandText (d : Dialect) (op : ArithmeticOp) (right : Bool) (e : Expression) : String :=
  parenthesisedIf (e.needsParentheses op right) (e.write d)

/-- What stands in front of an operand that is to the right of an operator. -/
def leftText (d : Dialect) (op : ArithmeticOp) (left : Expression) : String :=
  operandText d op false left ++ " " ++ op.symbol ++ " "

/-- What stands behind an operand that is to the left of an operator. -/
def rightText (d : Dialect) (op : ArithmeticOp) (right : Expression) : String :=
  " " ++ op.symbol ++ " " ++ operandText d op true right

/-- The operand on one side of an operator anywhere in an expression, between the text in front of
it and the text behind it. Its own parentheses belong to neither. -/
inductive OperandIn (d : Dialect) :
    Expression → String → ArithmeticOp → Bool → Expression → String → Prop where
  | left {op : ArithmeticOp} {left right : Expression} :
      OperandIn d (.arithmetic op left right) "" op false left (rightText d op right)
  | right {op : ArithmeticOp} {left right : Expression} :
      OperandIn d (.arithmetic op left right) (leftText d op left) op true right ""
  | inLeft {op parent : ArithmeticOp} {left right x : Expression} {before after : String}
      {side : Bool} (h : OperandIn d left before parent side x after) :
      OperandIn d (.arithmetic op left right)
        ((if left.needsParentheses op false then "(" else "") ++ before) parent side x
        (after ++ (if left.needsParentheses op false then ")" else "") ++ rightText d op right)
  | inRight {op parent : ArithmeticOp} {left right x : Expression} {before after : String}
      {side : Bool} (h : OperandIn d right before parent side x after) :
      OperandIn d (.arithmetic op left right)
        (leftText d op left ++ (if right.needsParentheses op true then "(" else "") ++ before)
        parent side x (after ++ (if right.needsParentheses op true then ")" else ""))
  | inArgument {name : String} {front back : List Expression} {e x : Expression}
      {parent : ArithmeticOp} {before after : String} {side : Bool}
      (h : OperandIn d e before parent side x after) :
      OperandIn d (.call name (front ++ e :: back))
        (name ++ "(" ++ String.join (front.map fun a => a.write d ++ ", ") ++ before) parent side x
        (after ++ String.join (back.map fun a => ", " ++ a.write d) ++ ")")

variable {e x : Expression} {parent : ArithmeticOp} {side : Bool} {before after : String}

theorem parenthesisedIf_append (condition : Bool) (a b c : String) :
    parenthesisedIf condition (a ++ b ++ c) =
      (if condition then "(" else "") ++ a ++ b ++ (c ++ (if condition then ")" else "")) := by
  cases condition <;> simp [parenthesisedIf, parenthesised, String.append_assoc]

theorem write_arithmetic (op : ArithmeticOp) (left right : Expression) :
    (Expression.arithmetic op left right).write d =
      operandText d op false left ++ rightText d op right := by
  simp only [Expression.write, rightText, operandText, String.append_assoc]

theorem commas_cons (text : String) (back : List String) :
    commas (text :: back) = text ++ String.join (back.map (", " ++ ·)) := by
  unfold commas
  induction back generalizing text with
  | nil => simp
  | cons second back ih =>
      rw [String.intercalate_cons_cons, ih, List.map_cons, String.join_cons]
      simp only [String.append_assoc]

theorem commas_append (front back : List String) (text : String) :
    commas (front ++ text :: back) =
      String.join (front.map (· ++ ", ")) ++ text ++ String.join (back.map (", " ++ ·)) := by
  induction front with
  | nil => simp [commas_cons]
  | cons first front ih =>
      have hrest : commas (first :: (front ++ text :: back)) =
          first ++ ", " ++ commas (front ++ text :: back) := by
        cases front with
        | nil => exact String.intercalate_cons_cons
        | cons second front => exact String.intercalate_cons_cons
      rw [List.cons_append, hrest, ih, List.map_cons, String.join_cons]
      simp only [String.append_assoc]

theorem writeAll_eq_map (d : Dialect) (expressions : List Expression) :
    Expression.writeAll d expressions = expressions.map (Expression.write d) := by
  induction expressions with
  | nil => rfl
  | cons first others ih => rw [Expression.writeAll, ih, List.map_cons]

/-- The text around an operand, and the operand, make up the text of the whole. -/
theorem OperandIn.write_eq (h : OperandIn d e before parent side x after) :
    e.write d = before ++ operandText d parent side x ++ after := by
  induction h with
  | left => rw [write_arithmetic, String.empty_append]
  | right =>
      rw [write_arithmetic, String.append_empty]
      simp only [leftText, rightText, String.append_assoc]
  | inLeft h ih =>
      rw [write_arithmetic, operandText, ih, parenthesisedIf_append]
      simp only [String.append_assoc]
  | @inRight op parent left right x before after side h ih =>
      have hright : operandText d op true right =
          parenthesisedIf (right.needsParentheses op true) (right.write d) := rfl
      rw [write_arithmetic, rightText, hright, ih, parenthesisedIf_append]
      simp only [leftText, String.append_assoc]
  | @inArgument name front back e x parent before after side h ih =>
      rw [Expression.write, writeAll_eq_map, List.map_append, List.map_cons, commas_append, ih,
        List.map_map, List.map_map]
      simp only [parenthesised, Function.comp_def, String.append_assoc]

/-- What an operand asks for, with its parentheses. -/
def operandSurplus (op : ArithmeticOp) (right : Bool) (e : Expression) : Int :=
  (if e.needsParentheses op right then 1 else 0) + e.surplus

theorem surplus_operands (op : ArithmeticOp) (left right : Expression) :
    (Expression.arithmetic op left right).surplus =
      operandSurplus op false left + operandSurplus op true right := by
  simp only [Expression.surplus, operandSurplus, Expression.needsParentheses_left,
    Expression.needsParentheses_right, decide_eq_true_eq]

theorem named_of_wellFormed (h : e.WellFormed d) : e.Every (Expression.NodeNamed d) :=
  Expression.Every.imp (fun _ hnode => hnode.accepted.named) h

theorem spells_operandText (op : ArithmeticOp) (right : Bool) (h : e.WellFormed d) :
    ∃ kinds, Spells d (operandText d op right e).toList kinds ∧
      surplus kinds = operandSurplus op right e := by
  refine ⟨_, spells_parenthesisedIf (spells_expression (named_of_wellFormed h)) _, ?_⟩
  rw [surplus_enclosedIf, surplus_kinds h, operandSurplus]

theorem spells_written {expressions : List Expression} (h : ∀ e ∈ expressions, e.WellFormed d) :
    SpellsAll d (expressions.map (Expression.write d)) (expressions.map (Expression.kinds d)) :=
  spellsAll_map fun e he => spells_expression (named_of_wellFormed (h e he))

/-- Whatever is written between the two texts, the tokens around it have the surplus `offset`. -/
def Surrounds (d : Dialect) (before after : String) (offset : Int) : Prop :=
  ∀ (text : String) (kinds : List TokenKind), Spells d text.toList kinds →
    ∃ whole, Spells d (before ++ text ++ after).toList whole ∧
      surplus whole = offset + surplus kinds

/-- One pair of texts around another. -/
theorem Surrounds.trans {before' after' : String} {offset offset' : Int}
    (h : Surrounds d before after offset) (h' : Surrounds d before' after' offset') :
    Surrounds d (before' ++ before) (after ++ after') (offset' + offset) := by
  intro text kinds htext
  obtain ⟨within, hwithin, hsum⟩ := h text kinds htext
  obtain ⟨whole, hwhole, htotal⟩ := h' _ within hwithin
  refine ⟨whole, ?_, by omega⟩
  simpa only [String.append_assoc] using hwhole

theorem surrounds_parentheses (condition : Bool) :
    Surrounds d (if condition then "(" else "") (if condition then ")" else "")
      (if condition then 1 else 0) := by
  intro text kinds htext
  refine ⟨_, ?_, surplus_enclosedIf kinds condition⟩
  have hwhole := spells_parenthesisedIf htext condition
  cases condition with
  | false => simpa [parenthesisedIf] using hwhole
  | true => exact hwhole

theorem surrounds_right (op : ArithmeticOp) (h : e.WellFormed d) :
    Surrounds d "" (rightText d op e) (operandSurplus op true e) := by
  intro text kinds htext
  obtain ⟨kr, hspells, hsurplus⟩ := spells_operandText op true h
  have hwhole := (htext.spaced (opens_arithmetic op).spells).spaced hspells
  have hsplit : "" ++ text ++ rightText d op e =
      text ++ " " ++ op.symbol ++ " " ++ operandText d op true e := by
    simp only [rightText, String.empty_append, String.append_assoc]
  rw [← hsplit] at hwhole
  exact ⟨_, hwhole, by simp [TokenKind.surplus, hsurplus, add_comm]⟩

theorem surrounds_left (op : ArithmeticOp) (h : e.WellFormed d) :
    Surrounds d (leftText d op e) "" (operandSurplus op false e) := by
  intro text kinds htext
  obtain ⟨kl, hspells, hsurplus⟩ := spells_operandText op false h
  have hwhole := (hspells.spaced (opens_arithmetic op).spells).spaced htext
  have hsplit : leftText d op e ++ text ++ "" =
      operandText d op false e ++ " " ++ op.symbol ++ " " ++ text := String.append_empty
  rw [← hsplit] at hwhole
  exact ⟨_, hwhole, by simp [TokenKind.surplus, hsurplus]⟩

/-- A call around one of its arguments. -/
theorem surrounds_argument {name : String} {front back : List Expression}
    (hname : isPlainWord d name = true) (hfront : ∀ a ∈ front, a.WellFormed d)
    (hback : ∀ a ∈ back, a.WellFormed d) :
    Surrounds d (name ++ "(" ++ String.join (front.map fun a => a.write d ++ ", "))
      (String.join (back.map fun a => ", " ++ a.write d) ++ ")")
      (1 + (front.map Expression.surplus).sum + (back.map Expression.surplus).sum) := by
  intro text kinds htext
  obtain ⟨hword, hkind⟩ := isWord_of_isPlainWord hname
  have harguments := spells_commas
    (List.rel_append (spells_written hfront) (List.Forall₂.cons htext (spells_written hback)))
  have hwhole := spells_applied (spells_classified hword hkind) harguments
  rw [commas_append, List.map_map, List.map_map] at hwhole
  have hbefore := @sum_surplus_items _ front _ Expression.surplus fun a ha =>
    surplus_kinds (hfront a ha)
  have hbehind := @sum_surplus_items _ back _ Expression.surplus fun a ha =>
    surplus_kinds (hback a ha)
  simp only [parenthesised, Function.comp_def, String.append_assoc] at hwhole
  simp only [String.append_assoc]
  refine ⟨_, hwhole, ?_⟩
  simp only [List.singleton_append, surplus_cons, surplus_enclosed, surplus_separated,
    List.map_append, List.map_cons, List.sum_append, List.sum_cons, hbefore, hbehind,
    TokenKind.surplus]
  omega

/-- The tokens around an operand have the surplus that the expression asks for beyond it. -/
theorem OperandIn.surrounds (h : OperandIn d e before parent side x after) (hwell : e.WellFormed d) :
    x.WellFormed d ∧ ∃ offset : Int, e.surplus = offset + operandSurplus parent side x ∧
      Surrounds d before after offset := by
  induction h with
  | @left op left right =>
      obtain ⟨-, hleft, hright⟩ := hwell
      refine ⟨hleft, operandSurplus op true right, ?_, surrounds_right op hright⟩
      rw [surplus_operands, add_comm]
  | @right op left right =>
      obtain ⟨-, hleft, hright⟩ := hwell
      exact ⟨hright, operandSurplus op false left, surplus_operands op left right,
        surrounds_left op hleft⟩
  | @inLeft op parent left right x before after side h ih =>
      obtain ⟨-, hleft, hright⟩ := hwell
      obtain ⟨hx, offset, hoffset, hwithin⟩ := ih hleft
      have hwhole := (hwithin.trans (surrounds_parentheses (left.needsParentheses op false))).trans
        (surrounds_right op hright)
      rw [String.empty_append] at hwhole
      refine ⟨hx, _, ?_, hwhole⟩
      rw [surplus_operands]
      unfold operandSurplus at hoffset ⊢
      omega
  | @inRight op parent left right x before after side h ih =>
      obtain ⟨-, hleft, hright⟩ := hwell
      obtain ⟨hx, offset, hoffset, hwithin⟩ := ih hright
      have hwhole := (hwithin.trans (surrounds_parentheses (right.needsParentheses op true))).trans
        (surrounds_left op hleft)
      rw [String.append_empty, ← String.append_assoc] at hwhole
      refine ⟨hx, _, ?_, hwhole⟩
      rw [surplus_operands]
      unfold operandSurplus at hoffset ⊢
      omega
  | @inArgument name front back e x parent before after side h ih =>
      obtain ⟨hcall, harguments⟩ := hwell
      have hall := (Expression.everyAll_iff _).mp harguments
      have hfront : ∀ a ∈ front, a.WellFormed d := fun a ha => hall a (List.mem_append_left _ ha)
      have hback : ∀ a ∈ back, a.WellFormed d := fun a ha =>
        hall a (List.mem_append_right _ (List.mem_cons_of_mem _ ha))
      obtain ⟨hx, offset, hoffset, hwithin⟩ :=
        ih (hall e (List.mem_append_right _ List.mem_cons_self))
      have hwhole := hwithin.trans (surrounds_argument hcall.accepted.named hfront hback)
      rw [← String.append_assoc] at hwhole
      refine ⟨hx, _, ?_, hwhole⟩
      rw [Expression.surplus, Expression.surplusAll_eq_sum, List.map_append, List.map_cons,
        List.sum_append, List.sum_cons]
      omega

/-- Parentheses stand around operands that are operators only, and without any single pair of them
the text does not denote the expression, whatever the depth. -/
theorem parentheses_minimal (d : Dialect) (e : Expression) (hwell : e.WellFormed d)
    {before after : String} {parent : ArithmeticOp} {side : Bool} {x : Expression}
    (hoperand : OperandIn d e before parent side x after) :
    (x.needsParentheses parent side = true →
      e.write d = before ++ "(" ++ x.write d ++ ")" ++ after ∧
        ∀ depth e', Expression.parse { d with maxDepth := depth } (before ++ x.write d ++ after) =
          .ok e' → e' ≠ e ∧ e'.same e = false) ∧
      ((∀ op a b, x ≠ .arithmetic op a b) → e.write d = before ++ x.write d ++ after) := by
  have hwrite := hoperand.write_eq
  refine ⟨fun hneeds => ⟨?_, fun depth e' hparse => ?_⟩, fun hroot => ?_⟩
  · rw [hwrite, operandText, hneeds]
    simp only [parenthesisedIf, if_true, parenthesised, String.append_assoc]
  · obtain ⟨hx, offset, hoffset, hsurrounds⟩ := hoperand.surrounds hwell
    obtain ⟨kinds, hkinds, hsum⟩ :=
      hsurrounds (x.write d) (x.kinds d) (spells_expression (named_of_wellFormed hx))
    obtain ⟨found, hfound, hconsumes⟩ := consumes_of_parseExpression hparse
    obtain rfl := hfound.unique (hkinds.lexed.withDepth depth)
    have hasks := (hconsumes.denotes (readsGeometry_surplus _)).surplusAt_le
    have hfewer : e'.surplus < e.surplus := by
      have hleast := e'.surplus_le_surplusAt 1
      rw [surplus_kinds hx] at hsum
      rw [operandSurplus, if_pos hneeds] at hoffset
      omega
    have hdiffers : e'.surplus ≠ e.surplus := ne_of_lt hfewer
    refine ⟨fun heq => hdiffers (congrArg _ heq), ?_⟩
    cases hsame : e'.same e with
    | false => rfl
    | true => exact absurd (Expression.surplus_of_same hsame).2 hdiffers
  · have hbare : x.needsParentheses parent side = false := by
      cases x with
      | arithmetic op a b => exact absurd rfl (hroot op a b)
      | _ => rfl
    rw [hwrite, operandText, hbare]
    rfl

/-- A difference within a difference, which is an operand itself. -/
def scaled : Expression :=
  .arithmetic .multiply
    (.arithmetic .subtract (.property "a") (.arithmetic .subtract (.property "b") (.property "c")))
    (.property "d")

theorem parentheses_minimal_scaled :
    scaled.WellFormed .standard ∧
      OperandIn .standard scaled "(a - " .subtract true
        (.arithmetic .subtract (.property "b") (.property "c")) ") * d" ∧
      scaled.write .standard = "(a - (b - c)) * d" ∧
      ∀ depth e', Expression.parse { Dialect.standard with maxDepth := depth } "(a - b - c) * d" =
        .ok e' → e' ≠ scaled ∧ e'.same scaled = false := by
  have hproperty : ∀ name, (Expression.property name).WellFormed .standard := fun _ =>
    ⟨⟨trivial, .inl rfl, trivial⟩, trivial⟩
  have hnode : ∀ op left right, (Expression.arithmetic op left right).NodeWellFormed .standard :=
    fun _ _ _ => ⟨⟨trivial, trivial, trivial⟩, trivial⟩
  have hwell : scaled.WellFormed .standard :=
    ⟨hnode _ _ _, ⟨hnode _ _ _, hproperty "a", hnode _ _ _, hproperty "b", hproperty "c"⟩,
      hproperty "d"⟩
  have hoperand : OperandIn .standard scaled "(a - " .subtract true
      (.arithmetic .subtract (.property "b") (.property "c")) ") * d" := by
    unfold scaled
    have hwithin := @OperandIn.inLeft .standard .multiply _ _ (.property "d") _ _ _ _
      (@OperandIn.right .standard .subtract (.property "a")
        (.arithmetic .subtract (.property "b") (.property "c")))
    convert hwithin using 1
    · decide +kernel
    · decide +kernel
  have hinner : (Expression.arithmetic .subtract (.property "b") (.property "c")).write .standard =
      "b - c" := by decide +kernel
  obtain ⟨hwrite, hdiffers⟩ := (parentheses_minimal .standard scaled hwell hoperand).1 rfl
  rw [hinner] at hwrite hdiffers
  have htext : "(a - " ++ "b - c" ++ ") * d" = "(a - b - c) * d" := by decide
  rw [htext] at hdiffers
  exact ⟨hwell, hoperand, hwrite.trans (by decide), hdiffers⟩

end Operands

end GeoFilter
