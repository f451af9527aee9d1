import GeoFilter.Proofs.Grammar.Derivation

/-!
Parentheses counted against numbers. An expression asks for the parentheses that its canonical text
has, less the numbers that it holds, and no tokens that denote it have fewer. Signs make this come
out even: a sign spares the parentheses around the subtraction that it stands for, and the zero.
-/

namespace GeoFilter

open Grammar

variable {d : Dialect} {α : Type}

/-- What a token contributes to the surplus of parentheses over numbers. -/
def TokenKind.surplus : TokenKind → Int
  | .punctuation .openParen => 1
  | .number _ => -1
  | _ => 0

/-- The surplus of opening parentheses over numbers. -/
def surplus (kinds : List TokenKind) : Int :=
  (kinds.map TokenKind.surplus).sum

section Tokens

variable (kinds kinds' : List TokenKind)

@[simp] theorem surplus_nil : surplus [] = 0 := rfl

@[simp] theorem surplus_cons (kind : TokenKind) :
    surplus (kind :: kinds) = kind.surplus + surplus kinds := by
  simp [surplus]

@[simp] theorem surplus_append : surplus (kinds ++ kinds') = surplus kinds + surplus kinds' := by
  simp [surplus]

@[simp] theorem surplus_enclosed : surplus (enclosed kinds) = 1 + surplus kinds := by
  simp [enclosed, TokenKind.surplus]

theorem surplus_enclosedIf (condition : Bool) :
    surplus (enclosedIf condition kinds) = (if condition then 1 else 0) + surplus kinds := by
  cases condition <;> simp [enclosedIf]

@[simp] theorem surplus_separated (parts : List (List TokenKind)) :
    surplus (separated parts) = (parts.map surplus).sum := by
  cases parts with
  | nil => rfl
  | cons first others =>
      have hothers : surplus (others.flatMap (.punctuation .comma :: ·)) =
          (others.map surplus).sum := by
        induction others with
        | nil => rfl
        | cons second others ih => simp [ih, TokenKind.surplus]
      simp [separated, hothers]

end Tokens

/-- A number has the same surplus with a sign as without. -/
theorem surplus_signed (negative : Bool) (digits : String) :
    surplus ((if negative then [.operator .minus] else []) ++ [.number digits]) = -1 := by
  cases negative <;> rfl

/-- The numbers of a coordinate. -/
def Coordinate.surplus (c : Coordinate) : Int :=
  if c.z.isSome then -3 else -2

/-- Items between parentheses. -/
def listSurplus (weigh : α → Int) (items : List α) : Int :=
  1 + (items.map weigh).sum

/-- Items between parentheses, which are left out where there are no items. -/
def taggedSurplus (weigh : α → Int) (items : List α) : Int :=
  if items.isEmpty then 0 else listSurplus weigh items

namespace Geometry

mutual

def surplus : Geometry → Int
  | .point position => taggedSurplus Coordinate.surplus position.toList
  | .lineString path => taggedSurplus Coordinate.surplus path
  | .polygon rings => taggedSurplus (listSurplus Coordinate.surplus) rings
  | .multiPoint points => taggedSurplus Coordinate.surplus points
  | .multiLineString paths => taggedSurplus (listSurplus Coordinate.surplus) paths
  | .multiPolygon polygons => taggedSurplus (listSurplus (listSurplus Coordinate.surplus)) polygons
  | .collection members => if members.isEmpty then 0 else 1 + surplusAll members
  | .envelope _ => -3

def surplusAll : List Geometry → Int
  | [] => 0
  | first :: others => surplus first + surplusAll others

end

theorem surplusAll_eq_sum (members : List Geometry) :
    surplusAll members = (members.map surplus).sum := by
  induction members with
  | nil => rfl
  | cons first others ih => rw [surplusAll, ih, List.map_cons, List.sum_cons]

theorem surplus_collection (members : List Geometry) :
    (Geometry.collection members).surplus = taggedSurplus surplus members := by
  rw [surplus, surplusAll_eq_sum]
  rfl

end Geometry

namespace Expression

mutual

def surplus : Expression → Int
  | .literal (.integer _) => -1
  | .literal (.float _) => -1
  | .literal (.geometry value) => value.surplus
  | .literal _ => 0
  | .property _ => 0
  | .arithmetic op left right =>
      ((if left.binding < op.precedence then 1 else 0) + surplus left) +
        ((if right.binding < op.precedence + 1 then 1 else 0) + surplus right)
  | .call _ arguments => 1 + surplusAll arguments

def surplusAll : List Expression → Int
  | [] => 0
  | first :: others => surplus first + surplusAll others

end

/-- The surplus of an expression in a place where it has to bind at least so tightly. -/
def surplusAt (floor : Nat) (e : Expression) : Int :=
  (if e.binding < floor then 1 else 0) + e.surplus

theorem surplusAll_eq_sum (expressions : List Expression) :
    surplusAll expressions = (expressions.map surplus).sum := by
  induction expressions with
  | nil => rfl
  | cons first others ih => rw [surplusAll, ih, List.map_cons, List.sum_cons]

theorem surplus_arithmetic (op : ArithmeticOp) (left right : Expression) :
    (Expression.arithmetic op left right).surplus =
      left.surplusAt op.precedence + right.surplusAt (op.precedence + 1) := by
  rw [surplus, surplusAt, surplusAt]

theorem surplusAt_mono {floor higher : Nat} (h : floor ≤ higher) (e : Expression) :
    e.surplusAt floor ≤ e.surplusAt higher := by
  unfold surplusAt
  split <;> split <;> omega

theorem surplus_le_surplusAt (floor : Nat) (e : Expression) : e.surplus ≤ e.surplusAt floor := by
  unfold surplusAt
  split <;> omega

theorem surplusAt_le (floor : Nat) (e : Expression) : e.surplusAt floor ≤ 1 + e.surplus := by
  unfold surplusAt
  split <;> omega

end Expression

namespace Grammar

section Geometries

/-- The tokens that a production consumes have no less a surplus than its value. -/
def Weighs (p : Parse α) (weigh : α → Int) : Prop :=
  Derives p fun used value => weigh value ≤ surplus used

variable {inner : Level}

theorem weighs_signedNumber : Derives signedNumber fun used _ => -1 ≤ surplus used := by
  intro rest
  refine Leaves.after_optional (by simp) ?_
  intro negative behind hrest
  apply Leaves.after_mark
  apply Leaves.after_next
  · exact leaves_unexpected
  · intro kind more hbehind
    split
    · rename_i digits
      refine leaves_check.imp ?_
      rintro left value ⟨rfl, -⟩
      refine ⟨(if negative then [.operator .minus] else []) ++ [.number digits], ?_,
        (surplus_signed negative digits).ge⟩
      rw [hrest, hbehind, List.append_assoc]
      rfl
    · exact leaves_unexpected

theorem weighs_coordinate : Weighs coordinate Coordinate.surplus := by
  intro rest
  refine (weighs_signedNumber rest).bind ?_
  rintro middle x ⟨first, rfl, hfirst⟩
  refine (weighs_signedNumber middle).bind ?_
  rintro behind y ⟨second, rfl, hsecond⟩
  apply Leaves.after_peek
  have hthree : Leaves (do let z ← signedNumber; return ⟨x, y, some z⟩) behind fun left value =>
      ∃ used, first ++ (second ++ behind) = used ++ left ∧
        Coordinate.surplus value ≤ surplus used := by
    refine (weighs_signedNumber behind).bind ?_
    rintro left z ⟨third, rfl, hthird⟩
    apply leaves_pure
    refine ⟨first ++ second ++ third, by simp, ?_⟩
    simp only [Coordinate.surplus, Option.isSome_some, if_true, surplus_append]
    omega
  split
  · exact hthree
  · exact hthree
  · apply leaves_pure
    refine ⟨first ++ second, by simp, ?_⟩
    simp only [Coordinate.surplus, Option.isSome_none, Bool.false_eq_true, if_false, surplus_append]
    omega

/-- A list behind its opening parenthesis. -/
theorem weighs_list {item : Parse α} {weigh : α → Int} (h : Weighs item weigh) (opening : Mark) :
    Derives (list opening item) fun used values =>
      values ≠ [] ∧ (values.map weigh).sum ≤ surplus used := by
  intro rest
  refine (leaves_list h rest).imp ?_
  rintro left values ⟨parts, hnonempty, hparts, rfl, rfl⟩
  refine ⟨separated (parts.map Prod.fst) ++ [.punctuation .closeParen], by simp,
    by simpa using hnonempty, ?_⟩
  rw [surplus_append, surplus_separated, List.map_map, List.map_map]
  have hsum : (parts.map (weigh ∘ Prod.snd)).sum ≤ (parts.map (surplus ∘ Prod.fst)).sum :=
    List.sum_le_sum hparts
  simpa [TokenKind.surplus] using hsum

/-- A list between parentheses. -/
theorem weighs_enclosed {item : Parse α} {weigh : α → Int} (h : Weighs item weigh) :
    Weighs (do let opening ← expectPunctuation .openParen; list opening item)
      (listSurplus weigh) := by
  intro rest
  refine Leaves.after_expect (by simp) ?_
  intro more hrest
  refine (weighs_list h rest more).imp ?_
  rintro left values ⟨used, rfl, -, hused⟩
  refine ⟨.punctuation .openParen :: used, hrest, ?_⟩
  simp only [listSurplus, surplus_cons, TokenKind.surplus]
  omega

theorem weighs_multiPointMember : Weighs multiPointMember Coordinate.surplus := by
  intro rest
  apply Leaves.after_mark
  refine Leaves.after_accept (by simp) ?_ fun _ => weighs_coordinate rest
  intro more hrest
  refine (weighs_coordinate more).bind ?_
  rintro middle c ⟨used, rfl, hused⟩
  refine leaves_close.bind ?_
  rintro left _ rfl
  apply leaves_pure
  refine ⟨enclosed used, by simp [hrest, enclosed], ?_⟩
  simp only [surplus_enclosed]
  omega

theorem derives_envelopeBounds (opening : Mark) :
    Derives (envelopeBounds opening) fun used _ => -4 ≤ surplus used := by
  intro rest
  refine (weighs_signedNumber rest).bind ?_
  rintro _ minX ⟨first, rfl, hfirst⟩
  refine Leaves.after_expect (by simp) ?_
  rintro behind rfl
  refine (weighs_signedNumber behind).bind ?_
  rintro _ maxX ⟨second, rfl, hsecond⟩
  refine Leaves.after_expect (by simp) ?_
  rintro behind rfl
  refine (weighs_signedNumber behind).bind ?_
  rintro _ maxY ⟨third, rfl, hthird⟩
  refine Leaves.after_expect (by simp) ?_
  rintro behind rfl
  refine (weighs_signedNumber behind).bind ?_
  rintro _ minY ⟨fourth, rfl, hfourth⟩
  refine leaves_close.bind ?_
  rintro left _ rfl
  apply leaves_pure
  refine ⟨first ++ .punctuation .comma :: (second ++ .punctuation .comma :: (third ++
    .punctuation .comma :: (fourth ++ [.punctuation .closeParen]))), by simp, ?_⟩
  simp only [surplus_append, surplus_cons, surplus_nil, TokenKind.surplus]
  omega

theorem taggedSurplus_of_ne_nil {values : List α} (weigh : α → Int) (hnonempty : values ≠ []) :
    taggedSurplus weigh values = 1 + (values.map weigh).sum := by
  simp [taggedSurplus, hnonempty, listSurplus]

/-- The body of a geometry behind its opening parenthesis. -/
theorem derives_geometryBody (hmember : Weighs (inner .member) Geometry.surplus)
    (here opening : Mark) (type : GeometryType) :
    Derives (geometryBody d inner here opening type) fun used value =>
      value.surplus ≤ 1 + surplus used := by
  have hitems : ∀ {β : Type} {p : Parse (List β)} {weigh : β → Int} (tag : List β → Geometry),
      (∀ values, (tag values).surplus = taggedSurplus weigh values) →
      (Derives p fun used values => values ≠ [] ∧ (values.map weigh).sum ≤ surplus used) →
        Derives (do return tag (← p)) fun used value => value.surplus ≤ 1 + surplus used := by
    intro β p weigh tag htag hp rest
    refine (hp rest).bind ?_
    rintro left values ⟨used, rfl, hnonempty, hused⟩
    apply leaves_pure
    refine ⟨used, rfl, ?_⟩
    have hvalue := (htag values).trans (taggedSurplus_of_ne_nil weigh hnonempty)
    simp only [hvalue]
    omega
  have hpath := weighs_enclosed weighs_coordinate
  cases type with
  | point =>
      intro rest
      refine (weighs_coordinate rest).bind ?_
      rintro _ c ⟨used, rfl, hused⟩
      refine leaves_close.bind ?_
      rintro left _ rfl
      apply leaves_pure
      refine ⟨used ++ [.punctuation .closeParen], by simp, ?_⟩
      simp only [Geometry.surplus, taggedSurplus, Option.toList_some, List.isEmpty_cons,
        listSurplus, Bool.false_eq_true, if_false, List.map_cons, List.map_nil, List.sum_cons,
        List.sum_nil, surplus_append, surplus_cons, surplus_nil, TokenKind.surplus]
      omega
  | lineString => exact hitems .lineString (fun _ => rfl) (weighs_list weighs_coordinate opening)
  | polygon => exact hitems .polygon (fun _ => rfl) (weighs_list hpath opening)
  | multiPoint =>
      exact hitems .multiPoint (fun _ => rfl) (weighs_list weighs_multiPointMember opening)
  | multiLineString => exact hitems .multiLineString (fun _ => rfl) (weighs_list hpath opening)
  | multiPolygon =>
      exact hitems .multiPolygon (fun _ => rfl) (weighs_list (weighs_enclosed hpath) opening)
  | collection =>
      exact hitems .collection Geometry.surplus_collection fun rest =>
        leaves_nested (weighs_list hmember opening rest)
  | envelope =>
      intro rest
      refine (derives_envelopeBounds opening rest).bind ?_
      rintro left bounds ⟨used, rfl, hused⟩
      apply leaves_pure
      refine ⟨used, rfl, ?_⟩
      simp only [Geometry.surplus]
      omega

theorem surplus_of_empty? {type : GeometryType} {value : Geometry}
    (h : Geometry.empty? type = some value) : value.surplus = 0 := by
  cases type <;> simp only [Geometry.empty?, Option.some.injEq, reduceCtorEq] at h <;>
    subst h <;> rfl

/-- A geometry is written with no less a surplus than it has. -/
theorem readsGeometry_surplus (d : Dialect) :
    ReadsGeometry d fun used value => value.surplus ≤ surplus used := by
  intro inner hmember here type rest
  refine Leaves.after_accept (by simp) ?_ ?_
  · intro more hrest
    rw [if_pos rfl]
    split
    · rename_i value hvalue
      apply leaves_pure
      refine ⟨[.keyword .empty], hrest, ?_⟩
      simp [surplus_of_empty? hvalue, TokenKind.surplus]
    · exact leaves_fail
  · intro _
    refine Leaves.after_expect (by simp) ?_
    intro more hrest
    refine (derives_geometryBody hmember here rest type more).bind ?_
    rintro middle value ⟨used, rfl, hused⟩
    refine leaves_checkNone.bind ?_
    rintro _ _ rfl
    apply leaves_pure
    refine ⟨.punctuation .openParen :: used, hrest, ?_⟩
    simpa [TokenKind.surplus] using hused

end Geometries

section Expressions

variable {floor : Nat} {kinds : List TokenKind} {e : Expression}

theorem surplus_of_constant? {kind : TokenKind} {value : Literal}
    (h : constant? kind = some value) :
    kind.surplus = 0 ∧ (Expression.literal value).surplus = 0 := by
  unfold constant? at h
  split at h <;> cases h <;> exact ⟨rfl, rfl⟩

theorem surplus_of_nameOf? {kind : TokenKind} {name : String} (h : nameOf? kind = some name) :
    kind.surplus = 0 := by
  unfold nameOf? at h
  split at h <;> first | rfl | cases h

theorem surplus_dotted {segments : List (TokenKind × String)}
    (h : ∀ segment ∈ segments, nameOf? segment.1 = some segment.2) :
    surplus (dotted segments) = 0 := by
  induction segments with
  | nil => rfl
  | cons segment segments ih =>
      obtain ⟨hsegment, hsegments⟩ := List.forall_mem_cons.mp h
      have hrest := ih hsegments
      simp only [dotted, List.flatMap_cons, List.cons_append, List.nil_append,
        surplus_cons] at hrest ⊢
      rw [hrest, surplus_of_nameOf? hsegment]
      rfl

/-- Only operators let go, so that anything else needs no parentheses. -/
theorem surplusAt_of_binding (h : floor ≤ e.binding) : e.surplusAt floor = e.surplus := by
  have hbinds : ¬e.binding < floor := Nat.not_lt.mpr h
  simp [Expression.surplusAt, hbinds]

/-- No tokens that denote an expression have a smaller surplus than it asks for. -/
theorem Denotes.surplusAt_le
    (h : Denotes (fun used value => value.surplus ≤ surplus used) floor kinds e) :
    e.surplusAt floor ≤ surplus kinds := by
  induction h with
  | @number negative digits value hvalue =>
      rw [surplus_signed, @surplusAt_of_binding 3 (.literal value) le_rfl]
      rcases Check.numberLiteral_cases hvalue with ⟨x, rfl⟩ | ⟨n, rfl⟩ <;> exact le_rfl
  | @constant kind value hvalue =>
      obtain ⟨hkind, hliteral⟩ := surplus_of_constant? hvalue
      rw [@surplusAt_of_binding 3 (.literal value) le_rfl, hliteral, surplus_cons, hkind]
      exact le_rfl
  | @geometry kinds value hvalue =>
      rw [@surplusAt_of_binding 3 (.literal (.geometry value)) le_rfl]
      exact hvalue
  | @property first others hnames =>
      obtain ⟨hfirst, hothers⟩ := List.forall_mem_cons.mp hnames
      rw [@surplusAt_of_binding 3 (.property _) le_rfl, surplus_cons, surplus_of_nameOf? hfirst,
        surplus_dotted hothers]
      exact le_rfl
  | @call name parts hparts ih =>
      have hparts : (parts.map (Expression.surplus ∘ Prod.snd)).sum ≤
          (parts.map (surplus ∘ Prod.fst)).sum :=
        List.sum_le_sum fun part hpart =>
          (Expression.surplus_le_surplusAt 1 part.2).trans (ih part hpart)
      rw [@surplusAt_of_binding 3 (.call name _) le_rfl, Expression.surplus,
        Expression.surplusAll_eq_sum, surplus_cons, surplus_enclosed, surplus_separated,
        List.map_map, List.map_map]
      simpa [TokenKind.surplus] using hparts
  | @group kinds e h ih =>
      have hinner := (e.surplus_le_surplusAt 1).trans ih
      have houter := e.surplusAt_le 3
      rw [surplus_enclosed]
      omega
  | @signed kinds e h ih =>
      -- The zero is a number that the sign spares, and so are the parentheses around.
      have hright := (e.surplusAt_mono (Nat.le_succ 2)).trans ih
      have hzero : (Expression.integer 0).surplusAt 1 = -1 := rfl
      have hsubtraction : (Expression.arithmetic .subtract (.integer 0) e).surplus =
          (Expression.integer 0).surplusAt 1 + e.surplusAt 2 :=
        Expression.surplus_arithmetic .subtract (.integer 0) e
      have houter := (Expression.arithmetic .subtract (.integer 0) e).surplusAt_le 3
      simp only [surplus_cons, TokenKind.surplus]
      omega
  | @operator op left right a b hleft hright ihleft ihright =>
      rw [@surplusAt_of_binding op.precedence (.arithmetic op a b) le_rfl,
        Expression.surplus_arithmetic]
      simp only [surplus_append, surplus_cons, TokenKind.surplus]
      omega
  | @loose floor kinds e h ih => exact (e.surplusAt_mono (Nat.le_succ floor)).trans ih

end Expressions

end Grammar

end GeoFilter
