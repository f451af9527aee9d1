import GeoFilter.Filter

/-!
Properties of every node of a tree. A property of single expressions or filters is
carried to all expressions and filters that a tree is made of, at any depth.
-/

namespace GeoFilter

namespace Expression

mutual

/-- Every expression in the tree has the property, the tree itself included. -/
def Every (P : Expression → Prop) : Expression → Prop
  | .literal value => P (.literal value)
  | .property name => P (.property name)
  | .arithmetic op left right => P (.arithmetic op left right) ∧ Every P left ∧ Every P right
  | .call name arguments => P (.call name arguments) ∧ EveryAll P arguments

def EveryAll (P : Expression → Prop) : List Expression → Prop
  | [] => True
  | first :: others => Every P first ∧ EveryAll P others

end

section Every

variable {P Q : Expression → Prop}

theorem everyAll_iff (expressions : List Expression) :
    EveryAll P expressions ↔ ∀ e ∈ expressions, e.Every P := by
  induction expressions with
  | nil => simp [EveryAll]
  | cons first others ih => simp [EveryAll, ih]

/-- The tree itself is one of its nodes. -/
theorem Every.root {e : Expression} (h : e.Every P) : P e := by
  cases e with
  | literal value => exact h
  | property name => exact h
  | arithmetic op left right => exact h.1
  | call name arguments => exact h.1

mutual

theorem Every.imp (himp : ∀ e, P e → Q e) : ∀ {e : Expression}, e.Every P → e.Every Q
  | .literal value, h => himp (.literal value) h
  | .property name, h => himp (.property name) h
  | .arithmetic _ _ _, ⟨h, hleft, hright⟩ => ⟨himp _ h, hleft.imp himp, hright.imp himp⟩
  | .call _ _, ⟨h, harguments⟩ => ⟨himp _ h, EveryAll.imp himp harguments⟩

theorem EveryAll.imp (himp : ∀ e, P e → Q e) :
    ∀ {expressions : List Expression}, EveryAll P expressions → EveryAll Q expressions
  | [], _ => trivial
  | _ :: _, ⟨hfirst, hothers⟩ => ⟨hfirst.imp himp, EveryAll.imp himp hothers⟩

end

mutual

theorem Every.and : ∀ {e : Expression}, e.Every P → e.Every Q → e.Every fun node => P node ∧ Q node
  | .literal _, h, h' => ⟨h, h'⟩
  | .property _, h, h' => ⟨h, h'⟩
  | .arithmetic _ _ _, ⟨h, hleft, hright⟩, ⟨h', hleft', hright'⟩ =>
      ⟨⟨h, h'⟩, hleft.and hleft', hright.and hright'⟩
  | .call _ _, ⟨h, harguments⟩, ⟨h', harguments'⟩ => ⟨⟨h, h'⟩, EveryAll.and harguments harguments'⟩

theorem EveryAll.and : ∀ {expressions : List Expression}, EveryAll P expressions →
    EveryAll Q expressions → EveryAll (fun node => P node ∧ Q node) expressions
  | [], _, _ => trivial
  | _ :: _, ⟨hfirst, hothers⟩, ⟨hfirst', hothers'⟩ =>
      ⟨hfirst.and hfirst', EveryAll.and hothers hothers'⟩

end

end Every

end Expression

/-- The expressions that a spatial predicate is applied to. -/
def SpatialPredicate.operands : SpatialPredicate → List Expression
  | .binary _ left right => [left, right]
  | .distance _ left right _ _ => [left, right]
  | .box operand _ _ => [operand]
  | .pattern left right _ => [left, right]

namespace Filter

/-- The expressions that a filter is directly made of. -/
def expressions : Filter → List Expression
  | .comparison _ left right => [left, right]
  | .like test => [test.operand]
  | .between operand lower upper => [operand, lower, upper]
  | .isNull operand => [operand]
  | .oneOf operand values => operand :: values
  | .spatial predicate => predicate.operands
  | _ => []

mutual

/-- Every filter in the tree has the property `F`, the tree itself included, and every
expression in it the property `P`. -/
def Every (P : Expression → Prop) (F : Filter → Prop) : Filter → Prop
  | .logical op first second others =>
      F (.logical op first second others) ∧ Every P F first ∧ Every P F second ∧
        EveryAll P F others
  | .not operand => F (.not operand) ∧ Every P F operand
  | f => F f ∧ ∀ e ∈ f.expressions, e.Every P

def EveryAll (P : Expression → Prop) (F : Filter → Prop) : List Filter → Prop
  | [] => True
  | first :: others => Every P F first ∧ EveryAll P F others

end

section Every

variable {P Q : Expression → Prop} {F G : Filter → Prop}

theorem everyAll_iff (filters : List Filter) :
    EveryAll P F filters ↔ ∀ f ∈ filters, f.Every P F := by
  induction filters with
  | nil => simp [EveryAll]
  | cons first others ih => simp [EveryAll, ih]

mutual

theorem Every.imp (hP : ∀ e, P e → Q e) (hF : ∀ f, F f → G f) {f : Filter}
    (h : f.Every P F) : f.Every Q G := by
  cases f with
  | logical op first second others =>
      obtain ⟨hnode, hfirst, hsecond, hothers⟩ := h
      exact ⟨hF _ hnode, hfirst.imp hP hF, hsecond.imp hP hF, EveryAll.imp hP hF hothers⟩
  | not operand => exact ⟨hF _ h.1, h.2.imp hP hF⟩
  | _ => exact ⟨hF _ h.1, fun e hmem => (h.2 e hmem).imp hP⟩

theorem EveryAll.imp (hP : ∀ e, P e → Q e) (hF : ∀ f, F f → G f) :
    ∀ {filters : List Filter}, EveryAll P F filters → EveryAll Q G filters
  | [], _ => trivial
  | _ :: _, ⟨hfirst, hothers⟩ => ⟨hfirst.imp hP hF, EveryAll.imp hP hF hothers⟩

end

mutual

theorem Every.and {f : Filter} (h : f.Every P F) (h' : f.Every Q G) :
    f.Every (fun node => P node ∧ Q node) fun node => F node ∧ G node := by
  cases f with
  | logical op first second others =>
      obtain ⟨hnode, hfirst, hsecond, hothers⟩ := h
      obtain ⟨hnode', hfirst', hsecond', hothers'⟩ := h'
      exact ⟨⟨hnode, hnode'⟩, hfirst.and hfirst', hsecond.and hsecond', EveryAll.and hothers hothers'⟩
  | not operand => exact ⟨⟨h.1, h'.1⟩, h.2.and h'.2⟩
  | _ => exact ⟨⟨h.1, h'.1⟩, fun e hmem => (h.2 e hmem).and (h'.2 e hmem)⟩

theorem EveryAll.and : ∀ {filters : List Filter}, EveryAll P F filters → EveryAll Q G filters →
    EveryAll (fun node => P node ∧ Q node) (fun node => F node ∧ G node) filters
  | [], _, _ => trivial
  | _ :: _, ⟨hfirst, hothers⟩, ⟨hfirst', hothers'⟩ =>
      ⟨hfirst.and hfirst', EveryAll.and hothers hothers'⟩

end

end Every

end Filter

end GeoFilter
