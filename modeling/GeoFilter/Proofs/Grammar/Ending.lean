import GeoFilter.Proofs.Grammar.Course
import GeoFilter.Proofs.Grammar.Sufficient

/-!
Productions in front of the end of input. Whatever stands behind an end of input, a production
does the same in front of it as on tokens that are over there: it succeeds with the same value and
leaves as much, or it fails with the same fault at the same token.
-/

namespace GeoFilter.Grammar

variable {d : Dialect} {tail rest : List TokenKind} {α β : Type}

/-- What becomes of a result if more tokens stand behind the last. -/
def extended (tail : List TokenKind) :
    Except Failure (α × Cursor) → Except Failure (α × Cursor)
  | .ok (value, later) => .ok (value, { later with rest := later.rest ++ tail })
  | .error failure => .error { failure with place := failure.place ++ tail }

/-- What a production has left is no more than it was given. -/
def Shrinks (rest : List TokenKind) : Except Failure (α × Cursor) → Prop
  | .ok (_, later) => later.rest.length ≤ rest.length
  | .error _ => True

/-- On the rest of some tokens one production does what the other does with a tail behind them. -/
def Alike (tail rest : List TokenKind) (p p' : Parse α) : Prop :=
  ∀ gauge, p' ⟨rest ++ tail, gauge⟩ = extended tail (p ⟨rest, gauge⟩) ∧
    Shrinks rest (p ⟨rest, gauge⟩)

/-- A production to which it makes no difference whether a tail stands behind the tokens. -/
def Ignores (tail : List TokenKind) (p : Parse α) : Prop :=
  ∀ rest, Alike tail rest p p

/-- The tail begins with an end of input, unless it is empty. -/
def Ended (tail : List TokenKind) : Prop :=
  tail.headD .endOfInput = .endOfInput

section Combinators

variable {p p' : Parse α}

theorem Alike.bind {q q' : α → Parse β} (hp : Alike tail rest p p')
    (hq : ∀ value more, more.length ≤ rest.length → Alike tail more (q value) (q' value)) :
    Alike tail rest (p >>= q) (p' >>= q') := by
  intro gauge
  obtain ⟨heq, hshrinks⟩ := hp gauge
  change (p' ⟨rest ++ tail, gauge⟩ >>= fun found => q' found.1 found.2) =
      extended tail (p ⟨rest, gauge⟩ >>= fun found => q found.1 found.2) ∧
    Shrinks rest (p ⟨rest, gauge⟩ >>= fun found => q found.1 found.2)
  rw [heq]
  cases hresult : p ⟨rest, gauge⟩ with
  | error failure => exact ⟨rfl, trivial⟩
  | ok found =>
      obtain ⟨value, more, middle⟩ := found
      rw [hresult] at hshrinks
      obtain ⟨hsame, hmore⟩ := hq value more hshrinks middle
      refine ⟨hsame, ?_⟩
      change Shrinks rest (q value ⟨more, middle⟩)
      cases hlater : q value ⟨more, middle⟩ with
      | error failure => trivial
      | ok found =>
          rw [hlater] at hmore
          exact Nat.le_trans hmore hshrinks

theorem Ignores.bind {q : α → Parse β} (hp : Ignores tail p)
    (hq : ∀ value, Ignores tail (q value)) : Ignores tail (p >>= q) :=
  fun rest => (hp rest).bind fun value more _ => hq value more

theorem alike_pure (value : α) : Alike tail rest (pure value) (pure value) :=
  fun _ => ⟨rfl, Nat.le_refl _⟩

theorem ignores_pure (value : α) : Ignores tail (pure value) :=
  fun _ => alike_pure value

theorem alike_fail (fault : Fault) (place : Mark) :
    Alike tail rest (fail fault place : Parse α) (fail fault (place ++ tail)) :=
  fun _ => ⟨rfl, trivial⟩

theorem alike_unexpected (found : TokenKind) (expected : Expectation) (place : Mark) :
    Alike tail rest (unexpected found expected place : Parse α)
      (unexpected found expected (place ++ tail)) :=
  alike_fail _ _

theorem alike_check (checked : Except Fault α) (place : Mark) :
    Alike tail rest (check place checked) (check (place ++ tail) checked) := by
  cases checked with
  | ok value => exact alike_pure value
  | error fault => exact alike_fail fault place

theorem alike_checkNone (checked : Option Fault) (place : Mark) :
    Alike tail rest (checkNone place checked) (checkNone (place ++ tail) checked) := by
  cases checked with
  | none => exact alike_pure ()
  | some fault => exact alike_fail fault place

/-- The place of a token has the tail behind it too. -/
theorem Alike.after_mark {q q' : Mark → Parse β}
    (h : Alike tail rest (q rest) (q' (rest ++ tail))) :
    Alike tail rest (mark >>= q) (mark >>= q') :=
  h

/-- With the tail there are more tokens left. -/
theorem Alike.after_tokensLeft {q q' : Nat → Parse β}
    (h : ∀ count, rest.length ≤ count → Alike tail rest (q rest.length) (q' count)) :
    Alike tail rest (tokensLeft >>= q) (tokensLeft >>= q') :=
  h (rest ++ tail).length (by simp)

/-- A token that is there for certain. -/
theorem Alike.after_next_cons {q q' : TokenKind → Parse β} {kind : TokenKind}
    (h : Alike tail rest (q kind) (q' kind)) :
    Alike tail (kind :: rest) (next >>= q) (next >>= q') := by
  intro gauge
  obtain ⟨hsame, hshrinks⟩ := h gauge
  refine ⟨hsame, ?_⟩
  change Shrinks (kind :: rest) (q kind ⟨rest, gauge⟩)
  cases hresult : q kind ⟨rest, gauge⟩ with
  | error failure => trivial
  | ok found =>
      rw [hresult] at hshrinks
      exact Nat.le_succ_of_le hshrinks

theorem alike_enter (depth : Depth) (place : Mark) :
    Alike tail rest (enter d depth place) (enter d depth (place ++ tail)) := by
  intro gauge
  unfold enter
  split
  · exact ⟨rfl, Nat.le_refl _⟩
  · exact ⟨rfl, trivial⟩

theorem alike_leave : Alike tail rest leave leave :=
  fun _ => ⟨rfl, Nat.le_refl _⟩

theorem alike_nested (h : ∀ more, more.length ≤ rest.length → Alike tail more p p')
    (depth : Depth) (place : Mark) :
    Alike tail rest (nested d depth place p) (nested d depth (place ++ tail) p') := by
  apply (alike_enter depth place).bind
  intro _ more hmore
  apply (h more hmore).bind
  intro value further _
  apply alike_leave.bind
  intro _ _ _
  exact alike_pure value

end Combinators

section Ended

variable {p p' : Parse α} (htail : Ended tail)
include htail

/-- The next token is the same, since the tail begins with the end of input. -/
theorem headD_append_ended (rest : List TokenKind) :
    (rest ++ tail).headD .endOfInput = rest.headD .endOfInput := by
  cases rest with
  | nil => exact htail
  | cons kind more => rfl

theorem Alike.after_peek {q q' : TokenKind → Parse β}
    (h : Alike tail rest (q (rest.headD .endOfInput)) (q' (rest.headD .endOfInput))) :
    Alike tail rest (peek >>= q) (peek >>= q') := by
  intro gauge
  change q' ((rest ++ tail).headD .endOfInput) ⟨rest ++ tail, gauge⟩ = _ ∧ _
  rw [headD_append_ended htail]
  exact h gauge

/-- A production that consumes the next token stops short at the end of input. -/
theorem Alike.after_next {q q' : TokenKind → Parse β} {fault : Fault} {place : Mark}
    (hq : q .endOfInput = fail fault place) (hq' : q' .endOfInput = fail fault (place ++ tail))
    (h : ∀ kind more, rest = kind :: more → Alike tail more (q kind) (q' kind)) :
    Alike tail rest (next >>= q) (next >>= q') := by
  cases rest with
  | nil =>
      intro gauge
      change q' (tail.headD .endOfInput) ⟨tail.tail, gauge⟩ =
        extended tail (q .endOfInput ⟨[], gauge⟩) ∧ Shrinks [] (q .endOfInput ⟨[], gauge⟩)
      rw [htail, hq, hq']
      exact ⟨rfl, trivial⟩
  | cons kind more => exact (h kind more rfl).after_next_cons

/-- A production that is content with the end of input wherever it stands. -/
theorem alike_ended {value : α}
    (hp : ∀ tokens gauge, Ended tokens → p ⟨tokens, gauge⟩ = .ok (value, ⟨tokens, gauge⟩))
    (hp' : ∀ tokens gauge, Ended tokens → p' ⟨tokens, gauge⟩ = .ok (value, ⟨tokens, gauge⟩)) :
    Alike tail [] p p' := by
  intro gauge
  rw [hp [] gauge rfl, List.nil_append, hp' tail gauge htail]
  exact ⟨rfl, Nat.le_refl _⟩

end Ended

theorem mark_eq (tokens : List TokenKind) (gauge : Gauge) :
    mark ⟨tokens, gauge⟩ = .ok (tokens, ⟨tokens, gauge⟩) :=
  rfl

section Over

variable {tokens : List TokenKind} (h : Ended tokens) (gauge : Gauge)
include h

theorem peek_ended : peek ⟨tokens, gauge⟩ = .ok (.endOfInput, ⟨tokens, gauge⟩) :=
  congrArg (fun kind => Except.ok (kind, Cursor.mk tokens gauge)) h

theorem next_ended : next ⟨tokens, gauge⟩ = .ok (.endOfInput, ⟨tokens.tail, gauge⟩) :=
  congrArg (fun kind => Except.ok (kind, Cursor.mk tokens.tail gauge)) h

theorem accept_ended {kind : TokenKind} (hkind : kind ≠ .endOfInput) :
    accept kind ⟨tokens, gauge⟩ = .ok (false, ⟨tokens, gauge⟩) := by
  unfold accept
  rw [bind_eq (peek_ended h gauge), if_neg hkind.symm]
  rfl

theorem listRest_ended (opening : Mark) (item : Parse α) (count : Nat) :
    listRest opening item count ⟨tokens, gauge⟩ = .error ⟨.unclosed, opening, gauge⟩ := by
  cases count with
  | zero => rfl
  | succ count =>
      unfold listRest
      rw [bind_eq (mark_eq tokens gauge), bind_eq (next_ended h gauge)]
      rfl

theorem pathSegments_ended (count : Nat) :
    pathSegments count ⟨tokens, gauge⟩ = .ok ([], ⟨tokens, gauge⟩) := by
  cases count with
  | zero => rfl
  | succ count => exact bind_eq (accept_ended h gauge (by simp))

theorem operandsRest_ended (op : LogicalOp) (operand : Parse Parsed) (count : Nat) :
    operandsRest op operand count ⟨tokens, gauge⟩ = .ok ([], ⟨tokens, gauge⟩) := by
  cases count with
  | zero => rfl
  | succ count => exact bind_eq (accept_ended h gauge (by simp))

theorem chainRest_ended {operator? : TokenKind → Option ArithmeticOp}
    (hoperator : operator? .endOfInput = none) (operand : Parse Parsed) (start : Mark)
    (count : Nat) (left : Parsed) :
    chainRest d operator? operand start count left ⟨tokens, gauge⟩ =
      .ok (left, ⟨tokens, gauge⟩) := by
  cases count with
  | zero => rfl
  | succ count =>
      unfold chainRest
      rw [bind_eq (peek_ended h gauge), hoperator]
      rfl

theorem finish_ended : finish ⟨tokens, gauge⟩ = .ok ((), ⟨tokens.tail, gauge⟩) := by
  unfold finish
  rw [bind_eq (mark_eq tokens gauge), bind_eq (next_ended h gauge)]
  rfl

end Over

/-- Two readings that are each given a number no less than that of the tokens, and go on with fewer
tokens and the next lower numbers. -/
@[elab_as_elim]
theorem counts_induction {motive : List TokenKind → Nat → Nat → Prop}
    (hnil : ∀ count count', motive [] count count')
    (hcons : ∀ kind more count count',
      (∀ later, later.length ≤ more.length → motive later count count') →
        motive (kind :: more) (count + 1) (count' + 1))
    {count count' : Nat} (hcount : rest.length ≤ count) (hcount' : rest.length ≤ count') :
    motive rest count count' := by
  induction count generalizing rest count' with
  | zero =>
      obtain rfl := List.eq_nil_of_length_eq_zero (Nat.le_zero.mp hcount)
      exact hnil 0 count'
  | succ count ih =>
      cases rest with
      | nil => exact hnil _ count'
      | cons kind more =>
          cases count' with
          | zero => cases hcount'
          | succ count' =>
              apply hcons
              intro later hlater
              exact ih (hlater.trans (Nat.le_of_succ_le_succ hcount))
                (hlater.trans (Nat.le_of_succ_le_succ hcount'))

section Tokens

variable (htail : Ended tail)
include htail

theorem Alike.after_accept {kind : TokenKind} {q q' : Bool → Parse β} (hkind : kind ≠ .endOfInput)
    (htrue : ∀ more, more.length < rest.length → Alike tail more (q true) (q' true))
    (hfalse : Alike tail rest (q false) (q' false)) :
    Alike tail rest (accept kind >>= q) (accept kind >>= q') := by
  unfold accept
  rw [bind_assoc, bind_assoc]
  apply Alike.after_peek htail
  by_cases hfound : rest.headD .endOfInput = kind
  · rw [if_pos hfound]
    obtain ⟨more, rfl⟩ := exists_of_headD hkind hfound
    simp only [bind_assoc, pure_bind]
    exact Alike.after_next_cons (htrue more (Nat.lt_succ_self _))
  · rw [if_neg hfound]
    exact hfalse

theorem ignores_accept {kind : TokenKind} (hkind : kind ≠ .endOfInput) :
    Ignores tail (accept kind) := by
  intro rest
  rw [← bind_pure (accept kind)]
  exact Alike.after_accept htail hkind (fun _ _ => alike_pure true) (alike_pure false)

theorem Alike.after_expect {kind : TokenKind} {expected : Expectation} {q q' : Mark → Parse β}
    (hkind : kind ≠ .endOfInput)
    (h : ∀ here more, more.length ≤ rest.length → Alike tail more (q here) (q' (here ++ tail))) :
    Alike tail rest (expect kind expected >>= q) (expect kind expected >>= q') := by
  unfold expect
  simp only [bind_assoc]
  have hend : ∀ (here : Mark) (r : Mark → Parse β),
      ((if TokenKind.endOfInput = kind then pure here
        else unexpected .endOfInput expected here : Parse Mark) >>= r) =
        fail (.unexpected .endOfInput expected) here := by
    intro here r
    rw [if_neg hkind.symm]
    rfl
  apply Alike.after_mark
  apply Alike.after_next htail (hend _ _) (hend _ _)
  rintro found more rfl
  by_cases hfound : found = kind
  · rw [if_pos hfound, if_pos hfound]
    exact h _ more (Nat.le_succ _)
  · rw [if_neg hfound, if_neg hfound]
    exact alike_fail _ _

theorem ignores_expect {kind : TokenKind} (hkind : kind ≠ .endOfInput) (expected : Expectation)
    {q : Parse β} (hq : Ignores tail q) : Ignores tail (expect kind expected >>= fun _ => q) :=
  fun _ => Alike.after_expect htail hkind fun _ more _ => hq more

theorem alike_close (opening : Mark) :
    Alike tail rest (close opening) (close (opening ++ tail)) := by
  apply Alike.after_mark
  apply Alike.after_next htail rfl rfl
  rintro kind more rfl
  cases kind with
  | punctuation symbol =>
      cases symbol with
      | closeParen => exact alike_pure ()
      | _ => exact alike_unexpected _ _ _
  | endOfInput => exact alike_fail _ _
  | _ => exact alike_unexpected _ _ _

theorem alike_listRest {item : Parse α} (hitem : Ignores tail item) (opening : Mark)
    {count count' : Nat} (hcount : rest.length ≤ count) (hcount' : rest.length ≤ count') :
    Alike tail rest (listRest opening item count) (listRest (opening ++ tail) item count') := by
  refine counts_induction ?_ ?_ hcount hcount'
  · intro count count' gauge
    have hover : Ended [] := rfl
    rw [listRest_ended hover gauge opening item count, List.nil_append,
      listRest_ended htail gauge (opening ++ tail) item count']
    exact ⟨rfl, trivial⟩
  · intro kind more count count' ih
    apply Alike.after_mark
    apply Alike.after_next_cons
    cases kind with
    | punctuation symbol =>
        cases symbol with
        | comma =>
            apply (hitem more).bind
            intro value later hlater
            exact (ih later hlater).bind fun _ _ _ => alike_pure _
        | closeParen => exact alike_pure _
        | _ => exact alike_unexpected _ _ _
    | endOfInput => exact alike_fail _ _
    | _ => exact alike_unexpected _ _ _

theorem alike_list {item : Parse α} (hitem : Ignores tail item) (opening : Mark) :
    Alike tail rest (list opening item) (list (opening ++ tail) item) := by
  apply (hitem rest).bind
  intro first more _
  apply Alike.after_tokensLeft
  intro count hcount
  apply (alike_listRest htail hitem opening (Nat.le_refl _) hcount).bind
  intro values _ _
  exact alike_pure _

end Tokens

section Geometries

variable (htail : Ended tail)
include htail

theorem ignores_signedNumber : Ignores tail signedNumber := by
  apply (ignores_accept htail (by simp)).bind
  intro negative rest
  apply Alike.after_mark
  apply Alike.after_next htail rfl rfl
  rintro kind more rfl
  cases kind with
  | number digits => exact alike_check _ _
  | _ => exact alike_unexpected _ _ _

theorem ignores_coordinate : Ignores tail coordinate := by
  apply (ignores_signedNumber htail).bind
  intro x
  apply (ignores_signedNumber htail).bind
  intro y rest
  apply Alike.after_peek htail
  have hthird : Ignores tail (do let z ← signedNumber; return (⟨x, y, some z⟩ : Coordinate)) :=
    (ignores_signedNumber htail).bind fun z => ignores_pure _
  split
  · exact hthird rest
  · exact hthird rest
  · exact alike_pure _

theorem ignores_path : Ignores tail path :=
  fun _ => Alike.after_expect htail (by simp) fun opening _ _ =>
    alike_list htail (ignores_coordinate htail) opening

theorem ignores_rings : Ignores tail rings :=
  fun _ => Alike.after_expect htail (by simp) fun opening _ _ =>
    alike_list htail (ignores_path htail) opening

theorem ignores_multiPointMember : Ignores tail multiPointMember := by
  intro rest
  apply Alike.after_mark
  apply (ignores_accept htail (by simp) rest).bind
  intro opened more _
  split
  · apply (ignores_coordinate htail more).bind
    intro c further _
    exact (alike_close htail rest).bind fun _ _ _ => alike_pure c
  · exact ignores_coordinate htail more

theorem alike_envelopeBounds (opening : Mark) :
    Alike tail rest (envelopeBounds opening) (envelopeBounds (opening ++ tail)) := by
  apply (ignores_signedNumber htail rest).bind
  intro minX _ _
  apply Alike.after_expect htail (by simp)
  intro _ more _
  apply (ignores_signedNumber htail more).bind
  intro maxX _ _
  apply Alike.after_expect htail (by simp)
  intro _ more _
  apply (ignores_signedNumber htail more).bind
  intro maxY _ _
  apply Alike.after_expect htail (by simp)
  intro _ more _
  apply (ignores_signedNumber htail more).bind
  intro minY _ _
  exact (alike_close htail opening).bind fun _ _ _ => alike_pure _

variable {inner : Level}

/-- A tail makes no difference to the productions of a level. -/
def Level.Ignores (tail : List TokenKind) (inner : Level) : Prop :=
  ∀ production, Grammar.Ignores tail (inner production)

theorem alike_geometryBody (hinner : inner.Ignores tail) (here opening : Mark)
    (type : GeometryType) :
    Alike tail rest (geometryBody d inner here opening type)
      (geometryBody d inner (here ++ tail) (opening ++ tail) type) := by
  have hlist : ∀ {α : Type} {item : Parse α} {rest : List TokenKind} (wrap : List α → Geometry),
      Ignores tail item → Alike tail rest (do return wrap (← list opening item))
        (do return wrap (← list (opening ++ tail) item)) :=
    fun wrap hitem => (alike_list htail hitem opening).bind fun _ _ _ => alike_pure _
  cases type with
  | point =>
      apply (ignores_coordinate htail rest).bind
      intro c _ _
      exact (alike_close htail opening).bind fun _ _ _ => alike_pure _
  | lineString => exact hlist _ (ignores_coordinate htail)
  | polygon => exact hlist _ (ignores_path htail)
  | multiPoint => exact hlist _ (ignores_multiPointMember htail)
  | multiLineString => exact hlist _ (ignores_path htail)
  | multiPolygon => exact hlist _ (ignores_rings htail)
  | collection =>
      refine Alike.bind (alike_nested (fun _ _ => ?_) .nesting here) fun _ _ _ => alike_pure _
      exact alike_list htail (hinner .member) opening
  | envelope => exact (alike_envelopeBounds htail opening).bind fun _ _ _ => alike_pure _

theorem alike_geometry (hinner : inner.Ignores tail) (here : Mark) (type : GeometryType) :
    Alike tail rest (geometry d inner here type) (geometry d inner (here ++ tail) type) := by
  apply (ignores_accept htail (by simp) rest).bind
  intro empty more _
  cases empty with
  | true =>
      simp only [if_true]
      cases Geometry.empty? type with
      | some value => exact alike_pure value
      | none => exact alike_fail _ here
  | false =>
      simp only [Bool.false_eq_true, if_false]
      apply Alike.after_expect htail (by simp)
      intro opening _ _
      apply (alike_geometryBody htail hinner here opening type).bind
      intro value _ _
      exact (alike_checkNone _ here).bind fun _ _ _ => alike_pure value

theorem ignores_member (hinner : inner.Ignores tail) : Ignores tail (member d inner) := by
  intro rest
  apply Alike.after_mark
  apply Alike.after_next htail rfl rfl
  rintro kind more rfl
  cases kind with
  | keyword word =>
      cases word with
      | geometry type => exact alike_geometry htail hinner _ type
      | _ => exact alike_unexpected _ _ _
  | _ => exact alike_unexpected _ _ _

end Geometries

section Expressions

variable (htail : Ended tail) {inner : Level} (hinner : inner.Ignores tail)
include htail

theorem alike_pathSegments {count count' : Nat} (hcount : rest.length ≤ count)
    (hcount' : rest.length ≤ count') :
    Alike tail rest (pathSegments count) (pathSegments count') := by
  refine counts_induction ?_ ?_ hcount hcount'
  · intro count count'
    exact alike_ended htail (fun _ gauge h => pathSegments_ended h gauge count)
      fun _ gauge h => pathSegments_ended h gauge count'
  · intro kind more count count' ih
    refine Alike.after_accept htail (by simp) (fun further hfurther => ?_) (alike_pure [])
    apply Alike.after_mark
    apply Alike.after_next htail rfl rfl
    rintro segment last rfl
    have hshorter : last.length ≤ more.length :=
      Nat.le_of_lt (Nat.lt_of_succ_lt_succ hfurther)
    cases segment with
    | identifier name => exact (ih last hshorter).bind fun _ _ _ => alike_pure _
    | quotedIdentifier name => exact (ih last hshorter).bind fun _ _ _ => alike_pure _
    | _ => exact alike_unexpected _ _ _

theorem ignores_property (name : String) : Ignores tail (property name) := by
  intro rest
  apply Alike.after_tokensLeft
  intro count hcount
  exact (alike_pathSegments htail (Nat.le_refl _) hcount).bind fun _ _ _ => alike_pure _

theorem ignores_featureIdentifier : Ignores tail featureIdentifier := by
  intro rest
  apply Alike.after_mark
  apply Alike.after_next htail rfl rfl
  rintro kind more rfl
  cases kind with
  | string name => exact alike_pure name
  | number name => exact alike_pure name
  | _ => exact alike_unexpected _ _ _

/-- What comes behind the parenthesis of a list of values. -/
theorem Alike.after_openValues {q q' : Mark → Parse β}
    (h : ∀ here more, more.length ≤ rest.length → Alike tail more (q here) (q' (here ++ tail))) :
    Alike tail rest (openValues >>= q) (openValues >>= q') := by
  unfold openValues
  rw [bind_assoc, bind_assoc]
  apply Alike.after_expect htail (by simp)
  intro opening more hmore
  rw [bind_assoc, bind_assoc]
  apply Alike.after_peek htail
  split
  · exact alike_fail _ opening
  · exact h opening more hmore

include hinner

theorem alike_arguments (opening : Mark) :
    Alike tail rest (arguments d inner opening) (arguments d inner (opening ++ tail)) :=
  alike_nested (fun _ _ => alike_list htail (hinner .argument) opening) .nesting opening

theorem ignores_callArguments : Ignores tail (callArguments d inner) := by
  intro rest
  apply Alike.after_expect htail (by simp)
  intro opening more _
  apply (ignores_accept htail (by simp) more).bind
  intro empty further _
  split
  · exact alike_pure []
  · exact alike_arguments htail hinner opening

theorem ignores_primary : Ignores tail (primary d inner) := by
  intro rest
  apply Alike.after_mark
  apply Alike.after_next htail rfl rfl
  rintro kind more rfl
  have hcall := ignores_callArguments (d := d) htail hinner
  cases kind with
  | number digits => exact (alike_check _ _).bind fun _ _ _ => alike_pure _
  | string value => exact alike_pure _
  | identifier name =>
      apply Alike.after_peek htail
      split
      · apply (hcall more).bind
        intro given _ _
        exact (alike_checkNone _ _).bind fun _ _ _ => alike_pure _
      · exact (ignores_property htail name more).bind fun _ _ _ => alike_pure _
  | quotedIdentifier name =>
      exact (ignores_property htail name more).bind fun _ _ _ => alike_pure _
  | keyword word =>
      cases word with
      | geometry type =>
          exact (alike_geometry htail hinner _ type).bind fun _ _ _ => alike_pure _
      | spatial op =>
          apply (hcall more).bind
          intro given _ _
          exact (alike_check _ _).bind fun _ _ _ => alike_pure _
      | oneOf =>
          apply Alike.after_openValues htail
          intro opening further _
          refine Alike.bind ?_ fun _ _ _ => alike_pure _
          exact alike_list htail (ignores_featureIdentifier htail) opening
      | truth => exact alike_pure _
      | falsity => exact alike_pure _
      | null => exact alike_pure _
      | everything => exact alike_pure _
      | nothing => exact alike_pure _
      | _ => exact alike_unexpected _ _ _
  | punctuation symbol =>
      cases symbol with
      | openParen =>
          apply Alike.after_mark
          refine Alike.bind (alike_nested (fun further _ => hinner .group further) .nesting more) ?_
          intro parsed _ _
          exact (alike_close htail _).bind fun _ _ _ => alike_pure parsed
      | _ => exact alike_unexpected _ _ _
  | _ => exact alike_unexpected _ _ _

omit htail hinner in
theorem alike_requireFilter (start : Mark) (parsed : Parsed) :
    Alike tail rest (requireFilter start parsed) (requireFilter (start ++ tail) parsed) := by
  cases parsed with
  | filter value => exact alike_pure value
  | expression value => exact alike_fail _ start

omit htail hinner in
theorem alike_requireExpression (start : Mark) (parsed : Parsed) :
    Alike tail rest (requireExpression start parsed)
      (requireExpression (start ++ tail) parsed) := by
  cases parsed with
  | filter value => exact alike_fail _ start
  | expression value => exact alike_pure value

theorem ignores_unary : Ignores tail (unary d inner) := by
  intro rest
  apply Alike.after_peek htail
  by_cases hminus : rest.headD .endOfInput = .operator .minus
  · rw [if_pos hminus]
    obtain ⟨more, rfl⟩ := exists_of_headD (by simp) hminus
    apply Alike.after_mark
    apply Alike.after_next_cons
    apply Alike.after_mark
    apply Alike.after_peek htail
    have hsigned : Alike tail more
        (do
          let operand ← nested d .nesting (.operator .minus :: more) do
            requireExpression more (← inner .signed)
          return Parsed.expression (.arithmetic .subtract (.integer 0) operand))
        (do
          let operand ← nested d .nesting (.operator .minus :: more ++ tail) do
            requireExpression (more ++ tail) (← inner .signed)
          return Parsed.expression (.arithmetic .subtract (.integer 0) operand)) := by
      refine Alike.bind (alike_nested (fun further _ => ?_) .nesting _) fun _ _ _ => alike_pure _
      exact (hinner .signed further).bind fun parsed _ _ => alike_requireExpression more parsed
    cases hnext : more.headD .endOfInput with
    | number digits =>
        obtain ⟨further, rfl⟩ := exists_of_headD (by simp) hnext
        apply Alike.after_next_cons
        exact (alike_check _ _).bind fun _ _ _ => alike_pure _
    | _ => exact hsigned
  · rw [if_neg hminus]
    exact ignores_primary htail hinner rest

omit hinner in
theorem alike_chainRest {operator? : TokenKind → Option ArithmeticOp} {operand : Parse Parsed}
    (hoperator : operator? .endOfInput = none) (hoperand : Ignores tail operand) (start : Mark)
    {count count' : Nat} (hcount : rest.length ≤ count) (hcount' : rest.length ≤ count')
    (left : Parsed) :
    Alike tail rest (chainRest d operator? operand start count left)
      (chainRest d operator? operand (start ++ tail) count' left) := by
  revert left
  refine counts_induction ?_ ?_ hcount hcount'
  · intro count count' left
    exact alike_ended htail
      (fun _ gauge h => chainRest_ended h gauge hoperator operand start count left)
      fun _ gauge h => chainRest_ended h gauge hoperator operand (start ++ tail) count' left
  · intro kind more count count' ih left
    apply Alike.after_peek htail
    cases hop : operator? kind with
    | none =>
        simp only [List.headD_cons, hop]
        exact alike_pure left
    | some op =>
        simp only [List.headD_cons, hop]
        apply Alike.after_mark
        apply Alike.after_next_cons
        refine alike_nested (fun further hfurther => ?_) .chain _
        apply (alike_requireExpression start left).bind
        intro first second hsecond
        apply Alike.after_mark
        apply (hoperand second).bind
        intro parsed third hthird
        apply (alike_requireExpression second parsed).bind
        intro value last hlast
        exact ih last (((hlast.trans hthird).trans hsecond).trans hfurther) _

omit hinner in
theorem ignores_chain {operator? : TokenKind → Option ArithmeticOp} {operand : Parse Parsed}
    (hoperator : operator? .endOfInput = none) (hoperand : Ignores tail operand) :
    Ignores tail (chain d operator? operand) := by
  intro rest
  apply Alike.after_mark
  apply (hoperand rest).bind
  intro first more _
  apply Alike.after_tokensLeft
  intro count hcount
  exact alike_chainRest htail hoperator hoperand rest (Nat.le_refl _) hcount first

theorem ignores_additive : Ignores tail (additive d inner) :=
  ignores_chain htail rfl (ignores_chain htail rfl (ignores_unary htail hinner))

theorem ignores_operand : Ignores tail (operand d inner) := by
  intro rest
  apply Alike.after_mark
  apply (ignores_additive htail hinner rest).bind
  intro parsed _ _
  exact alike_requireExpression rest parsed

end Expressions

section Filters

variable (htail : Ended tail) {inner : Level} (hinner : inner.Ignores tail)
include htail

theorem ignores_likeTest (tested : Expression) (matchCase : Bool) :
    Ignores tail (likeTest d tested matchCase) := by
  intro rest
  apply Alike.after_mark
  apply Alike.after_next htail rfl rfl
  rintro kind more rfl
  cases kind with
  | string pattern => exact alike_pure _
  | _ => exact alike_unexpected _ _ _

theorem ignores_nullTest (tested : Expression) : Ignores tail (nullTest tested) := by
  apply (ignores_accept htail (by simp)).bind
  intro negated
  exact ignores_expect htail (by simp) _ (ignores_pure _)

include hinner

theorem ignores_betweenTest (tested : Expression) : Ignores tail (betweenTest d inner tested) := by
  apply (ignores_operand htail hinner).bind
  intro lower
  apply ignores_expect htail (by simp)
  apply (ignores_operand htail hinner).bind
  exact fun upper => ignores_pure _

theorem ignores_membershipTest (tested : Expression) :
    Ignores tail (membershipTest d inner tested) := by
  intro rest
  apply Alike.after_openValues htail
  intro opening more _
  exact (alike_arguments htail hinner opening).bind fun _ _ _ => alike_pure _

theorem negatableTest?_ignores {tested : Expression} {kind : TokenKind} {test : Parse Filter}
    (h : negatableTest? d inner tested kind = some test) : Ignores tail test := by
  unfold negatableTest? at h
  split at h <;> cases h
  · exact ignores_likeTest htail tested true
  · exact ignores_likeTest htail tested false
  · exact ignores_betweenTest htail hinner tested
  · exact ignores_membershipTest htail hinner tested

theorem test?_ignores {tested : Expression} {kind : TokenKind} {test : Parse Filter}
    (h : test? d inner tested kind = some test) : Ignores tail test := by
  unfold test? at h
  split at h
  · cases h
    exact (ignores_operand htail hinner).bind fun _ => ignores_pure _
  · cases h
    exact ignores_nullTest htail tested
  · cases h
    intro rest
    apply Alike.after_mark
    apply Alike.after_next htail rfl rfl
    rintro word more rfl
    cases htest : negatableTest? d inner tested word with
    | some test =>
        exact (negatableTest?_ignores htail hinner htest more).bind fun _ _ _ => alike_pure _
    | none => exact alike_unexpected _ _ _
  · exact negatableTest?_ignores htail hinner h

theorem ignores_predicate : Ignores tail (predicate d inner) := by
  apply (ignores_additive htail hinner).bind
  intro parsed rest
  cases parsed with
  | filter value => exact alike_pure _
  | expression left =>
      apply Alike.after_peek htail
      cases rest with
      | nil => exact alike_pure _
      | cons kind more =>
          cases htest : test? d inner left kind with
          | none =>
              simp only [List.headD_cons, htest]
              exact alike_pure _
          | some test =>
              simp only [List.headD_cons, htest]
              apply Alike.after_next_cons
              apply (test?_ignores htail hinner htest more).bind
              intro value further _
              apply Alike.after_peek htail
              split
              · exact Alike.after_mark (alike_fail _ further)
              · exact alike_pure _

theorem ignores_negation : Ignores tail (negation d inner) := by
  intro rest
  apply Alike.after_peek htail
  by_cases hnot : rest.headD .endOfInput = .keyword .not
  · rw [if_pos hnot]
    obtain ⟨more, rfl⟩ := exists_of_headD (by simp) hnot
    apply Alike.after_mark
    apply Alike.after_next_cons
    refine Alike.bind (alike_nested (fun further _ => ?_) .nesting _) fun _ _ _ => alike_pure _
    apply Alike.after_mark
    exact (hinner .negated further).bind fun parsed _ _ => alike_requireFilter further parsed
  · rw [if_neg hnot]
    exact ignores_predicate htail hinner rest

omit hinner in
theorem alike_operandsRest {operand : Parse Parsed} (op : LogicalOp)
    (hoperand : Ignores tail operand) {count count' : Nat} (hcount : rest.length ≤ count)
    (hcount' : rest.length ≤ count') :
    Alike tail rest (operandsRest op operand count) (operandsRest op operand count') := by
  refine counts_induction ?_ ?_ hcount hcount'
  · intro count count'
    exact alike_ended htail (fun _ gauge h => operandsRest_ended h gauge op operand count)
      fun _ gauge h => operandsRest_ended h gauge op operand count'
  · intro kind more count count' ih
    refine Alike.after_accept htail (by simp) (fun further hfurther => ?_) (alike_pure [])
    apply Alike.after_mark
    apply (hoperand further).bind
    intro parsed second hsecond
    apply (alike_requireFilter further parsed).bind
    intro value last hlast
    have hshorter := (hlast.trans hsecond).trans (Nat.le_of_lt_succ hfurther)
    exact (ih last hshorter).bind fun _ _ _ => alike_pure _

omit hinner in
theorem ignores_logical {operand : Parse Parsed} (op : LogicalOp)
    (hoperand : Ignores tail operand) : Ignores tail (logical op operand) := by
  intro rest
  apply Alike.after_mark
  apply (hoperand rest).bind
  intro first more _
  apply Alike.after_peek htail
  split
  · apply (alike_requireFilter rest first).bind
    intro value further _
    apply Alike.after_tokensLeft
    intro count hcount
    exact (alike_operandsRest htail op hoperand (Nat.le_refl _) hcount).bind fun _ _ _ =>
      alike_pure _
  · exact alike_pure first

theorem ignores_levelAbove : (levelAbove d inner).Ignores tail
  | .group => ignores_logical htail .or (ignores_logical htail .and (ignores_negation htail hinner))
  | .negated => ignores_negation htail hinner
  | .signed => ignores_unary htail hinner
  | .argument => ignores_operand htail hinner
  | .member => ignores_member htail hinner

omit hinner in
/-- A tail behind an end of input makes no difference to the tower, however high it is. -/
theorem ignores_level (count : Nat) : (level d count).Ignores tail := by
  induction count with
  | zero => exact fun production rest => Alike.after_mark (alike_fail _ rest)
  | succ count ih => exact ignores_levelAbove htail ih

end Filters

section Wholes

/-- Results with the same value, or with the same fault at the same token. -/
inductive Concurs (tail : List TokenKind) :
    Except Failure (α × Cursor) → Except Failure (α × Cursor) → Prop where
  | value (value : α) (later later' : Cursor) :
      Concurs tail (.ok (value, later)) (.ok (value, later'))
  | failure (fault : Fault) (place : Mark) (gauge gauge' : Gauge) :
      Concurs tail (.error ⟨fault, place, gauge⟩) (.error ⟨fault, place ++ tail, gauge'⟩)

theorem Alike.bind_concurs {p p' : Parse α} {q q' : α → Parse β} (hp : Alike tail rest p p')
    (hq : ∀ value more gauge,
      Concurs tail (q value ⟨more, gauge⟩) (q' value ⟨more ++ tail, gauge⟩)) (gauge : Gauge) :
    Concurs tail ((p >>= q) ⟨rest, gauge⟩) ((p' >>= q') ⟨rest ++ tail, gauge⟩) := by
  change Concurs tail (p ⟨rest, gauge⟩ >>= fun found => q found.1 found.2)
    (p' ⟨rest ++ tail, gauge⟩ >>= fun found => q' found.1 found.2)
  rw [(hp gauge).1]
  cases p ⟨rest, gauge⟩ with
  | error failure => exact .failure failure.fault failure.place _ _
  | ok found => exact hq found.1 found.2.rest found.2.gauge

/-- Only the end of a reading consumes an end of input. What comes behind it reads nothing. -/
theorem concurs_finish (htail : Ended tail) {q q' : Parse β}
    (hq : ∀ cursor cursor', Concurs tail (q cursor) (q' cursor')) (rest : List TokenKind)
    (gauge : Gauge) :
    Concurs tail ((finish >>= fun _ => q) ⟨rest, gauge⟩)
      ((finish >>= fun _ => q') ⟨rest ++ tail, gauge⟩) := by
  cases rest with
  | nil =>
      rw [List.nil_append, bind_eq (finish_ended htail gauge)]
      exact hq _ _
  | cons kind more =>
      cases kind with
      | endOfInput => exact hq _ _
      | _ => exact .failure _ _ _ _

theorem concurs_whole (htail : Ended tail) {q : Parsed × Mark → Parse β}
    (hq : ∀ parsed start cursor cursor',
      Concurs tail (q (parsed, start) cursor) (q (parsed, start ++ tail) cursor'))
    (kinds : List TokenKind) (gauge : Gauge) :
    Concurs tail ((whole d >>= q) ⟨kinds, gauge⟩) ((whole d >>= q) ⟨kinds ++ tail, gauge⟩) := by
  unfold whole
  simp only [bind_assoc, pure_bind]
  have hgroup : Alike tail kinds (nested d .nesting kinds (level d d.maxDepth .group))
      (nested d .nesting (kinds ++ tail) (level d d.maxDepth .group)) :=
    alike_nested (fun more _ => ignores_level htail d.maxDepth .group more) .nesting kinds
  exact hgroup.bind_concurs (fun parsed => concurs_finish htail (hq parsed kinds)) gauge

theorem concurs_wholeFilter (htail : Ended tail) (kinds : List TokenKind) (gauge : Gauge) :
    Concurs tail (wholeFilter d ⟨kinds, gauge⟩) (wholeFilter d ⟨kinds ++ tail, gauge⟩) := by
  apply concurs_whole htail
  intro parsed start cursor cursor'
  cases parsed with
  | filter value => exact .value value _ _
  | expression value => exact .failure _ start _ _

theorem concurs_wholeExpression (htail : Ended tail) (kinds : List TokenKind) (gauge : Gauge) :
    Concurs tail (wholeExpression d ⟨kinds, gauge⟩) (wholeExpression d ⟨kinds ++ tail, gauge⟩) := by
  apply concurs_whole htail
  intro parsed start cursor cursor'
  cases parsed with
  | filter value => exact .failure _ start _ _
  | expression value => exact .value value _ _

end Wholes

end GeoFilter.Grammar
