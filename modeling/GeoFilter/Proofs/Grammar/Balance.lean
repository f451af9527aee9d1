import GeoFilter.Proofs.Grammar.Height
import GeoFilter.Proofs.Token.Balance

/-!
Parentheses on the way of a production. Whatever succeeds has consumed balanced tokens, and whatever
is told of a parenthesis that stands open closes it. A production that misses the end of one blames
the innermost: between that and the end of input the tokens are balanced.
-/

namespace GeoFilter.Grammar

variable {d : Dialect} {α β : Type}

/-- The tokens up to a later place are balanced. -/
def Since (start later : List TokenKind) : Prop :=
  ∃ used, start = used ++ later ∧ Balanced used

/-- The tokens begin with an opening parenthesis, and those behind it are balanced up to a later
place. -/
def Inside (opening later : List TokenKind) : Prop :=
  ∃ used, opening = .punctuation .openParen :: (used ++ later) ∧ Balanced used

section Places

variable {start opening middle later : List TokenKind}

theorem Since.refl (start : List TokenKind) : Since start start :=
  ⟨[], rfl, balanced_nil⟩

theorem Since.trans (h : Since start middle) (h' : Since middle later) : Since start later := by
  obtain ⟨used, rfl, hused⟩ := h
  obtain ⟨more, rfl, hmore⟩ := h'
  exact ⟨used ++ more, (List.append_assoc _ _ _).symm, hused.append hmore⟩

theorem since_cons {kind : TokenKind} (h : kind.isParenthesis = false) (later : List TokenKind) :
    Since (kind :: later) later :=
  ⟨[kind], rfl, balanced_singleton h⟩

theorem Since.length_le (h : Since start later) : later.length ≤ start.length := by
  obtain ⟨used, rfl, -⟩ := h
  simp

theorem inside_cons (later : List TokenKind) :
    Inside (.punctuation .openParen :: later) later :=
  ⟨[], rfl, balanced_nil⟩

theorem Inside.trans (h : Inside opening middle) (h' : Since middle later) :
    Inside opening later := by
  obtain ⟨used, rfl, hused⟩ := h
  obtain ⟨more, rfl, hmore⟩ := h'
  exact ⟨used ++ more, by simp, hused.append hmore⟩

theorem Inside.close (h : Inside opening (.punctuation .closeParen :: later)) :
    Since opening later := by
  obtain ⟨used, rfl, hused⟩ := h
  exact ⟨enclosed used, by simp [enclosed], hused.enclosed⟩

end Places

/-- A failure that blames a parenthesis for not being closed blames the innermost that is open at
the end of input. -/
def Failure.Blames (failure : Failure) : Prop :=
  failure.fault = .unclosed →
    ∃ last, Inside failure.place last ∧ last.headD .endOfInput = .endOfInput

/-- What a production comes to whose success leaves tokens as told. -/
def Lands (Q : List TokenKind → Prop) : Except Failure (α × Cursor) → Prop
  | .ok (_, later) => Q later.rest
  | .error failure => failure.Blames

/-- A production on the rest of some tokens, with any levels left. -/
def Comes (p : Parse α) (rest : List TokenKind) (Q : List TokenKind → Prop) : Prop :=
  ∀ gauge, Lands Q (p ⟨rest, gauge⟩)

/-- A production that consumes balanced tokens. -/
def Balances (p : Parse α) : Prop :=
  ∀ rest, Comes p rest (Since rest)

/-- A production within a parenthesis that comes out behind its end. -/
def Closing (opening : Mark) (p : Parse α) : Prop :=
  ∀ rest, Inside opening rest → Comes p rest (Since opening)

/-- A production that fails, and not for want of a parenthesis. -/
def Declines (p : Parse α) : Prop :=
  ∀ rest Q, Comes p rest Q

section Combinators

variable {p : Parse α} {rest : List TokenKind} {Q R : List TokenKind → Prop} {opening : Mark}

theorem Comes.imp (h : Comes p rest Q) (himp : ∀ later, Q later → R later) : Comes p rest R := by
  intro gauge
  have hp := h gauge
  cases hresult : p ⟨rest, gauge⟩ with
  | ok found =>
      rw [hresult] at hp
      exact himp _ hp
  | error failure =>
      rw [hresult] at hp
      exact hp

theorem Comes.bind {q : α → Parse β} (hp : Comes p rest R)
    (hq : ∀ value later, R later → Comes (q value) later Q) : Comes (p >>= q) rest Q := by
  intro gauge
  have hfirst := hp gauge
  change Lands Q (p ⟨rest, gauge⟩ >>= fun found => q found.1 found.2)
  cases hresult : p ⟨rest, gauge⟩ with
  | error failure =>
      rw [hresult] at hfirst
      exact hfirst
  | ok found =>
      obtain ⟨value, later, middle⟩ := found
      rw [hresult] at hfirst
      exact hq value later hfirst middle

theorem comes_pure {value : α} (h : Q rest) : Comes (pure value) rest Q :=
  fun _ => h

theorem declines_fail {fault : Fault} (h : fault ≠ .unclosed) (place : Mark) :
    Declines (fail fault place : Parse α) :=
  fun _ _ _ hfault => absurd hfault h

theorem declines_unexpected (found : TokenKind) (expected : Expectation) (place : Mark) :
    Declines (unexpected found expected place : Parse α) :=
  declines_fail (by simp) place

theorem Declines.balances (h : Declines p) : Balances p :=
  fun rest => h rest _

theorem Declines.closing (h : Declines p) (opening : Mark) : Closing opening p :=
  fun rest _ => h rest _

theorem Balances.bind {q : α → Parse β} (hp : Balances p) (hq : ∀ value, Balances (q value)) :
    Balances (p >>= q) := by
  intro rest
  apply (hp rest).bind
  exact fun value later hlater => (hq value later).imp fun _ => hlater.trans

/-- A production in front of one that closes the parenthesis. -/
theorem Balances.bind_closing {q : α → Parse β} (hp : Balances p)
    (hq : ∀ value, Closing opening (q value)) : Closing opening (p >>= q) := by
  intro rest hrest
  apply (hp rest).bind
  exact fun value later hlater => hq value later (hrest.trans hlater)

theorem Closing.bind {q : α → Parse β} (hp : Closing opening p) (hq : ∀ value, Balances (q value)) :
    Closing opening (p >>= q) := by
  intro rest hrest
  apply (hp rest hrest).bind
  exact fun value later hlater => (hq value later).imp fun _ => hlater.trans

theorem balances_pure (value : α) : Balances (pure value) :=
  fun rest => comes_pure (Since.refl rest)

theorem balances_mark : Balances mark :=
  fun rest _ => Since.refl rest

theorem balances_peek : Balances peek :=
  fun rest _ => Since.refl rest

theorem balances_tokensLeft : Balances tokensLeft :=
  fun rest _ => Since.refl rest

theorem Comes.after_mark {q : Mark → Parse β} (h : Comes (q rest) rest Q) :
    Comes (mark >>= q) rest Q :=
  h

theorem Comes.after_tokensLeft {q : Nat → Parse β} (h : Comes (q rest.length) rest Q) :
    Comes (tokensLeft >>= q) rest Q :=
  h

theorem Comes.after_peek {q : TokenKind → Parse β} (h : Comes (q (rest.headD .endOfInput)) rest Q) :
    Comes (peek >>= q) rest Q :=
  h

theorem Comes.after_next {q : TokenKind → Parse β}
    (hend : rest = [] → Comes (q .endOfInput) [] Q)
    (h : ∀ kind more, rest = kind :: more → Comes (q kind) more Q) :
    Comes (next >>= q) rest Q := by
  cases rest with
  | nil => exact hend rfl
  | cons kind more => exact h kind more rfl

/-- What may come behind a token at a place: something balanced, unless the token is a
parenthesis, or something that closes the parenthesis that the token opens. -/
def Admits (here : Mark) (kind : TokenKind) (p : Parse α) : Prop :=
  kind.isParenthesis = false ∧ Balances p ∨
    kind = .punctuation .openParen ∧ Closing here p ∨ Declines p

theorem admits_next {q : TokenKind → Parse β} (h : ∀ kind, Admits rest kind (q kind)) :
    Comes (next >>= q) rest (Since rest) := by
  apply Comes.after_next
  · rintro rfl
    rcases h .endOfInput with ⟨-, hq⟩ | ⟨hkind, -⟩ | hq
    · exact hq []
    · cases hkind
    · exact hq [] _
  · rintro kind more rfl
    rcases h kind with ⟨hkind, hq⟩ | ⟨rfl, hq⟩ | hq
    · exact (hq more).imp fun _ => (since_cons hkind more).trans
    · exact hq more (inside_cons more)
    · exact hq more _

/-- A production that looks at the place of the next token and consumes it. -/
theorem balances_token {q : Mark → TokenKind → Parse β}
    (h : ∀ here kind, Admits here kind (q here kind)) :
    Balances (mark >>= fun here => next >>= q here) :=
  fun _ => Comes.after_mark (admits_next (h _))

/-- A token that was seen in front and is no parenthesis. -/
theorem comes_seen {q : TokenKind → Parse β} (hq : ∀ kind, Balances (q kind))
    (hseen : (rest.headD .endOfInput).isParenthesis = false) :
    Comes (next >>= q) rest (Since rest) := by
  apply Comes.after_next
  · rintro rfl
    exact hq _ []
  · rintro kind more rfl
    exact (hq kind more).imp fun _ => (since_cons hseen more).trans

theorem Comes.after_accept {kind : TokenKind} {q : Bool → Parse β} (hkind : kind ≠ .endOfInput)
    (htrue : ∀ more, rest = kind :: more → Comes (q true) more Q)
    (hfalse : Comes (q false) rest Q) : Comes (accept kind >>= q) rest Q := by
  unfold accept
  rw [bind_assoc]
  apply Comes.after_peek
  split
  · rename_i hfound
    obtain ⟨more, rfl⟩ := exists_of_headD hkind hfound
    exact htrue more rfl
  · exact hfalse

theorem balances_accept {kind : TokenKind} (hkind : kind.isParenthesis = false)
    (hend : kind ≠ .endOfInput) : Balances (accept kind) := by
  intro rest
  rw [← bind_pure (accept kind)]
  apply Comes.after_accept hend
  · rintro more rfl
    exact comes_pure (since_cons hkind more)
  · exact comes_pure (Since.refl rest)

theorem balances_expect {kind : TokenKind} (hkind : kind.isParenthesis = false)
    (expected : Expectation) : Balances (expect kind expected) := by
  apply balances_token
  intro here found
  split
  · rename_i hfound
    exact .inl ⟨hfound ▸ hkind, balances_pure here⟩
  · exact .inr (.inr (declines_unexpected _ _ _))

theorem balances_expectKeyword (word : Keyword) : Balances (expectKeyword word) :=
  balances_expect rfl _

/-- What closes a parenthesis, with the parenthesis in front of it. -/
theorem balances_parenthesised {q : Mark → Parse β} (h : ∀ opening, Closing opening (q opening)) :
    Balances (expectPunctuation .openParen >>= q) := by
  unfold expectPunctuation expect
  simp only [bind_assoc]
  apply balances_token
  intro here found
  split
  · rename_i hfound
    exact .inr (.inl ⟨hfound, h here⟩)
  · refine .inr (.inr fun rest Q => ?_)
    exact (declines_unexpected _ _ _ rest (fun _ => False)).bind fun _ _ => False.elim

/-- The parenthesis that stands open where the tokens are over. -/
theorem comes_unclosed (hrest : Inside opening rest) (hend : rest.headD .endOfInput = .endOfInput)
    (more : List TokenKind) : Comes (fail .unclosed opening : Parse α) more Q :=
  fun _ _ => ⟨rest, hrest, hend⟩

theorem closing_close (opening : Mark) : Closing opening (close opening) := by
  intro rest hrest
  apply Comes.after_mark
  apply Comes.after_next
  · rintro rfl
    exact comes_unclosed hrest rfl []
  · rintro kind more rfl
    split
    · exact comes_pure hrest.close
    · exact comes_unclosed hrest rfl more
    · exact declines_unexpected _ _ _ _ _

theorem comes_listRest {item : Parse α} (hitem : Balances item) (count : Nat)
    (hrest : Inside opening rest) (hcount : rest.length ≤ count) :
    Comes (listRest opening item count) rest (Since opening) := by
  induction count generalizing rest with
  | zero =>
      obtain rfl := List.eq_nil_of_length_eq_zero (Nat.le_zero.mp hcount)
      exact comes_unclosed hrest rfl []
  | succ count ih =>
      apply Comes.after_mark
      apply Comes.after_next
      · rintro rfl
        exact comes_unclosed hrest rfl []
      · rintro kind more rfl
        split
        · apply (hitem more).bind
          intro value later hlater
          have hshorter := hlater.length_le.trans (Nat.le_of_succ_le_succ hcount)
          apply (ih (hrest.trans ((since_cons rfl more).trans hlater)) hshorter).bind
          exact fun values left hleft => comes_pure hleft
        · exact comes_pure hrest.close
        · exact comes_unclosed hrest rfl more
        · exact declines_unexpected _ _ _ _ _

theorem closing_list {item : Parse α} (hitem : Balances item) (opening : Mark) :
    Closing opening (list opening item) := by
  refine hitem.bind_closing fun first rest hrest => ?_
  apply Comes.after_tokensLeft
  apply (comes_listRest hitem _ hrest le_rfl).bind
  exact fun values left hleft => comes_pure hleft

theorem balances_enter (depth : Depth) (place : Mark) : Balances (enter d depth place) := by
  intro rest gauge
  unfold enter
  split
  · exact Since.refl rest
  · rintro ⟨⟩

theorem balances_leave : Balances leave :=
  fun rest _ => Since.refl rest

theorem balances_nested (hp : Balances p) (depth : Depth) (place : Mark) :
    Balances (nested d depth place p) := by
  apply (balances_enter depth place).bind
  intro _
  apply hp.bind
  intro value
  apply balances_leave.bind
  exact fun _ => balances_pure value

theorem closing_nested (hp : Closing opening p) (depth : Depth) (place : Mark) :
    Closing opening (nested d depth place p) := by
  apply (balances_enter depth place).bind_closing
  intro _
  apply hp.bind
  intro value
  apply balances_leave.bind
  exact fun _ => balances_pure value

/-- A check finds no fault in the parentheses. -/
theorem balances_check {S : α → Prop} {checked : Except Fault α} (h : Check.Clears S checked)
    (place : Mark) : Balances (check place checked) := by
  cases checked with
  | ok value => exact balances_pure value
  | error fault => exact (declines_fail (Fault.Bare.ne_unclosed h) place).balances

/-- Nor does the conversion of a number. -/
theorem balances_checkNumber {checked : Except Fault α} {digits : String}
    (h : ∀ fault, checked = .error fault → fault.InNumber digits) (place : Mark) :
    Balances (check place checked) := by
  cases checked with
  | ok value => exact balances_pure value
  | error fault =>
      obtain ⟨cause, hcause⟩ := (h fault rfl).cause
      exact (declines_fail (ne_unclosed_of_cause? hcause) place).balances

theorem balances_checkNone {checked : Option Fault} (h : ∀ fault ∈ checked, fault.Bare)
    (place : Mark) : Balances (checkNone place checked) := by
  cases checked with
  | none => exact balances_pure ()
  | some fault => exact (declines_fail (h fault rfl).ne_unclosed place).balances

end Combinators

section Geometries

theorem balances_signedNumber : Balances signedNumber := by
  apply (balances_accept rfl (by simp)).bind
  intro negative
  apply balances_token
  intro here kind
  split
  · exact .inl ⟨rfl, balances_checkNumber (fun _ h => ⟨negative, .inr h⟩) here⟩
  · exact .inr (.inr (declines_unexpected _ _ _))

theorem balances_coordinate : Balances coordinate := by
  apply balances_signedNumber.bind
  intro x
  apply balances_signedNumber.bind
  intro y
  apply balances_peek.bind
  intro kind
  have hthird : Balances (do let z ← signedNumber; return (⟨x, y, some z⟩ : Coordinate)) :=
    balances_signedNumber.bind fun z => balances_pure _
  split
  · exact hthird
  · exact hthird
  · exact balances_pure _

theorem balances_path : Balances path :=
  balances_parenthesised (closing_list balances_coordinate)

theorem balances_rings : Balances rings :=
  balances_parenthesised (closing_list balances_path)

theorem balances_multiPointMember : Balances multiPointMember := by
  intro rest
  apply Comes.after_mark
  apply Comes.after_accept (by simp)
  · rintro more rfl
    have hclosing : Closing (.punctuation .openParen :: more) (do
        let c ← coordinate
        close (.punctuation .openParen :: more)
        return c) :=
      balances_coordinate.bind_closing fun c => (closing_close _).bind fun _ => balances_pure c
    exact hclosing more (inside_cons more)
  · exact balances_coordinate rest

theorem closing_envelopeBounds (opening : Mark) : Closing opening (envelopeBounds opening) := by
  have hcomma : Balances (expectPunctuation .comma) := balances_expect rfl _
  apply balances_signedNumber.bind_closing
  intro minX
  apply hcomma.bind_closing
  intro _
  apply balances_signedNumber.bind_closing
  intro maxX
  apply hcomma.bind_closing
  intro _
  apply balances_signedNumber.bind_closing
  intro maxY
  apply hcomma.bind_closing
  intro _
  apply balances_signedNumber.bind_closing
  intro minY
  apply (closing_close opening).bind
  exact fun _ => balances_pure _

variable {inner : Level}

/-- All productions of a level consume balanced tokens. -/
def Level.Balances (inner : Level) : Prop :=
  ∀ production, Grammar.Balances (inner production)

theorem closing_geometryBody (hinner : inner.Balances) (here opening : Mark)
    (type : GeometryType) : Closing opening (geometryBody d inner here opening type) := by
  cases type with
  | point =>
      apply balances_coordinate.bind_closing
      intro c
      exact (closing_close opening).bind fun _ => balances_pure _
  | lineString => exact (closing_list balances_coordinate opening).bind fun _ => balances_pure _
  | polygon => exact (closing_list balances_path opening).bind fun _ => balances_pure _
  | multiPoint =>
      exact (closing_list balances_multiPointMember opening).bind fun _ => balances_pure _
  | multiLineString => exact (closing_list balances_path opening).bind fun _ => balances_pure _
  | multiPolygon => exact (closing_list balances_rings opening).bind fun _ => balances_pure _
  | collection =>
      have hmembers := closing_list (hinner .member) opening
      exact (closing_nested hmembers .nesting here).bind fun _ => balances_pure _
  | envelope => exact (closing_envelopeBounds opening).bind fun _ => balances_pure _

theorem balances_geometry (hinner : inner.Balances) (here : Mark) (type : GeometryType) :
    Balances (geometry d inner here type) := by
  apply (balances_accept rfl (by simp)).bind
  intro empty
  split
  · split
    · exact balances_pure _
    · exact (declines_fail (by simp) here).balances
  · apply balances_parenthesised
    intro opening
    apply (closing_geometryBody hinner here opening type).bind
    intro value
    apply (balances_checkNone (bare_geometryFault? value) here).bind
    exact fun _ => balances_pure value

theorem balances_member (hinner : inner.Balances) : Balances (member d inner) := by
  apply balances_token
  intro here kind
  split
  · exact .inl ⟨rfl, balances_geometry hinner here _⟩
  · exact .inr (.inr (declines_unexpected _ _ _))

end Geometries

section Expressions

variable {inner : Level}

theorem closing_arguments (hinner : inner.Balances) (opening : Mark) :
    Closing opening (arguments d inner opening) :=
  closing_nested (closing_list (hinner .argument) opening) .nesting opening

theorem balances_callArguments (hinner : inner.Balances) : Balances (callArguments d inner) := by
  apply balances_parenthesised
  intro opening rest hrest
  apply Comes.after_accept (by simp)
  · rintro more rfl
    exact comes_pure hrest.close
  · exact closing_arguments hinner opening rest hrest

theorem balances_pathSegments (count : Nat) : Balances (pathSegments count) := by
  induction count with
  | zero => exact balances_pure []
  | succ count ih =>
      apply (balances_accept rfl (by simp)).bind
      intro dotted
      split
      · apply balances_token
        intro here kind
        split
        · exact .inl ⟨rfl, ih.bind fun _ => balances_pure _⟩
        · exact .inl ⟨rfl, ih.bind fun _ => balances_pure _⟩
        · exact .inr (.inr (declines_unexpected _ _ _))
      · exact balances_pure []

theorem balances_property (name : String) : Balances (property name) := by
  apply balances_tokensLeft.bind
  intro count
  exact (balances_pathSegments count).bind fun _ => balances_pure _

/-- The values behind IN, with the parenthesis in front of them. -/
theorem balances_values {q : Mark → Parse α} (h : ∀ opening, Closing opening (q opening)) :
    Balances (openValues >>= q) := by
  unfold openValues
  rw [bind_assoc]
  apply balances_parenthesised
  intro opening
  rw [bind_assoc]
  apply balances_peek.bind_closing
  intro kind
  split
  · refine Declines.closing (fun rest Q => ?_) opening
    exact (declines_fail (by simp) opening rest fun _ => False).bind fun _ _ => False.elim
  · exact h opening

theorem balances_featureIdentifier : Balances featureIdentifier := by
  apply balances_token
  intro here kind
  split
  · exact .inl ⟨rfl, balances_pure _⟩
  · exact .inl ⟨rfl, balances_pure _⟩
  · exact .inr (.inr (declines_unexpected _ _ _))

theorem balances_primary (hinner : inner.Balances) : Balances (primary d inner) := by
  apply balances_token
  intro here kind
  split
  · refine .inl ⟨rfl, Balances.bind ?_ fun _ => balances_pure _⟩
    exact balances_checkNumber (fun _ h => ⟨false, .inl h⟩) here
  · exact .inl ⟨rfl, balances_pure _⟩
  · exact .inl ⟨rfl, balances_pure _⟩
  · exact .inl ⟨rfl, balances_pure _⟩
  · exact .inl ⟨rfl, balances_pure _⟩
  · refine .inl ⟨rfl, balances_peek.bind fun next => ?_⟩
    split
    · apply (balances_callArguments hinner).bind
      intro given
      apply (balances_checkNone (bare_functionFault? _ _) here).bind
      exact fun _ => balances_pure _
    · exact (balances_property _).bind fun _ => balances_pure _
  · exact .inl ⟨rfl, (balances_property _).bind fun _ => balances_pure _⟩
  · exact .inl ⟨rfl, (balances_geometry hinner here _).bind fun _ => balances_pure _⟩
  · refine .inl ⟨rfl, (balances_callArguments hinner).bind fun given => ?_⟩
    apply (balances_check (clears_spatialPredicate _ given) here).bind
    exact fun _ => balances_pure _
  · exact .inl ⟨rfl, balances_pure _⟩
  · exact .inl ⟨rfl, balances_pure _⟩
  · refine .inl ⟨rfl, balances_values fun opening => ?_⟩
    exact (closing_list balances_featureIdentifier opening).bind fun _ => balances_pure _
  · refine .inr (.inl ⟨rfl, balances_mark.bind_closing fun start => ?_⟩)
    apply (balances_nested (hinner .group) .nesting start).bind_closing
    intro parsed
    exact (closing_close here).bind fun _ => balances_pure parsed
  · exact .inr (.inr (declines_unexpected _ _ _))

theorem balances_requireFilter (start : Mark) (parsed : Parsed) :
    Balances (requireFilter start parsed) := by
  cases parsed with
  | filter value => exact balances_pure value
  | expression value => exact (declines_fail (by simp) start).balances

theorem balances_requireExpression (start : Mark) (parsed : Parsed) :
    Balances (requireExpression start parsed) := by
  cases parsed with
  | filter value => exact (declines_fail (by simp) start).balances
  | expression value => exact balances_pure value

theorem balances_unary (hinner : inner.Balances) : Balances (unary d inner) := by
  intro rest
  apply Comes.after_peek
  split
  · rename_i hminus
    apply Comes.after_mark
    refine comes_seen (fun _ => balances_mark.bind fun start => ?_) (by rw [hminus]; rfl)
    intro more
    apply Comes.after_peek
    split
    · rename_i digits hdigits
      refine comes_seen (fun _ => ?_) (by rw [hdigits]; rfl)
      apply (balances_checkNumber (fun _ h => ⟨true, .inl h⟩) start).bind
      exact fun _ => balances_pure _
    · have hoperand : Balances (do requireExpression start (← inner .signed)) :=
        (hinner .signed).bind (balances_requireExpression start)
      exact (balances_nested hoperand .nesting rest).bind (fun _ => balances_pure _) more
  · exact balances_primary hinner rest

theorem balances_chainRest {operator? : TokenKind → Option ArithmeticOp} {operand : Parse Parsed}
    (hoperator : ∀ kind op, operator? kind = some op → kind.isParenthesis = false)
    (hoperand : Balances operand) (start : Mark) (count : Nat) (left : Parsed) :
    Balances (chainRest d operator? operand start count left) := by
  induction count generalizing left with
  | zero => exact balances_pure left
  | succ count ih =>
      intro rest
      apply Comes.after_peek
      split
      · exact comes_pure (Since.refl rest)
      · rename_i op hop
        apply Comes.after_mark
        refine comes_seen (fun _ => balances_nested ?_ .chain rest) (hoperator _ op hop)
        apply (balances_requireExpression start left).bind
        intro first
        apply balances_mark.bind
        intro place
        apply hoperand.bind
        intro parsed
        apply (balances_requireExpression place parsed).bind
        exact fun second => ih _

theorem balances_chain {operator? : TokenKind → Option ArithmeticOp} {operand : Parse Parsed}
    (hoperator : ∀ kind op, operator? kind = some op → kind.isParenthesis = false)
    (hoperand : Balances operand) : Balances (chain d operator? operand) := by
  apply balances_mark.bind
  intro start
  apply hoperand.bind
  intro first
  apply balances_tokensLeft.bind
  exact fun count => balances_chainRest hoperator hoperand start count first

theorem balances_additive (hinner : inner.Balances) : Balances (additive d inner) := by
  apply balances_chain
  · intro kind op h
    unfold additive? at h
    split at h <;> cases h <;> rfl
  · apply balances_chain
    · intro kind op h
      unfold multiplicative? at h
      split at h <;> cases h <;> rfl
    · exact balances_unary hinner

theorem balances_operand (hinner : inner.Balances) : Balances (operand d inner) := by
  apply balances_mark.bind
  intro start
  exact (balances_additive hinner).bind (balances_requireExpression start)

end Expressions

section Filters

variable {inner : Level}

theorem balances_likeTest (tested : Expression) (matchCase : Bool) :
    Balances (likeTest d tested matchCase) := by
  apply balances_token
  intro here kind
  split
  · exact .inl ⟨rfl, balances_pure _⟩
  · exact .inr (.inr (declines_unexpected _ _ _))

theorem balances_betweenTest (hinner : inner.Balances) (tested : Expression) :
    Balances (betweenTest d inner tested) := by
  apply (balances_operand hinner).bind
  intro lower
  apply (balances_expectKeyword .and).bind
  intro _
  apply (balances_operand hinner).bind
  exact fun upper => balances_pure _

theorem balances_membershipTest (hinner : inner.Balances) (tested : Expression) :
    Balances (membershipTest d inner tested) := by
  apply balances_values
  intro opening
  exact (closing_arguments hinner opening).bind fun _ => balances_pure _

theorem balances_nullTest (tested : Expression) : Balances (nullTest tested) := by
  apply (balances_accept rfl (by simp)).bind
  intro negated
  apply (balances_expectKeyword .null).bind
  exact fun _ => balances_pure _

theorem negatableTest?_balances (hinner : inner.Balances) {tested : Expression} {kind : TokenKind}
    {test : Parse Filter} (h : negatableTest? d inner tested kind = some test) :
    kind.isParenthesis = false ∧ Balances test := by
  unfold negatableTest? at h
  split at h <;> cases h
  · exact ⟨rfl, balances_likeTest tested true⟩
  · exact ⟨rfl, balances_likeTest tested false⟩
  · exact ⟨rfl, balances_betweenTest hinner tested⟩
  · exact ⟨rfl, balances_membershipTest hinner tested⟩

theorem test?_balances (hinner : inner.Balances) {tested : Expression} {kind : TokenKind}
    {test : Parse Filter} (h : test? d inner tested kind = some test) :
    kind.isParenthesis = false ∧ Balances test := by
  unfold test? at h
  split at h
  · cases h
    exact ⟨rfl, (balances_operand hinner).bind fun _ => balances_pure _⟩
  · cases h
    exact ⟨rfl, balances_nullTest tested⟩
  · cases h
    refine ⟨rfl, balances_token fun here word => ?_⟩
    split
    · rename_i test htest
      obtain ⟨hword, hbalances⟩ := negatableTest?_balances hinner htest
      exact .inl ⟨hword, hbalances.bind fun _ => balances_pure _⟩
    · exact .inr (.inr (declines_unexpected _ _ _))
  · exact negatableTest?_balances hinner h

theorem balances_predicate (hinner : inner.Balances) : Balances (predicate d inner) := by
  apply (balances_additive hinner).bind
  intro parsed
  cases parsed with
  | filter value => exact balances_pure _
  | expression left =>
      intro rest
      apply Comes.after_peek
      split
      · exact comes_pure (Since.refl rest)
      · rename_i test htest
        obtain ⟨hkind, hbalances⟩ := test?_balances hinner htest
        refine comes_seen (fun _ => hbalances.bind fun value => ?_) hkind
        apply balances_peek.bind
        intro following
        split
        · apply balances_mark.bind
          exact fun place => (declines_fail (by simp) place).balances
        · exact balances_pure _

theorem balances_negation (hinner : inner.Balances) : Balances (negation d inner) := by
  intro rest
  apply Comes.after_peek
  split
  · rename_i hnot
    apply Comes.after_mark
    refine comes_seen (fun _ => ?_) (by rw [hnot]; rfl)
    have hnegated : Balances (do
        let start ← mark
        requireFilter start (← inner .negated)) :=
      balances_mark.bind fun start => (hinner .negated).bind (balances_requireFilter start)
    exact (balances_nested hnegated .nesting rest).bind fun _ => balances_pure _
  · exact balances_predicate hinner rest

theorem balances_operandsRest {operand : Parse Parsed} (op : LogicalOp)
    (hoperand : Balances operand) (count : Nat) : Balances (operandsRest op operand count) := by
  induction count with
  | zero => exact balances_pure []
  | succ count ih =>
      apply (balances_accept rfl (by simp)).bind
      intro joined
      split
      · apply balances_mark.bind
        intro start
        apply hoperand.bind
        intro parsed
        apply (balances_requireFilter start parsed).bind
        intro value
        exact ih.bind fun _ => balances_pure _
      · exact balances_pure []

theorem balances_logical {operand : Parse Parsed} (op : LogicalOp) (hoperand : Balances operand) :
    Balances (logical op operand) := by
  apply balances_mark.bind
  intro start
  apply hoperand.bind
  intro first
  apply balances_peek.bind
  intro kind
  split
  · apply (balances_requireFilter start first).bind
    intro value
    apply balances_tokensLeft.bind
    intro count
    exact (balances_operandsRest op hoperand count).bind fun _ => balances_pure _
  · exact balances_pure first

theorem balances_levelAbove (hinner : inner.Balances) : (levelAbove d inner).Balances
  | .group => balances_logical .or (balances_logical .and (balances_negation hinner))
  | .negated => balances_negation hinner
  | .signed => balances_unary hinner
  | .argument => balances_operand hinner
  | .member => balances_member hinner

/-- Each production of the tower consumes balanced tokens, however high the tower is. -/
theorem balances_level (count : Nat) : (level d count).Balances := by
  induction count with
  | zero =>
      intro production
      exact balances_mark.bind fun place => (declines_fail (by simp) place).balances
  | succ count ih => exact balances_levelAbove ih

/-- Tokens that are balanced up to the end of input. -/
def BalancedToEnd (kinds : List TokenKind) : Prop :=
  ∃ last, Since kinds last ∧ last.headD .endOfInput = .endOfInput

theorem comes_whole (kinds : List TokenKind) :
    Comes (whole d) kinds fun _ => BalancedToEnd kinds := by
  apply Comes.after_mark
  apply (balances_nested (balances_level d.maxDepth .group) .nesting kinds kinds).bind
  intro parsed last hlast
  refine Comes.bind (R := fun _ => BalancedToEnd kinds) ?_ fun _ _ hkinds => comes_pure hkinds
  apply Comes.after_mark
  apply Comes.after_next
  · rintro rfl
    exact comes_pure ⟨[], hlast, rfl⟩
  · rintro kind more rfl
    split
    · exact comes_pure ⟨_, hlast, rfl⟩
    · exact declines_fail (by simp) _ _ _

theorem comes_wholeFilter (kinds : List TokenKind) :
    Comes (wholeFilter d) kinds fun _ => BalancedToEnd kinds :=
  (comes_whole kinds).bind fun found later hkinds =>
    (balances_requireFilter found.2 found.1 later).imp fun _ _ => hkinds

theorem comes_wholeExpression (kinds : List TokenKind) :
    Comes (wholeExpression d) kinds fun _ => BalancedToEnd kinds :=
  (comes_whole kinds).bind fun found later hkinds =>
    (balances_requireExpression found.2 found.1 later).imp fun _ _ => hkinds

end Filters

end GeoFilter.Grammar
