import GeoFilter.Proofs.Grammar.Height
import GeoFilter.Proofs.RoundTrip

/-!
Texts whose trees are as high as a dialect allows. With no level left a property is all that
can be read, and with one a sign in front of it. With more, the highest tree of one level less
goes between parentheses; behind it a chain of products and then one of sums spend all levels
that there are, each for itself.
-/

namespace GeoFilter

open Grammar

variable {d : Dialect}

namespace Summit

/-- The operand that all operators are applied to. -/
def leaf : Expression := .property "a"

/-- An expression with an operator behind it a number of times. -/
def chained (op : ArithmeticOp) : Nat → Expression → Expression
  | 0, e => e
  | count + 1, e => chained op count (.arithmetic op e leaf)

def chainedText (op : ArithmeticOp) : Nat → String → String
  | 0, text => text
  | count + 1, text => chainedText op count (text ++ " " ++ op.symbol ++ " " ++ "a")

def chainedKinds (op : ArithmeticOp) : Nat → List TokenKind
  | 0 => []
  | count + 1 => .operator op.operator :: .identifier "a" :: chainedKinds op count

/-- A chain of products and then one of sums, each of which has as many operators. -/
def climbed (count : Nat) (e : Expression) : Expression :=
  chained .add count (chained .multiply count e)

def climbedText (count : Nat) (text : String) : String :=
  chainedText .add count (chainedText .multiply count text)

def climbedKinds (count : Nat) : List TokenKind :=
  chainedKinds .multiply count ++ chainedKinds .add count

/-- The highest operand of a chain, with a number of levels left. -/
def foot : Nat → Expression
  | 0 => leaf
  | 1 => .arithmetic .subtract (.integer 0) leaf
  | room + 2 => climbed (room + 1) (foot (room + 1))

def footText : Nat → String
  | 0 => "a"
  | 1 => "-" ++ "a"
  | room + 2 => Writing.parenthesised (climbedText (room + 1) (footText (room + 1)))

def footKinds : Nat → List TokenKind
  | 0 => [.identifier "a"]
  | 1 => [.operator .minus, .identifier "a"]
  | room + 2 => enclosed (footKinds (room + 1) ++ climbedKinds (room + 1))

/-- The highest expression, with a number of levels left. -/
def peak (room : Nat) : Expression := climbed room (foot room)

def peakText (room : Nat) : String := climbedText room (footText room)

def peakKinds (room : Nat) : List TokenKind := footKinds room ++ climbedKinds room

section Heights

theorem arithmeticHeight_chained (op : ArithmeticOp) (count : Nat) (e : Expression) :
    (chained op count e).arithmeticHeight = e.arithmeticHeight + count := by
  induction count generalizing e with
  | zero => rfl
  | succ count ih =>
      have hnode : (Expression.arithmetic op e leaf).arithmeticHeight = e.arithmeticHeight + 1 :=
        congrArg Nat.succ (Nat.max_zero _)
      rw [chained, ih, hnode]
      omega

theorem arithmeticHeight_climbed (count : Nat) (e : Expression) :
    (climbed count e).arithmeticHeight = e.arithmeticHeight + count + count := by
  unfold climbed
  rw [arithmeticHeight_chained, arithmeticHeight_chained]

theorem arithmeticHeight_foot (room : Nat) : (foot room).arithmeticHeight = unaryHeight room := by
  match room with
  | 0 => rfl
  | 1 => rfl
  | room + 2 =>
      rw [foot, arithmeticHeight_climbed, arithmeticHeight_foot (room + 1)]
      simp only [unaryHeight]
      ring

theorem arithmeticHeight_peak (room : Nat) :
    (peak room).arithmeticHeight = additiveHeight room := by
  unfold peak
  rw [arithmeticHeight_climbed, arithmeticHeight_foot]
  rfl

end Heights

section Texts

theorem isPlainWord_leaf (d : Dialect) : isPlainWord d "a" = true := by
  have hkind : classifyWord d "a" = .identifier "a" := by
    have hreserved : Keyword.ofWord? "a" = none := by decide +kernel
    have hop : SpatialOp.ofName? "a" = none := by decide +kernel
    have htype : GeometryType.ofName? "a" = none := by decide +kernel
    unfold classifyWord
    rw [hreserved, hop, htype]
    rfl
  have hletter : isWordStart 'a' = true := by decide +kernel
  have hlist : "a".toList = ['a'] := rfl
  unfold isPlainWord
  rw [hlist]
  simp [hletter, hkind]

theorem isPlainPath_leaf (d : Dialect) : Writing.isPlainPath d "a" = true := by
  have hpieces : Text.pieces '.' "a".toList = [['a']] := by decide +kernel
  unfold Writing.isPlainPath
  rw [hpieces]
  simpa using isPlainWord_leaf d

theorem propertyKinds_leaf (d : Dialect) : propertyKinds d "a" = [.identifier "a"] := by
  have hpieces : Text.pieces '.' "a".toList = [['a']] := by decide +kernel
  unfold propertyKinds
  rw [isPlainPath_leaf, if_pos rfl, hpieces]
  rfl

theorem spells_leaf : Spells d "a".toList [.identifier "a"] := by
  obtain ⟨hword, hkind⟩ := isWord_of_isPlainWord (isPlainWord_leaf d)
  exact spells_classified hword hkind

theorem spells_chained (op : ArithmeticOp) (count : Nat) {text : String} {kinds : List TokenKind}
    (h : Spells d text.toList kinds) :
    Spells d (chainedText op count text).toList (kinds ++ chainedKinds op count) := by
  induction count generalizing text kinds with
  | zero =>
      rw [chainedKinds, List.append_nil]
      exact h
  | succ count ih =>
      have hstep := (h.spaced (opens_arithmetic op).spells).spaced spells_leaf
      have hrest := ih hstep
      rw [List.append_assoc, List.append_assoc] at hrest
      exact hrest

theorem spells_climbed (count : Nat) {text : String} {kinds : List TokenKind}
    (h : Spells d text.toList kinds) :
    Spells d (climbedText count text).toList (kinds ++ climbedKinds count) := by
  have hclimbed := spells_chained .add count (spells_chained .multiply count h)
  rw [List.append_assoc] at hclimbed
  exact hclimbed

theorem spells_foot (room : Nat) : Spells d (footText room).toList (footKinds room) := by
  match room with
  | 0 => exact spells_leaf
  | 1 =>
      rw [footText, String.toList_append]
      exact opens_minus.append spells_leaf
  | room + 2 =>
      exact (opens_parenthesised (spells_climbed (room + 1) (spells_foot (room + 1)))).spells

theorem spells_peak (room : Nat) : Spells d (peakText room).toList (peakKinds room) :=
  spells_climbed room (spells_foot room)

end Texts

section Readings

variable {tail : List TokenKind}

theorem readsBack_leaf (d : Dialect) : ReadsBack d leaf :=
  readsBack ⟨trivial, .inr (isPlainPath_leaf d), trivial⟩

theorem reads_leaf (h : Follows 3 tail) :
    Reads d (unary d) (.identifier "a" :: tail) (.expression leaf) tail .free := by
  have hreads := @reads_property d tail h "a"
  rwa [propertyKinds_leaf] at hreads

theorem precedence_le (op : ArithmeticOp) : op.precedence + 1 ≤ leaf.binding := by
  cases op <;> decide

theorem kindsAt_leaf (op : ArithmeticOp) :
    leaf.kindsAt d (op.precedence + 1) = [.identifier "a"] := by
  rw [kindsAt_of_le (precedence_le op)]
  exact propertyKinds_leaf d

theorem demandAt_leaf (op : ArithmeticOp) : leaf.demandAt (op.precedence + 1) = .free :=
  demandAt_of_le (precedence_le op)

theorem readsAt_leaf (op : ArithmeticOp) : ReadsAt d (op.precedence + 1) leaf := by
  cases op with
  | add => exact (readsBack_leaf d).multiplicative.readsAt
  | subtract => exact (readsBack_leaf d).multiplicative.readsAt
  | multiply => exact (readsBack_leaf d).unary
  | divide => exact (readsBack_leaf d).unary

theorem follows_chained (op : ArithmeticOp) {count : Nat} (h : Follows op.precedence tail) :
    Follows (op.precedence + 1) (chainedKinds op count ++ tail) := by
  cases count with
  | zero => exact h.mono (Nat.le_succ _)
  | succ count => exact follows_operator op _

/-- A chain asks for a level for each of its operators. -/
theorem reads_chained (op : ArithmeticOp) {count : Nat} (e : Expression)
    (h : Follows op.precedence tail) (start : Mark) {limit : Nat} (hlimit : count ≤ limit) :
    Reads d (fun inner => chainRest d (operatorAt? op.precedence)
      (tier d (op.precedence + 1) inner) start limit (.expression e))
      (chainedKinds op count ++ tail) (.expression (chained op count e)) tail ⟨count, true⟩ := by
  induction count generalizing e limit with
  | zero => exact reads_chainRest_nil _ _ (h.operator _ le_rfl) start limit _
  | succ count ih =>
      cases limit with
      | zero => omega
      | succ limit =>
          have hrest := ih (.arithmetic op e leaf) (Nat.le_of_succ_le_succ hlimit)
          have hstep := reads_chainRest_cons (readsAt_leaf op) (follows_chained op h) hrest
          rw [kindsAt_leaf, demandAt_leaf, Demand.free_andThen] at hstep
          exact hstep

theorem length_chainedKinds (op : ArithmeticOp) (count : Nat) :
    count ≤ (chainedKinds op count).length := by
  induction count with
  | zero => exact le_rfl
  | succ count ih =>
      simp only [chainedKinds, List.length_cons]
      omega

/-- A chain that spends all levels, behind an operand that does as well. -/
theorem reads_tier (op : ArithmeticOp) {count : Nat} {e : Expression} {kinds : List TokenKind}
    (hoperand : Reads d (tier d (op.precedence + 1)) (kinds ++ (chainedKinds op count ++ tail))
      (.expression e) (chainedKinds op count ++ tail) ⟨count, true⟩)
    (h : Follows op.precedence tail) :
    Reads d (tier d op.precedence) (kinds ++ (chainedKinds op count ++ tail))
      (.expression (chained op count e)) tail ⟨count, true⟩ := by
  have hprecedence : op.precedence = 1 ∨ op.precedence = 2 := by
    cases op <;> simp [ArithmeticOp.precedence]
  have hlimit : count ≤ (chainedKinds op count ++ tail).length := by
    rw [List.length_append]
    exact (length_chainedKinds op count).trans (Nat.le_add_right _ _)
  have hdemand : Demand.andThen ⟨count, true⟩ ⟨count, true⟩ = ⟨count, true⟩ := by
    simp [Demand.andThen]
  rw [tier_eq_chain hprecedence, ← hdemand]
  apply Reads.step reads_mark
  apply Reads.bind hoperand
  apply Reads.step reads_tokensLeft
  exact reads_chained op e h _ hlimit

theorem reads_additive_climbed {room : Nat} {e : Expression} {kinds : List TokenKind}
    (hfoot : ∀ tail, Follows 3 tail →
      Reads d (unary d) (kinds ++ tail) (.expression e) tail ⟨room, true⟩)
    (hends : Ends (tail.headD .endOfInput)) :
    Reads d (additive d) (kinds ++ climbedKinds room ++ tail) (.expression (climbed room e)) tail
      ⟨room, true⟩ := by
  have hadd : Follows 1 tail := hends.follows 1
  have hmultiply : Follows 2 (chainedKinds .add room ++ tail) := follows_chained .add hadd
  have hoperand := hfoot _ (@follows_chained _ .multiply room hmultiply)
  have hproduct := reads_tier .multiply hoperand hmultiply
  have hkinds : kinds ++ climbedKinds room ++ tail =
      (kinds ++ chainedKinds .multiply room) ++ (chainedKinds .add room ++ tail) := by
    simp [climbedKinds]
  rw [← List.append_assoc] at hproduct
  rw [hkinds]
  exact reads_tier .add hproduct hadd

theorem begins_foot (room : Nat) : Begins (footKinds room) := by
  match room with
  | 0 => exact ⟨_, _, rfl, by simp, by simp⟩
  | 1 => exact ⟨_, _, rfl, by simp, by simp⟩
  | room + 2 => exact begins_enclosed _

theorem begins_peak (room : Nat) : Begins (peakKinds room) :=
  (begins_foot room).append _

theorem reads_foot (room : Nat) (tail : List TokenKind) (h : Follows 3 tail) :
    Reads d (unary d) (footKinds room ++ tail) (.expression (foot room)) tail ⟨room, true⟩ := by
  match room with
  | 0 => exact reads_leaf h
  | 1 =>
      have hoperand :
          Reads d (fun inner => unary d inner >>= requireExpression (.identifier "a" :: tail))
            (.identifier "a" :: tail) leaf tail .free := by
        apply Reads.andThen_step (reads_leaf h)
        exact reads_pure
      apply Reads.step reads_peek
      apply Reads.step reads_mark
      apply Reads.step reads_next
      apply Reads.step reads_mark
      apply Reads.step reads_peek
      apply Reads.andThen_step (@Reads.nested d _ _ _ _ _
        (fun inner => inner .signed >>= requireExpression (.identifier "a" :: tail)) _ _ hoperand)
      exact reads_pure
  | room + 2 =>
      apply @reads_group d tail (peakKinds (room + 1)) _ ⟨room + 1, true⟩
      apply reads_disjunction_of_additive
      · exact reads_additive_climbed (reads_foot (room + 1)) ends_closeParen
      · exact ((begins_peak (room + 1)).headD _).1
      · exact .inr rfl

theorem reads_peak (room : Nat) (hends : Ends (tail.headD .endOfInput)) :
    Reads d (additive d) (peakKinds room ++ tail) (.expression (peak room)) tail ⟨room, true⟩ :=
  reads_additive_climbed (reads_foot room) hends

/-- A test behind the highest expression makes a filter of it. -/
theorem reads_isNullPeak (room : Nat) (hcloses : Closes tail) :
    Reads d (disjunction d) (peakKinds room ++ .keyword .is :: .keyword .null :: tail)
      (.filter (.isNull (peak room))) tail ⟨room, true⟩ := by
  have htest : Reads d (fun _ => nullTest (peak room)) (.keyword .null :: tail)
      (.isNull (peak room)) tail .free := by
    apply Reads.step (reads_acceptNot (by simp))
    apply Reads.step reads_expect
    exact reads_pure
  have hbeginsTest : beginsTest (tail.headD .endOfInput) = false :=
    @EndsOperand.beginsTest tail .or (.inr hcloses)
  apply reads_logical_single ?_ (hcloses.headD_ne .or)
  apply reads_logical_single ?_ (hcloses.headD_ne .and)
  apply reads_negation ((begins_peak room).headD _).1
  apply Reads.andThen_step
    (@reads_peak d (.keyword .is :: .keyword .null :: tail) room (ends_keyword .is))
  apply Reads.step reads_peek
  apply Reads.step reads_next
  apply Reads.andThen_step htest
  apply Reads.step reads_peek
  simp only [hbeginsTest, Bool.false_eq_true, if_false]
  exact reads_pure

end Readings

section Parsing

variable {room : Nat}

/-- One level is for the text as a whole, and the others are for its tree. -/
theorem parse_peakText (h : room < d.maxDepth) :
    Expression.parse d (peakText room) = .ok (peak room) := by
  have hadditive := @reads_peak d [] room ends_endOfInput
  have hreads := reads_disjunction_of_additive hadditive ((begins_peak room).headD _).1 (.inl rfl)
  rw [List.append_nil] at hreads
  have hanswers := answers_of_settles (spells_peak room) (settles_wholeExpression_of_reads hreads)
  exact hanswers.eq_ok rfl h

theorem parse_isNullPeakText (h : room < d.maxDepth) :
    Filter.parse d (peakText room ++ " " ++ "IS" ++ " " ++ "NULL") = .ok (.isNull (peak room)) := by
  have hspells := ((spells_peak room).spaced (@spells_keyword d .is rfl)).spaced
    (@spells_keyword d .null rfl)
  rw [List.append_assoc] at hspells
  have hanswers := answers_of_settles hspells
    (settles_wholeFilter_of_reads (reads_isNullPeak room (.inl rfl)))
  exact hanswers.eq_ok rfl h

end Parsing

end Summit

end GeoFilter
