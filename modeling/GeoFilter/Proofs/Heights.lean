import GeoFilter.Proofs.Grammar.Summit
import GeoFilter.Proofs.Parsing
import Mathlib.Order.Bounds.Defs

/-!
What the depth limit of a dialect means for the trees that texts denote. It does not bound the
number of operators on a path from the root to a leaf: that number goes up with the square of
the limit.
-/

namespace GeoFilter

open Grammar

variable {d : Dialect} {text : String}

/-- How high the arithmetic can be in what texts denote under a limit. -/
def greatestHeight : Nat → Nat
  | 0 => 0
  | 1 => 0
  | limit + 2 => (limit + 2) * (limit + 1) + 1

theorem greatestHeight_succ (room : Nat) : greatestHeight (room + 1) = additiveHeight room := by
  cases room with
  | zero => rfl
  | succ room =>
      simp only [greatestHeight, additiveHeight, unaryHeight]
      ring

/-- The heights of the arithmetic in the filters that texts denote. -/
def Filter.heightsOfTexts (d : Dialect) : Set Nat :=
  {height | ∃ text f, Filter.parse d text = .ok f ∧ f.arithmeticHeight = height}

/-- The heights of the arithmetic in the expressions that texts denote. -/
def Expression.heightsOfTexts (d : Dialect) : Set Nat :=
  {height | ∃ text e, Expression.parse d text = .ok e ∧ e.arithmeticHeight = height}

theorem arithmeticHeight_of_parseFilter {f : Filter} (h : Filter.parse d text = .ok f) :
    f.arithmeticHeight ≤ additiveHeight (d.maxDepth - 1) := by
  rcases ofTokens_of_parse h with ⟨_, _, herror⟩ | ⟨tokens, _, hrun⟩
  · cases herror
  · exact proceeds_wholeFilter.property hrun

theorem arithmeticHeight_of_parseExpression {e : Expression} (h : Expression.parse d text = .ok e) :
    e.arithmeticHeight ≤ additiveHeight (d.maxDepth - 1) := by
  rcases ofTokens_of_parse h with ⟨_, _, herror⟩ | ⟨tokens, _, hrun⟩
  · cases herror
  · exact proceeds_wholeExpression.property hrun

/-- In any dialect that accepts anything, the greatest height is reached by the filter and by
the expression of some text, and exceeded by none. -/
theorem isGreatest_heightsOfTexts (d : Dialect) (h : d.maxDepth ≠ 0) :
    IsGreatest (Filter.heightsOfTexts d) (greatestHeight d.maxDepth) ∧
      IsGreatest (Expression.heightsOfTexts d) (greatestHeight d.maxDepth) := by
  obtain ⟨room, hroom⟩ := Nat.exists_eq_succ_of_ne_zero h
  have hleft : room < d.maxDepth := by omega
  have hlimit : additiveHeight (d.maxDepth - 1) = greatestHeight d.maxDepth := by
    rw [hroom]
    exact (greatestHeight_succ room).symm
  have hpeak : (Summit.peak room).arithmeticHeight = greatestHeight d.maxDepth := by
    rw [Summit.arithmeticHeight_peak, hroom]
    exact (greatestHeight_succ room).symm
  have htest : (Filter.isNull (Summit.peak room)).arithmeticHeight = greatestHeight d.maxDepth :=
    (Nat.max_zero _).trans hpeak
  refine ⟨⟨⟨_, _, Summit.parse_isNullPeakText hleft, htest⟩, ?_⟩,
    ⟨⟨_, _, Summit.parse_peakText hleft, hpeak⟩, ?_⟩⟩
  · rintro height ⟨text, f, hparse, rfl⟩
    exact (arithmeticHeight_of_parseFilter hparse).trans hlimit.le
  · rintro height ⟨text, e, hparse, rfl⟩
    exact (arithmeticHeight_of_parseExpression hparse).trans hlimit.le

/-- Under a limit of 128 there are trees with more than sixteen thousand operators in a row. -/
theorem isGreatest_heightsOfTexts_standard :
    Dialect.standard.maxDepth ≠ 0 ∧ IsGreatest (Filter.heightsOfTexts .standard) 16257 ∧
      IsGreatest (Expression.heightsOfTexts .standard) 16257 :=
  ⟨by decide, isGreatest_heightsOfTexts .standard (by decide)⟩

/-- The limit is not a bound for the number of operators on a path. -/
theorem not_forall_arithmeticHeight_le_maxDepth :
    ¬∀ (d : Dialect) (text : String),
      (∀ f, Filter.parse d text = .ok f → f.arithmeticHeight ≤ d.maxDepth) ∧
        ∀ e, Expression.parse d text = .ok e → e.arithmeticHeight ≤ d.maxDepth := by
  intro h
  obtain ⟨e, he, hheight⟩ := @exists_ok_and _ (Expression.parse (shallow 3) "a * b * c + d + e")
    (fun e => decide (3 < e.arithmeticHeight)) (by decide +kernel)
  have hlow := (h _ _).2 e he
  have hhigh := of_decide_eq_true hheight
  exact absurd hlow (Nat.not_le.mpr hhigh)

end GeoFilter
