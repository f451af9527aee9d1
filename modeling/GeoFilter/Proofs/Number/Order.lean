import Mathlib

/-!
The order of floating-point numbers. Every defined number has a rank, the two zeros have the
same one, and comparing numbers compares their ranks. Being less or equal is therefore
transitive, and total between defined numbers.
-/

namespace GeoFilter.Number

open Float.Model Float.Model.UnpackedFloat

/-- The place of a number among all numbers. The infinities enclose the others, and numbers of
one sign go by their exponents and then by their significands. -/
def rankOf : UnpackedFloat → ℤ ×ₗ ℤ ×ₗ ℤ
  | .infinity .negative => toLex (-2, toLex (0, 0))
  | .finite .negative m e _ => toLex (-1, toLex (-e, -m))
  | .zero _ | .notANumber => toLex (0, toLex (0, 0))
  | .finite .positive m e _ => toLex (1, toLex (e, m))
  | .infinity .positive => toLex (2, toLex (0, 0))

section Ranks

variable {u v : UnpackedFloat}

theorem compare_eq_lt (hu : u.isNaN = false) (hv : v.isNaN = false) :
    u.compare v = some .lt ↔ rankOf u < rankOf v := by
  rcases u with (_ | _) | _ | _ | ⟨_ | _, m, e, hm⟩ <;>
    rcases v with (_ | _) | _ | _ | ⟨_ | _, m', e', hm'⟩ <;>
    simp_all [UnpackedFloat.compare, UnpackedFloat.isNaN, rankOf, Prod.Lex.toLex_lt_toLex,
      Int.compare_eq_lt, Int.compare_eq_gt, Nat.compare_eq_lt, Nat.compare_eq_gt,
      Ordering.then_eq_lt, Ordering.then_eq_gt]
  · rfl

theorem compare_eq_eq (hu : u.isNaN = false) (hv : v.isNaN = false) :
    u.compare v = some .eq ↔ rankOf u = rankOf v := by
  rcases u with (_ | _) | _ | _ | ⟨_ | _, m, e, hm⟩ <;>
    rcases v with (_ | _) | _ | _ | ⟨_ | _, m', e', hm'⟩ <;>
    simp_all [UnpackedFloat.compare, UnpackedFloat.isNaN, rankOf, Ordering.then_eq_eq]
  · rfl
  · rfl

/-- What is undefined is not compared with anything. -/
theorem isNaN_of_compare {order : Ordering} (h : u.compare v = some order) :
    u.isNaN = false ∧ v.isNaN = false := by
  cases u <;> cases v <;> simp_all [UnpackedFloat.compare, UnpackedFloat.isNaN]

end Ranks

section Floats

variable {a b c : Float}

theorem lt_iff_compare : a < b ↔ a.toModel.unpack.compare b.toModel.unpack = some .lt := by
  change a.lt b = true ↔ _
  rw [Float.lt, decide_eq_true_eq]
  change a.toModel.lt b.toModel = true ↔ _
  simp [Float.Model.lt, UnpackedFloat.lt]

theorem beq_iff_compare : (a == b) = true ↔ a.toModel.unpack.compare b.toModel.unpack = some .eq := by
  change a.toModel.beq b.toModel = true ↔ _
  simp [Float.Model.beq, UnpackedFloat.beq]

theorem le_iff_lt_or_beq : a ≤ b ↔ a < b ∨ (a == b) = true := by
  rw [lt_iff_compare, beq_iff_compare]
  change a.le b = true ↔ _
  rw [Float.le, decide_eq_true_eq]
  change a.toModel.le b.toModel = true ↔ _
  rw [Float.Model.le, UnpackedFloat.le]
  cases a.toModel.unpack.compare b.toModel.unpack with
  | none => simp
  | some order => cases order <;> simp

/-- The place of a number among all numbers. -/
def rank (x : Float) : ℤ ×ₗ ℤ ×ₗ ℤ :=
  rankOf x.toModel.unpack

theorem lt_iff_rank : a < b ↔ a.isNaN = false ∧ b.isNaN = false ∧ rank a < rank b := by
  rw [lt_iff_compare]
  constructor
  · intro h
    obtain ⟨ha, hb⟩ := isNaN_of_compare h
    exact ⟨ha, hb, (compare_eq_lt ha hb).mp h⟩
  · rintro ⟨ha, hb, hrank⟩
    exact (compare_eq_lt ha hb).mpr hrank

theorem beq_iff_rank : (a == b) = true ↔ a.isNaN = false ∧ b.isNaN = false ∧ rank a = rank b := by
  rw [beq_iff_compare]
  constructor
  · intro h
    obtain ⟨ha, hb⟩ := isNaN_of_compare h
    exact ⟨ha, hb, (compare_eq_eq ha hb).mp h⟩
  · rintro ⟨ha, hb, hrank⟩
    exact (compare_eq_eq ha hb).mpr hrank

theorem le_iff_rank : a ≤ b ↔ a.isNaN = false ∧ b.isNaN = false ∧ rank a ≤ rank b := by
  rw [le_iff_lt_or_beq, lt_iff_rank, beq_iff_rank, le_iff_lt_or_eq]
  tauto

theorem float_le_refl (ha : a.isNaN = false) : a ≤ a :=
  le_iff_rank.mpr ⟨ha, ha, le_rfl⟩

theorem float_le_trans (hab : a ≤ b) (hbc : b ≤ c) : a ≤ c := by
  obtain ⟨ha, -, hrank⟩ := le_iff_rank.mp hab
  obtain ⟨-, hc, hrank'⟩ := le_iff_rank.mp hbc
  exact le_iff_rank.mpr ⟨ha, hc, hrank.trans hrank'⟩

theorem float_le_of_lt (h : a < b) : a ≤ b :=
  le_iff_lt_or_beq.mpr (.inl h)

/-- Two defined numbers are in order one way or the other. -/
theorem float_le_of_not_lt (ha : a.isNaN = false) (hb : b.isNaN = false) (h : ¬b < a) : a ≤ b := by
  refine le_iff_rank.mpr ⟨ha, hb, not_lt.mp fun hrank => h ?_⟩
  exact lt_iff_rank.mpr ⟨hb, ha, hrank⟩

theorem float_not_lt_of_le (h : a ≤ b) : ¬b < a := by
  intro hlt
  exact (le_iff_rank.mp h).2.2.not_gt (lt_iff_rank.mp hlt).2.2

theorem float_beq_of_le_of_le (hab : a ≤ b) (hba : b ≤ a) : (a == b) = true := by
  obtain ⟨ha, hb, hrank⟩ := le_iff_rank.mp hab
  exact beq_iff_rank.mpr ⟨ha, hb, hrank.antisymm (le_iff_rank.mp hba).2.2⟩

end Floats

end GeoFilter.Number
