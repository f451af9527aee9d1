import GeoFilter.Number.Shortest
import GeoFilter.Proofs.Number.Decimal

/-!
The shortest decimal form of a finite number reads back as its magnitude. A candidate is
taken only when it does, and the exact value, which stands in when there is none, is
representable.
-/

namespace GeoFilter.Number

open Float.Model Float.Model.UnpackedFloat

section Signs

variable {x : Float}

theorem unpack_neg (h : x.isFinite = true) : (-x).toModel.unpack = x.toModel.unpack.neg :=
  (finiteParts_unpack h).neg.unpack_pack

theorem unpack_abs (h : x.isFinite = true) : x.abs.toModel.unpack = x.toModel.unpack.abs :=
  (finiteParts_unpack h).abs.unpack_pack

theorem FiniteParts.isFinite {u : UnpackedFloat} (h : FiniteParts u) : u.isFinite = true := by
  cases h with
  | zero s => rfl
  | finite s h => rfl

theorem isFinite_abs (h : x.isFinite = true) : x.abs.isFinite = true := by
  have hparts := (finiteParts_unpack h).abs.isFinite
  rw [← unpack_abs h] at hparts
  exact hparts

/-- A number is its magnitude, with a minus sign in front if its sign bit is set. -/
theorem ite_neg_abs (h : x.isFinite = true) : (if isNegative x then -x.abs else x.abs) = x := by
  have habs := unpack_abs h
  have hneg := unpack_neg (isFinite_abs h)
  rw [habs] at hneg
  have hparts : x.toModel.unpack = .zero (signOf x) ∨
      ∃ (m : Nat) (e : Int) (hr : Representable m e),
        x.toModel.unpack = .finite (signOf x) m e hr.pos := by
    rcases unpack_of_isFinite h with ⟨hzero, -⟩ | ⟨m, e, hr, hfinite, -⟩
    · exact .inl hzero
    · exact .inr ⟨m, e, hr, hfinite⟩
  unfold signOf at hparts
  by_cases hsign : isNegative x = true
  · rw [if_pos hsign] at hparts ⊢
    apply unpack_injective
    rcases hparts with hzero | ⟨m, e, hr, hfinite⟩
    · rw [hneg, hzero]
      rfl
    · rw [hneg, hfinite]
      rfl
  · rw [if_neg hsign] at hparts ⊢
    apply unpack_injective
    rcases hparts with hzero | ⟨m, e, hr, hfinite⟩
    · rw [habs, hzero]
      rfl
    · rw [habs, hfinite]
      rfl

end Signs

theorem Dyadic.value_toDecimal (m : Nat) (e : Int) :
    (Dyadic.toDecimal ⟨m, e⟩).value = m * 2 ^ e := by
  unfold Dyadic.toDecimal Decimal.ofNat
  simp only [Nat.pow_eq]
  by_cases hneg : e < 0
  · simp only [hneg, if_true]
    rw [Decimal.value_normal, natOfDigits_toDigits]
    obtain ⟨k, rfl⟩ : ∃ k : Nat, e = -(k : Int) := ⟨e.natAbs, by omega⟩
    rw [zpow_neg, zpow_neg, zpow_natCast, zpow_natCast, Int.natAbs_neg, Int.natAbs_natCast]
    have hten : (10 : ℚ) ^ k = 2 ^ k * 5 ^ k := by
      rw [← mul_pow]
      norm_num
    rw [hten]
    push_cast
    field_simp
  · simp only [hneg, if_false]
    rw [Decimal.value_normal, natOfDigits_toDigits]
    obtain ⟨k, rfl⟩ : ∃ k : Nat, e = k := ⟨e.natAbs, by omega⟩
    rw [zpow_natCast, Int.natAbs_natCast]
    push_cast
    ring

theorem Decimal.isNormal_ofNat (n : Nat) (exponent : Int) : (Decimal.ofNat n exponent).IsNormal :=
  isNormal_normal (fun _ hc => Nat.isDigit_of_mem_toDigits (by decide) (by decide) hc) exponent

theorem isNormal_toDecimal (x : Dyadic) : x.toDecimal.IsNormal := by
  unfold Dyadic.toDecimal
  split
  · exact Decimal.isNormal_ofNat _ _
  · exact Decimal.isNormal_ofNat _ _

theorem shortestOf_spec {tie : TieRule} {x : Float} {r : Ratio} {count : Nat} {d : Decimal}
    (h : shortestOf tie x r count = some d) : d.toFloat = x ∧ d.IsNormal := by
  unfold shortestOf at h
  have hmem := List.mem_of_find?_eq_some h
  have hread := List.find?_some h
  obtain ⟨n, -, rfl⟩ := List.mem_map.mp hmem
  exact ⟨by simpa using hread, Decimal.isNormal_ofNat _ _⟩

theorem isNormal_shortest (tie : TieRule) (x : Float) : (shortest tie x).IsNormal := by
  unfold shortest
  simp only
  split
  · exact .inl rfl
  · cases hfound : (List.map (· + 1) (List.range 17)).findSome?
        (shortestOf tie x.abs (Dyadic.ofFloat x.abs).toRatio) with
    | none => exact isNormal_toDecimal _
    | some d =>
        obtain ⟨count, -, hcount⟩ := List.exists_of_findSome?_eq_some hfound
        exact (shortestOf_spec hcount).2

/-- Reading the shortest decimal form of a finite number gives back its magnitude. -/
theorem toFloat_shortest (tie : TieRule) {x : Float} (h : x.isFinite = true) :
    (shortest tie x).toFloat = x.abs := by
  have hfinite := isFinite_abs h
  have hpositive : x.abs.toModel.unpack = x.toModel.unpack.abs := unpack_abs h
  unfold shortest
  simp only
  split
  · rename_i hzero
    rcases unpack_of_isFinite hfinite with ⟨hparts, -⟩ | ⟨m, e, hr, -, hparts⟩
    · apply unpack_injective
      rcases unpack_of_isFinite h with ⟨hx, -⟩ | ⟨m, e, hr, hx, -⟩
      · rw [hpositive, hx]
        rfl
      · rw [hpositive, hx] at hparts
        cases hparts
    · rw [hparts] at hzero
      exact absurd hzero hr.pos.ne'
  · rename_i hsignificand
    cases hfound : (List.map (· + 1) (List.range 17)).findSome?
        (shortestOf tie x.abs (Dyadic.ofFloat x.abs).toRatio) with
    | some d =>
        obtain ⟨count, -, hcount⟩ := List.exists_of_findSome?_eq_some hfound
        exact (shortestOf_spec hcount).1
    | none =>
        rcases unpack_of_isFinite hfinite with ⟨-, hparts⟩ | ⟨m, e, hr, hparts, hfraction⟩
        · rw [hparts] at hsignificand
          exact absurd rfl hsignificand
        · apply unpack_injective
          rw [Option.getD_none, hfraction, Decimal.unpack_toFloat hr (Dyadic.value_toDecimal m e),
            hparts]
          rcases unpack_of_isFinite h with ⟨hx, -⟩ | ⟨m', e', hr', hx, -⟩
          · rw [hpositive, hx] at hparts
            cases hparts
          · rw [hpositive, hx] at hparts
            simp only [UnpackedFloat.abs, UnpackedFloat.finite.injEq] at hparts
            rw [← hparts.1]

end GeoFilter.Number
