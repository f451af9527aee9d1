import GeoFilter.Number.Decimal
import GeoFilter.Proofs.Number.Binary64

/-!
Rounding leaves a value alone that the format can represent. From this it follows for
products, quotients and decimal numbers that a representable exact result is the result.
Values are compared as rational numbers.
-/

namespace GeoFilter.Number

open Float.Model Float.Model.UnpackedFloat

/-- The position of the first bit encloses a value between two powers of two. -/
theorem two_pow_totalExponent {m : Nat} (hpos : 0 < m) (e : Int) :
    (2 : ℚ) ^ (totalExponent m e - 1) ≤ m * 2 ^ e ∧
      (m : ℚ) * 2 ^ e < 2 ^ totalExponent m e := by
  have hlow : ((2 ^ m.log2 : Nat) : ℚ) ≤ m := by
    exact_mod_cast Nat.log2_self_le (by omega)
  have hhigh : (m : ℚ) < ((2 ^ (m.log2 + 1) : Nat) : ℚ) := by
    exact_mod_cast Nat.lt_log2_self
  have hscale : (0 : ℚ) < 2 ^ e := by positivity
  have hsplit : totalExponent m e - 1 = (m.log2 : Int) + e := by
    unfold totalExponent
    ring
  have hsplit' : totalExponent m e = ((m.log2 + 1 : Nat) : Int) + e := by
    unfold totalExponent
    push_cast
    ring
  constructor
  · rw [hsplit, zpow_add₀ two_ne_zero, zpow_natCast]
    push_cast at hlow
    exact mul_le_mul_of_nonneg_right hlow hscale.le
  · rw [hsplit', zpow_add₀ two_ne_zero, zpow_natCast]
    push_cast at hhigh
    exact mul_lt_mul_of_pos_right hhigh hscale

/-- The position of the first bit depends on the value only. -/
theorem totalExponent_congr {m n : Nat} {e f : Int} (hm : 0 < m) (hn : 0 < n)
    (h : (m : ℚ) * 2 ^ e = n * 2 ^ f) : totalExponent m e = totalExponent n f := by
  obtain ⟨hm1, hm2⟩ := two_pow_totalExponent hm e
  obtain ⟨hn1, hn2⟩ := two_pow_totalExponent hn f
  rw [h] at hm1 hm2
  have h1 := (zpow_lt_zpow_iff_right₀ (one_lt_two (α := ℚ))).mp (hm1.trans_lt hn2)
  have h2 := (zpow_lt_zpow_iff_right₀ (one_lt_two (α := ℚ))).mp (hn1.trans_lt hm2)
  omega

theorem Representable.targetExponent_eq {m : Nat} {e : Int} (h : Representable m e) :
    Format.binary64.targetExponent (totalExponent m e) = e := by
  obtain ⟨hpos, hlt, hlow, hhigh, hnormal⟩ := h
  have hlog : m.log2 < 53 := (Nat.log2_lt (by omega)).mpr hlt
  have hnormal' : m.log2 = 52 ∨ e = -1074 := by
    rcases hnormal with h52 | hleast
    · exact .inl ((Nat.log2_eq_iff (by omega)).mpr ⟨h52, hlt⟩)
    · exact .inr hleast
  simp only [Format.targetExponent, totalExponent, Format.mantissaBits, Format.minExponent]
  norm_num
  omega

theorem shiftRight_exact (m k : Nat) :
    ((⟨m * 2 ^ k, false, false⟩ : ExtendedMantissa) >>> k) = ⟨m, false, false⟩ := by
  induction k generalizing m with
  | zero => simp [HShiftRight.hShiftRight, Nat.repeat]
  | succ k ih =>
      have hstep : ((⟨m * 2 ^ (k + 1), false, false⟩ : ExtendedMantissa) >>> (k + 1)) =
          ((⟨m * 2 * 2 ^ k, false, false⟩ : ExtendedMantissa) >>> k).shiftRightOne := by
        rw [pow_succ, mul_comm (2 ^ k) 2, ← mul_assoc]
        rfl
      rw [hstep, ih]
      simp [ExtendedMantissa.shiftRightOne]

theorem shiftToTargetExponent_exact {m n : Nat} {e f : Int} (h : Representable n f)
    (hm : 0 < m) (hv : (m : ℚ) * 2 ^ e = n * 2 ^ f) (hle : e ≤ f) :
    shiftToTargetExponent Format.binary64 m e .exact = (⟨n, false, false⟩, f) := by
  have htarget : Format.binary64.targetExponent (totalExponent m e) = f := by
    rw [totalExponent_congr hm h.pos hv, h.targetExponent_eq]
  obtain ⟨k, hk⟩ : ∃ k : Nat, f = e + k := ⟨(f - e).toNat, by omega⟩
  have hmn : m = n * 2 ^ k := by
    have hscale : (2 : ℚ) ^ e ≠ 0 := by positivity
    rw [hk, add_comm, zpow_add₀ two_ne_zero, zpow_natCast, ← mul_assoc] at hv
    exact_mod_cast mul_right_cancel₀ hscale hv
  have hshift : (f - e).toNat = k := by omega
  unfold shiftToTargetExponent
  rw [htarget, shiftToExponent, hshift, hmn]
  simp only [ExtendedMantissa.ofMantissaAndAccuracy, shiftRight_exact, ← hk]

/-- A representable value is its own rounding. -/
theorem roundWithAccuracy_exact (s : Sign) {m n : Nat} {e f : Int} (h : Representable n f)
    (hm : 0 < m) (hv : (m : ℚ) * 2 ^ e = n * 2 ^ f) (hle : e ≤ f) :
    roundWithAccuracy Format.binary64 s m e .exact = .finite s n f h.pos := by
  have hpos := h.pos
  have hfirst := shiftToTargetExponent_exact h hm hv hle
  have hsecond := shiftToTargetExponent_exact h hpos rfl le_rfl
  have hrounded : (⟨n, false, false⟩ : ExtendedMantissa).roundedMantissa = n := rfl
  unfold roundWithAccuracy
  simp only [hfirst, hrounded, hsecond]
  rw [dif_neg (by omega)]

theorem mul_exact (s t : Sign) {m₁ m₂ n : Nat} {e₁ e₂ f : Int} (h₁ : 0 < m₁) (h₂ : 0 < m₂)
    (h : Representable n f) (hv : (m₁ : ℚ) * 2 ^ e₁ * (m₂ * 2 ^ e₂) = n * 2 ^ f)
    (hle : e₁ + e₂ ≤ f) :
    UnpackedFloat.mul Format.binary64 (.finite s m₁ e₁ h₁) (.finite t m₂ e₂ h₂) =
      .finite (s * t) n f h.pos := by
  apply roundWithAccuracy_exact (s * t) h (Nat.mul_pos h₁ h₂) _ hle
  rw [← hv, zpow_add₀ two_ne_zero]
  push_cast
  ring

/-- The quotient is taken with enough bits for a representable value to leave no rest. -/
theorem divCore_exact {m₁ m₂ n : Nat} {e₁ e₂ f : Int} (h₁ : 0 < m₁) (h₂ : 0 < m₂)
    (h : Representable n f) (hv : (m₁ : ℚ) * 2 ^ e₁ = n * 2 ^ f * (m₂ * 2 ^ e₂)) :
    ∃ (k : Nat) (g : Int), f = g + k ∧
      divCore Format.binary64 m₁ e₁ m₂ e₂ = (n * 2 ^ k, g, .exact) := by
  have hbits : totalExponent m₁ e₁ - totalExponent m₂ e₂ ≤ totalExponent n f := by
    have hlow := (two_pow_totalExponent h₁ e₁).1
    have hhigh := (two_pow_totalExponent h₂ e₂).2
    have hresult := (two_pow_totalExponent h.pos f).2
    have hpos : (0 : ℚ) < m₂ * 2 ^ e₂ := by
      have : (0 : ℚ) < m₂ := by exact_mod_cast h₂
      positivity
    have hprod : (2 : ℚ) ^ (totalExponent m₁ e₁ - 1) <
        2 ^ (totalExponent n f + totalExponent m₂ e₂) := by
      rw [zpow_add₀ two_ne_zero]
      rw [hv] at hlow
      refine hlow.trans_lt ?_
      exact mul_lt_mul'' hresult hhigh (by positivity) hpos.le
    have := (zpow_lt_zpow_iff_right₀ (one_lt_two (α := ℚ))).mp hprod
    omega
  have htarget := h.targetExponent_eq
  have hmono : Format.binary64.targetExponent (totalExponent m₁ e₁ - totalExponent m₂ e₂) ≤ f := by
    rw [← htarget]
    simp only [Format.targetExponent]
    omega
  set g := min (e₁ - e₂)
    (Format.binary64.targetExponent (totalExponent m₁ e₁ - totalExponent m₂ e₂)) with hg
  obtain ⟨k, hk⟩ : ∃ k : Nat, f = g + k := ⟨(f - g).toNat, by omega⟩
  obtain ⟨j, hj⟩ : ∃ j : Nat, e₁ = e₂ + g + j := ⟨(e₁ - e₂ - g).toNat, by omega⟩
  have hshift : (e₁ - e₂ - g).toNat = j := by omega
  have hnat : m₁ <<< j = n * 2 ^ k * m₂ := by
    have hscale : (2 : ℚ) ^ (e₂ + g) ≠ 0 := by positivity
    have hq : (m₁ : ℚ) * 2 ^ j * 2 ^ (e₂ + g) = n * 2 ^ k * m₂ * 2 ^ (e₂ + g) := by
      rw [hj, hk, zpow_add₀ two_ne_zero (e₂ + g), zpow_add₀ two_ne_zero g, zpow_natCast,
        zpow_natCast] at hv
      rw [zpow_add₀ two_ne_zero] at hv ⊢
      linear_combination hv
    rw [Nat.shiftLeft_eq]
    exact_mod_cast mul_right_cancel₀ hscale hq
  refine ⟨k, g, hk, ?_⟩
  unfold divCore
  simp only [← hg, hshift, hnat, Nat.mul_div_cancel _ h₂, Nat.mul_mod_left, accuracyOfFraction,
    if_true]

theorem div_exact (s t : Sign) {m₁ m₂ n : Nat} {e₁ e₂ f : Int} (h₁ : 0 < m₁) (h₂ : 0 < m₂)
    (h : Representable n f) (hv : (m₁ : ℚ) * 2 ^ e₁ = n * 2 ^ f * (m₂ * 2 ^ e₂)) :
    UnpackedFloat.div Format.binary64 (.finite s m₁ e₁ h₁) (.finite t m₂ e₂ h₂) =
      .finite (s / t) n f h.pos := by
  obtain ⟨k, g, hk, hcore⟩ := divCore_exact h₁ h₂ h hv
  have hround : roundWithAccuracy Format.binary64 (s / t) (n * 2 ^ k) g .exact =
      .finite (s / t) n f h.pos := by
    apply roundWithAccuracy_exact (s / t) h (Nat.mul_pos h.pos (by positivity)) _ (by omega)
    rw [hk, zpow_add₀ two_ne_zero, zpow_natCast]
    push_cast
    ring
  unfold UnpackedFloat.div
  simp only [hcore, hround]

end GeoFilter.Number
