import GeoFilter.Proofs.Number.Rounding

/-!
The number nearest to a decimal number is the decimal number itself wherever the format
can represent it. Short digits with a small exponent go through a table of powers of ten
and one operation, all others through the exact product or quotient.
-/

namespace GeoFilter.Number

open Float.Model Float.Model.UnpackedFloat

/-- Rounding also leaves a representable value alone that is given with too few bits. -/
theorem round_exact (s : Sign) {m n : Nat} {e f : Int} (h : Representable n f) (hm : 0 < m)
    (hv : (m : ℚ) * 2 ^ e = n * 2 ^ f) :
    round Format.binary64 s m e = .finite s n f h.pos := by
  have htarget : Format.binary64.targetExponent (totalExponent m e) = f := by
    rw [totalExponent_congr hm h.pos hv, h.targetExponent_eq]
  have hpos : 0 < m <<< (e - f).toNat := by
    rw [Nat.shiftLeft_eq]
    positivity
  unfold UnpackedFloat.round UnpackedFloat.decreaseExponent
  simp only [htarget]
  apply roundWithAccuracy_exact s h hpos _ (by omega)
  have hsplit : e = (e - ((e - f).toNat : Int)) + ((e - f).toNat : Int) := by omega
  rw [Nat.shiftLeft_eq, ← hv]
  conv_rhs => rw [hsplit, zpow_add₀ two_ne_zero, zpow_natCast]
  push_cast
  ring

/-- A natural number of at most 53 bits, moved up to use all of them. -/
theorem exists_representable {m k : Nat} (hpos : 0 < m) (hlt : m < 2 ^ 53) (hk : k ≤ 900) :
    ∃ (n : Nat) (f : Int), Representable n f ∧ (m : ℚ) * 2 ^ k = n * 2 ^ f := by
  have hlog : m.log2 ≤ 52 := by
    have := (Nat.log2_lt (by omega)).mpr hlt
    omega
  have hlow : 2 ^ 52 ≤ m * 2 ^ (52 - m.log2) := by
    calc 2 ^ 52 = 2 ^ m.log2 * 2 ^ (52 - m.log2) := by rw [← pow_add]; congr 1; omega
      _ ≤ m * 2 ^ (52 - m.log2) := Nat.mul_le_mul_right _ (Nat.log2_self_le (by omega))
  have hhigh : m * 2 ^ (52 - m.log2) < 2 ^ 53 := by
    calc m * 2 ^ (52 - m.log2) < 2 ^ (m.log2 + 1) * 2 ^ (52 - m.log2) :=
          Nat.mul_lt_mul_of_pos_right Nat.lt_log2_self (by positivity)
      _ = 2 ^ 53 := by rw [← pow_add]; congr 1; omega
  refine ⟨m * 2 ^ (52 - m.log2), k - ((52 - m.log2 : Nat) : Int), ?_, ?_⟩
  · exact ⟨by positivity, hhigh, by omega, by omega, .inl hlow⟩
  · rw [zpow_sub₀ two_ne_zero, zpow_natCast, zpow_natCast]
    push_cast
    field_simp

theorem unpack_ofNat {m n : Nat} {f : Int} (h : Representable n f) (hm : 0 < m)
    (hv : (m : ℚ) = n * 2 ^ f) :
    (Float.Model.ofNat m).unpack = .finite .positive n f h.pos := by
  have hround : UnpackedFloat.ofNat Format.binary64 m = .finite .positive n f h.pos := by
    have hcompare : compare (m : Int) 0 = .gt := by
      rw [compare_gt_iff_gt]
      omega
    unfold UnpackedFloat.ofNat UnpackedFloat.ofInt UnpackedFloat.normalize
    simp only [hcompare, Int.toNat_natCast]
    apply round_exact .positive h hm
    rw [zpow_zero, mul_one, hv]
  unfold Float.Model.ofNat
  rw [hround]
  exact unpack_pack .positive h

/-- The table of powers of ten agrees with the conversion of natural numbers. -/
theorem powersOfTen_eq : ∀ e : Fin Float.exactlyRepresentablePowersOfTen.size,
    Float.exactlyRepresentablePowersOfTen[e] = .ofModel (Float.Model.ofNat (10 ^ e.val)) := by
  decide +kernel

theorem unpack_powerOfTen {e : Nat} (he : e < Float.exactlyRepresentablePowersOfTen.size) :
    ∃ (n : Nat) (f : Int) (h : Representable n f),
      Float.exactlyRepresentablePowersOfTen[e].toModel.unpack = .finite .positive n f h.pos ∧
        (n : ℚ) * 2 ^ f = 10 ^ e := by
  have hsmall : e ≤ 22 := Nat.le_of_lt_succ he
  have hfive : 5 ^ e < 2 ^ 53 := by
    calc 5 ^ e ≤ 5 ^ 22 := Nat.pow_le_pow_right (by omega) hsmall
      _ < 2 ^ 53 := by norm_num
  obtain ⟨n, f, h, hv⟩ := exists_representable (k := e) (by positivity) hfive (by omega)
  have hten : ((10 ^ e : Nat) : ℚ) = n * 2 ^ f := by
    rw [← hv]
    push_cast
    rw [← mul_pow]
    norm_num
  have htable := powersOfTen_eq ⟨e, he⟩
  refine ⟨n, f, h, ?_, ?_⟩
  · rw [← unpack_ofNat h (by positivity) hten]
    exact congrArg (fun x => x.toModel.unpack) htable
  · rw [← hten]
    push_cast
    ring

theorem unpack_toFloat {m : Nat} (hpos : 0 < m) (hlt : m < 2 ^ 53) :
    ∃ (n : Nat) (f : Int) (h : Representable n f),
      m.toUInt64.toFloat.toModel.unpack = .finite .positive n f h.pos ∧ (n : ℚ) * 2 ^ f = m := by
  obtain ⟨n, f, h, hv⟩ := exists_representable (k := 0) hpos hlt (by omega)
  have hm : m.toUInt64.toNat = m := by
    rw [Nat.toUInt64_eq, UInt64.toNat_ofNat']
    omega
  have hv' : (m : ℚ) = n * 2 ^ f := by
    rw [← hv, pow_zero, mul_one]
  refine ⟨n, f, h, ?_, hv'.symm⟩
  rw [← unpack_ofNat h hpos hv']
  change (Float.Model.ofNat m.toUInt64.toNat).unpack = _
  rw [hm]

/-- The range of the representable values. -/
theorem Representable.bounds {n : Nat} {f : Int} (h : Representable n f) :
    (2 : ℚ) ^ (-1074 : Int) ≤ n * 2 ^ f ∧ (n : ℚ) * 2 ^ f < 2 ^ (1024 : Int) := by
  obtain ⟨hpos, hlt, hlow, hhigh, -⟩ := h
  have hn : (1 : ℚ) ≤ n := by exact_mod_cast hpos
  have hn' : (n : ℚ) < 2 ^ (53 : Int) := by exact_mod_cast hlt
  have hscale : (0 : ℚ) < 2 ^ f := by positivity
  constructor
  · calc (2 : ℚ) ^ (-1074 : Int) ≤ 2 ^ f := zpow_le_zpow_right₀ one_le_two hlow
      _ ≤ n * 2 ^ f := le_mul_of_one_le_left hscale.le hn
  · calc (n : ℚ) * 2 ^ f < 2 ^ (53 : Int) * 2 ^ f := mul_lt_mul_of_pos_right hn' hscale
      _ = 2 ^ (53 + f) := (zpow_add₀ two_ne_zero _ _).symm
      _ ≤ 2 ^ (1024 : Int) := zpow_le_zpow_right₀ one_le_two (by omega)

theorem Representable.value_pos {n : Nat} {f : Int} (h : Representable n f) :
    (0 : ℚ) < n * 2 ^ f := by
  have hn : (0 : ℚ) < n := by exact_mod_cast h.pos
  positivity

theorem two_pow_le_scientific {m : Nat} (hm : 0 < m) {e : Int} (he : 1024 ≤ e) :
    (2 : ℚ) ^ (1024 : Int) ≤ m * 10 ^ e := by
  have hone : (1 : ℚ) ≤ m := by exact_mod_cast hm
  calc (2 : ℚ) ^ (1024 : Int) ≤ 10 ^ (1024 : Int) :=
        zpow_le_zpow_left₀ (by omega) (by norm_num) (by norm_num)
    _ ≤ 10 ^ e := zpow_le_zpow_right₀ (by norm_num) he
    _ ≤ m * 10 ^ e := le_mul_of_one_le_left (by positivity) hone

theorem scientific_lt_two_pow {m : Nat} {e : Int} (he : e < -((2 ^ 11 : Int) + m.log2)) :
    (m : ℚ) * 10 ^ e < 2 ^ (-1074 : Int) := by
  have hbits : (m : ℚ) < 2 ^ ((m.log2 : Int) + 1) := by
    have : m < 2 ^ (m.log2 + 1) := Nat.lt_log2_self
    exact_mod_cast this
  have hten : (10 : ℚ) ^ e ≤ 2 ^ e := by
    have hneg : e = -((-e).toNat : Int) := by omega
    rw [hneg, zpow_neg, zpow_neg, zpow_natCast, zpow_natCast]
    exact inv_anti₀ (by positivity) (pow_le_pow_left₀ (by norm_num) (by norm_num) _)
  calc (m : ℚ) * 10 ^ e < 2 ^ ((m.log2 : Int) + 1) * 10 ^ e :=
        mul_lt_mul_of_pos_right hbits (by positivity)
    _ ≤ 2 ^ ((m.log2 : Int) + 1) * 2 ^ e := mul_le_mul_of_nonneg_left hten (by positivity)
    _ = 2 ^ ((m.log2 : Int) + 1 + e) := (zpow_add₀ two_ne_zero _ _).symm
    _ ≤ 2 ^ (-1074 : Int) := zpow_le_zpow_right₀ one_le_two (by omega)

/-- The limits on the exponent keep away from representable values. -/
theorem Representable.scientific_bounds {n : Nat} {f : Int} (h : Representable n f) {m : Nat}
    {e : Int} (hm : 0 < m) (hv : (m : ℚ) * 10 ^ e = n * 2 ^ f) :
    e ≤ 2 ^ 11 ∧ -((2 ^ 11 : Int) + m.log2) ≤ e := by
  obtain ⟨hlow, hhigh⟩ := h.bounds
  rw [← hv] at hlow hhigh
  constructor
  · by_contra hlarge
    exact absurd (two_pow_le_scientific hm (by omega)) (not_le.mpr hhigh)
  · by_contra hsmall
    exact absurd (scientific_lt_two_pow (not_le.mp hsmall)) (not_lt.mpr hlow)

theorem Representable.full_of_one_le {n : Nat} {f : Int} (h : Representable n f)
    (hone : (1 : ℚ) ≤ n * 2 ^ f) : 2 ^ 52 ≤ n ∧ -52 ≤ f := by
  have hlow : -52 ≤ f := by
    by_contra hsmall
    have hn : (n : ℚ) < 2 ^ (53 : Int) := by exact_mod_cast h.lt
    have hscale : (2 : ℚ) ^ f ≤ 2 ^ (-53 : Int) := zpow_le_zpow_right₀ one_le_two (by omega)
    have hvalue : (n : ℚ) * 2 ^ f < 1 := by
      calc (n : ℚ) * 2 ^ f < 2 ^ (53 : Int) * 2 ^ f := mul_lt_mul_of_pos_right hn (by positivity)
        _ ≤ 2 ^ (53 : Int) * 2 ^ (-53 : Int) := mul_le_mul_of_nonneg_left hscale (by positivity)
        _ = 1 := by norm_num
    linarith
  constructor
  · rcases h.normal with hfull | hleast
    · exact hfull
    · omega
  · exact hlow

/-- Of two ways to write a value, the one with the smaller significand has the greater
exponent. -/
theorem exponent_le_of_le {m n : Nat} {e f : Int} (hn : 0 < n) (hle : n ≤ m)
    (hv : (m : ℚ) * 2 ^ e = n * 2 ^ f) : e ≤ f := by
  by_contra hlt
  have hnq : (0 : ℚ) < n := by exact_mod_cast hn
  have hmq : (n : ℚ) ≤ m := by exact_mod_cast hle
  have hscale : (2 : ℚ) ^ f < 2 ^ e := zpow_lt_zpow_right₀ one_lt_two (by omega)
  have : (n : ℚ) * 2 ^ f < m * 2 ^ e := by
    calc (n : ℚ) * 2 ^ f < n * 2 ^ e := mul_lt_mul_of_pos_left hscale hnq
      _ ≤ m * 2 ^ e := mul_le_mul_of_nonneg_right hmq (by positivity)
  linarith

/-- The general way to read a decimal number is exact on representable values. -/
theorem unpackedOfScientific_exact {m n : Nat} {e f : Int} (h : Representable n f) (hm : 0 < m)
    (hv : (m : ℚ) * 10 ^ e = n * 2 ^ f) :
    UnpackedFloat.ofScientific Format.binary64 m e = .finite .positive n f h.pos := by
  obtain ⟨hhigh, hlow⟩ := h.scientific_bounds hm hv
  unfold UnpackedFloat.ofScientific
  rw [dif_neg (by omega), if_neg (by simpa [Format.exponentBits] using hhigh),
    if_neg (by simpa [Format.exponentBits] using hlow)]
  by_cases hsign : 0 ≤ e
  · have hvalue : (1 : ℚ) ≤ n * 2 ^ f := by
      have hone : (1 : ℚ) ≤ m := by exact_mod_cast hm
      rw [← hv]
      exact one_le_mul_of_one_le_of_one_le hone (one_le_zpow₀ (by norm_num) hsign)
    have hlow := (h.full_of_one_le hvalue).2
    rw [if_pos hsign]
    apply mul_exact .positive .positive _ _ h _ (by norm_num [Format.mantissaBits]; omega)
    have hpow : (10 : ℚ) ^ e.toNat = 10 ^ e := by
      rw [← zpow_natCast, Int.toNat_of_nonneg hsign]
    rw [← hv, Nat.shiftLeft_eq]
    push_cast
    rw [hpow]
    norm_num
  · have hpow : (10 : ℚ) ^ (-e).toNat = 10 ^ (-e) := by
      rw [← zpow_natCast, Int.toNat_of_nonneg (by omega)]
    rw [if_neg hsign]
    apply div_exact .positive .positive _ _ h
    rw [← hv]
    push_cast
    rw [hpow, zpow_neg]
    field_simp

/-- A value `m * 10 ^ e` that is representable is read without a rounding error. -/
theorem unpack_ofScientific {m e n : Nat} {f : Int} (h : Representable n f) (negative : Bool)
    (hv : (m : ℚ) * 10 ^ (if negative then -(e : Int) else e) = n * 2 ^ f) :
    (Float.ofScientific m negative e).toModel.unpack = .finite .positive n f h.pos := by
  have hm : 0 < m := by
    apply Nat.pos_of_ne_zero
    intro hzero
    have hvalue := h.value_pos
    rw [← hv, hzero] at hvalue
    simp at hvalue
  by_cases hfast : m < 2 ^ 53 ∧ e ≤ 22
  · have hin : e < Float.exactlyRepresentablePowersOfTen.size := Nat.lt_succ_of_le hfast.2
    obtain ⟨n₁, f₁, h₁, hu₁, hv₁⟩ := unpack_toFloat hm hfast.1
    obtain ⟨n₂, f₂, h₂, hu₂, hv₂⟩ := unpack_powerOfTen hin
    unfold Float.ofScientific
    rw [dif_pos hfast]
    cases negative with
    | true =>
        change (Float.Model.pack (UnpackedFloat.div Format.binary64 m.toUInt64.toFloat.toModel.unpack
          Float.exactlyRepresentablePowersOfTen[e].toModel.unpack)).unpack = _
        have hquotient : (n₁ : ℚ) * 2 ^ f₁ = n * 2 ^ f * (n₂ * 2 ^ f₂) := by
          rw [hv₁, hv₂, ← hv, if_pos rfl, zpow_neg, zpow_natCast]
          field_simp
        rw [hu₁, hu₂, div_exact .positive .positive h₁.pos h₂.pos h hquotient]
        exact unpack_pack .positive h
    | false =>
        change (Float.Model.pack (UnpackedFloat.mul Format.binary64 m.toUInt64.toFloat.toModel.unpack
          Float.exactlyRepresentablePowersOfTen[e].toModel.unpack)).unpack = _
        have hproduct : (n₁ : ℚ) * 2 ^ f₁ * (n₂ * 2 ^ f₂) = n * 2 ^ f := by
          rw [hv₁, hv₂, ← hv, if_neg (by simp), zpow_natCast]
        have hfull₁ := (h₁.full_of_one_le (by rw [hv₁]; exact_mod_cast hm)).1
        have hfull₂ := (h₂.full_of_one_le (by rw [hv₂]; exact one_le_pow₀ (by norm_num))).1
        have hle : f₁ + f₂ ≤ f := by
          apply exponent_le_of_le (m := n₁ * n₂) h.pos
          · have := h.lt
            nlinarith
          · rw [← hproduct, zpow_add₀ two_ne_zero]
            push_cast
            ring
        rw [hu₁, hu₂, mul_exact .positive .positive h₁.pos h₂.pos h hproduct hle]
        exact unpack_pack .positive h
  · have hexact := unpackedOfScientific_exact (e := if negative then Int.negOfNat e else Int.ofNat e)
      h hm (by rw [← hv]; cases negative <;> simp [Int.negOfNat_eq])
    unfold Float.ofScientific
    rw [dif_neg hfast]
    change (Float.Model.pack _).unpack = _
    rw [hexact]
    exact unpack_pack .positive h

end GeoFilter.Number
