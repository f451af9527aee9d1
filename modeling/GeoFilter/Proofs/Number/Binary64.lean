import Mathlib
import GeoFilter.Number.Dyadic

/-!
Binary64 numbers between their bits and their parts. A number that is neither infinite
nor undefined is a zero, or a sign, a significand and an exponent in the range of the
format. Packing such parts and unpacking a number undo each other, so that two numbers
with the same parts are equal.
-/

namespace GeoFilter.Number

open Float.Model Float.Model.UnpackedFloat

/-- The significands and exponents of the positive numbers. All 53 bits are used unless
the exponent is the least there is. -/
structure Representable (m : Nat) (e : Int) : Prop where
  pos : 0 < m
  lt : m < 2 ^ 53
  low : -1074 ≤ e
  high : e ≤ 971
  normal : 2 ^ 52 ≤ m ∨ e = -1074

theorem unpackSign_packComponents (s : Sign) (exponent : BitVec 11) (mantissa : BitVec 52) :
    Sign.ofBitVec (@unpackSign Format.binary64
      (packComponents Format.binary64 s exponent mantissa)) = s := by
  have hbit : (s.toBitVec ++ exponent ++ mantissa).getLsbD 63 = s.toBitVec[0] := by
    rw [BitVec.getLsbD_append, BitVec.getLsbD_append]
    rfl
  have hsign : @unpackSign Format.binary64
      (packComponents Format.binary64 s exponent mantissa) = s.toBitVec := by
    ext i hi
    obtain rfl : i = 0 := by omega
    simp [unpackSign, packComponents]
    exact hbit
  rw [hsign]
  cases s <;> rfl

theorem toNat_unpackMantissa (b : BitVec 64) :
    (@unpackMantissa Format.binary64 b).toNat = b.toNat % 2 ^ 52 := by
  simp [unpackMantissa]

theorem toNat_unpackExponent (b : BitVec 64) :
    (@unpackExponent Format.binary64 b).toNat = b.toNat / 2 ^ 52 % 2 ^ 11 := by
  simp [unpackExponent, Nat.shiftRight_eq_div_pow]

theorem toNat_unpackSign (b : BitVec 64) :
    (@unpackSign Format.binary64 b).toNat = b.toNat / 2 ^ 63 := by
  have hb : b.toNat < 2 ^ 64 := b.isLt
  simp only [unpackSign, Nat.reduceAdd, BitVec.toNat_cast, BitVec.extractLsb_toNat,
    Nat.shiftRight_eq_div_pow]
  omega

theorem toNat_packComponents (s : Sign) (exponent : BitVec 11) (mantissa : BitVec 52) :
    (packComponents Format.binary64 s exponent mantissa).toNat =
      s.toBitVec.toNat * 2 ^ 63 + exponent.toNat * 2 ^ 52 + mantissa.toNat := by
  have hfirst : (s.toBitVec ++ exponent).toNat = s.toBitVec.toNat * 2 ^ 11 + exponent.toNat := by
    rw [BitVec.toNat_append, ← Nat.shiftLeft_add_eq_or_of_lt exponent.isLt, Nat.shiftLeft_eq]
  have hall : (s.toBitVec ++ exponent ++ mantissa).toNat =
      (s.toBitVec ++ exponent).toNat * 2 ^ 52 + mantissa.toNat := by
    rw [BitVec.toNat_append, ← Nat.shiftLeft_add_eq_or_of_lt mantissa.isLt, Nat.shiftLeft_eq]
  rw [hfirst] at hall
  unfold packComponents
  refine hall.trans ?_
  ring

/-- The three fields make up the whole word. -/
theorem packComponents_unpack (b : BitVec 64) :
    packComponents Format.binary64 (Sign.ofBitVec (@unpackSign Format.binary64 b))
      (@unpackExponent Format.binary64 b)
      (@unpackMantissa Format.binary64 b) = b := by
  have hsign : (Sign.ofBitVec (@unpackSign Format.binary64 b)).toBitVec =
      @unpackSign Format.binary64 b := by
    generalize @unpackSign Format.binary64 b = bit
    revert bit
    decide
  apply BitVec.eq_of_toNat_eq
  rw [toNat_packComponents, hsign, toNat_unpackMantissa, toNat_unpackExponent, toNat_unpackSign]
  have := b.isLt
  omega

theorem toNat_hiddenBit (mantissa : BitVec 52) :
    (1#1 ++ mantissa).toNat = 2 ^ 52 + mantissa.toNat := by
  rw [BitVec.toNat_append, ← Nat.shiftLeft_add_eq_or_of_lt mantissa.isLt]
  rfl

section Packing

variable (s : Sign) {m : Nat} {e : Int}

theorem pack_normal (hpos : 0 < m) (hlog : m.log2 = 52) (low : -1074 ≤ e) (high : e ≤ 971) :
    UnpackedFloat.pack Format.binary64 (.finite s m e hpos) =
      packComponents Format.binary64 s (BitVec.ofNat 11 (e + 1075).toNat) (BitVec.ofNat 52 m) := by
  have hfield : (e + (Format.binary64.exponentBias : Int) + (52 : Nat)).toNat = (e + 1075).toNat := by
    norm_num [Format.exponentBias]
    omega
  simp only [UnpackedFloat.pack, hfield, hlog, Format.mantissaBits]
  rw [if_neg (by omega), if_pos trivial]

theorem pack_subnormal (hpos : 0 < m) (hlog : m.log2 < 52) :
    UnpackedFloat.pack Format.binary64 (.finite s m (-1074) hpos) =
      packComponents Format.binary64 s 0#11 (BitVec.ofNat 52 m) := by
  simp only [UnpackedFloat.pack, Format.exponentBias, Format.mantissaBits]
  norm_num
  omega

theorem unpack_pack (h : Representable m e) :
    (Float.Model.pack (.finite s m e h.pos)).unpack = .finite s m e h.pos := by
  obtain ⟨hpos, hlt, hlow, hhigh, hnormal⟩ := h
  change UnpackedFloat.unpack Format.binary64
    (UnpackedFloat.pack Format.binary64 (.finite s m e hpos)) = .finite s m e hpos
  by_cases hm : 2 ^ 52 ≤ m
  · have hlog : m.log2 = 52 := (Nat.log2_eq_iff (by omega)).mpr ⟨hm, hlt⟩
    have hfield : (BitVec.ofNat 11 (e + 1075).toNat).toNat = (e + 1075).toNat := by
      rw [BitVec.toNat_ofNat]
      omega
    have hzero : BitVec.ofNat 11 (e + 1075).toNat ≠ 0#11 := by
      intro hz
      rw [hz] at hfield
      simp only [BitVec.toNat_ofNat, Nat.zero_mod] at hfield
      omega
    have hones : BitVec.ofNat 11 (e + 1075).toNat ≠ -1#11 := by
      intro hz
      rw [hz] at hfield
      simp at hfield
      omega
    rw [pack_normal s hpos hlog hlow hhigh]
    simp only [UnpackedFloat.unpack, unpackExponent_packComponents,
      unpackMantissa_packComponents, unpackSign_packComponents, hzero, hones, if_false]
    congr 1
    · rw [toNat_hiddenBit, BitVec.toNat_ofNat]
      omega
    · rw [hfield]
      norm_num [Format.exponentBias]
      omega
  · have hlog : m.log2 < 52 := (Nat.log2_lt (by omega)).mpr (by omega)
    obtain rfl : e = -1074 := by omega
    have hmantissa : (BitVec.ofNat 52 m).toNat = m := by
      rw [BitVec.toNat_ofNat]
      omega
    have hzero : BitVec.ofNat 52 m ≠ 0#52 := by
      intro hz
      rw [hz] at hmantissa
      simp only [BitVec.toNat_ofNat, Nat.zero_mod] at hmantissa
      omega
    rw [pack_subnormal s hpos hlog]
    simp only [UnpackedFloat.unpack, unpackExponent_packComponents,
      unpackMantissa_packComponents, unpackSign_packComponents, hzero, if_false]
    simp only [show (0#11 = -1#11) = False by simp, if_false, if_true, dite_false]
    congr 1

end Packing

theorem unpack_pack_zero (s : Sign) : (Float.Model.pack (.zero s)).unpack = .zero s := by
  cases s <;> rfl

/-- The parts of a number that is neither infinite nor undefined. -/
inductive FiniteParts : UnpackedFloat → Prop where
  | zero (s : Sign) : FiniteParts (.zero s)
  | finite (s : Sign) {m : Nat} {e : Int} (h : Representable m e) :
      FiniteParts (.finite s m e h.pos)

theorem FiniteParts.unpack_pack {u : UnpackedFloat} (h : FiniteParts u) :
    (Float.Model.pack u).unpack = u := by
  cases h with
  | zero s => exact unpack_pack_zero s
  | finite s h => exact Number.unpack_pack s h

theorem FiniteParts.neg {u : UnpackedFloat} (h : FiniteParts u) : FiniteParts u.neg := by
  cases h with
  | zero s => exact .zero (-s)
  | finite s h => exact .finite (-s) h

theorem FiniteParts.abs {u : UnpackedFloat} (h : FiniteParts u) : FiniteParts u.abs := by
  cases h with
  | zero s => exact .zero .positive
  | finite s h => exact .finite .positive h

section Fields

variable {exponent : BitVec 11} {mantissa : BitVec 52}

theorem mantissa_pos (h : mantissa ≠ 0#52) : 0 < mantissa.toNat := by
  apply Nat.pos_of_ne_zero
  intro hzero
  exact h (BitVec.eq_of_toNat_eq hzero)

/-- The exponent field of a normal number. -/
theorem exponent_between (hleast : exponent ≠ 0#11) (hones : exponent ≠ -1#11) :
    exponent.toNat ≠ 0 ∧ exponent.toNat ≠ 2047 := by
  constructor
  · intro hzero
    exact hleast (BitVec.eq_of_toNat_eq hzero)
  · intro hfull
    exact hones (BitVec.eq_of_toNat_eq hfull)

theorem exponent_unbiased (exponent : BitVec 11) :
    (exponent.toNat : Int) - ((Format.binary64.exponentBias : Int) + (52 : Nat)) =
      exponent.toNat - 1075 := by
  norm_num [Format.exponentBias]

end Fields

/-- A number is put together again from its parts. -/
theorem pack_unpack (v : Float.Model) : Float.Model.pack v.unpack = v := by
  obtain ⟨bits, valid⟩ := v
  suffices hbits : UnpackedFloat.pack Format.binary64
      (UnpackedFloat.unpack Format.binary64 bits.toBitVec) = bits.toBitVec by
    unfold Float.Model.unpack Float.Model.pack
    simp only [hbits]
  have hnan := valid.eq_packedNaN
  rw [← packComponents_unpack bits.toBitVec] at hnan ⊢
  generalize Sign.ofBitVec (@unpackSign Format.binary64 bits.toBitVec) = s at hnan ⊢
  generalize @unpackExponent Format.binary64 bits.toBitVec = exponent at hnan ⊢
  generalize @unpackMantissa Format.binary64 bits.toBitVec = mantissa at hnan ⊢
  simp only [unpackExponent_packComponents, unpackMantissa_packComponents] at hnan
  have hexponent : exponent.toNat < 2048 := exponent.isLt
  have hmantissa : mantissa.toNat < 2 ^ 52 := mantissa.isLt
  simp only [UnpackedFloat.unpack, unpackExponent_packComponents,
    unpackMantissa_packComponents, unpackSign_packComponents]
  by_cases hones : exponent = -1#11
  · by_cases hzero : mantissa = 0#52
    · simp [hones, hzero, UnpackedFloat.pack, packedInfinity]
    · simp only [hones, hzero, if_true, if_false]
      rw [hones] at hnan
      exact (hnan rfl hzero).symm
  · simp only [hones, if_false]
    by_cases hleast : exponent = 0#11
    · by_cases hzero : mantissa = 0#52
      · simp [hleast, hzero, UnpackedFloat.pack, packedZero]
      · have hpos := mantissa_pos hzero
        have hlog : mantissa.toNat.log2 < 52 := (Nat.log2_lt (by omega)).mpr hmantissa
        simp only [hleast, hzero, if_true, dite_false]
        refine (pack_subnormal s hpos hlog).trans ?_
        simp
    · have hfield := exponent_between hleast hones
      have hbits := toNat_hiddenBit mantissa
      have hlog : (1#1 ++ mantissa).toNat.log2 = 52 := by
        rw [hbits]
        exact (Nat.log2_eq_iff (by omega)).mpr ⟨by omega, by omega⟩
      simp only [hleast, if_false, exponent_unbiased]
      refine (pack_normal s (by omega) hlog (by omega) (by omega)).trans ?_
      congr 1
      · apply BitVec.eq_of_toNat_eq
        rw [BitVec.toNat_ofNat]
        omega
      · apply BitVec.eq_of_toNat_eq
        rw [BitVec.toNat_ofNat, hbits]
        omega

/-- Two numbers with the same parts are equal. -/
theorem unpack_injective {x y : Float} (h : x.toModel.unpack = y.toModel.unpack) : x = y := by
  obtain ⟨x⟩ := x
  obtain ⟨y⟩ := y
  rw [← pack_unpack x, ← pack_unpack y]
  exact congrArg (fun u => Float.ofModel (Float.Model.pack u)) h

/-- The sign of a number, that of a zero included. -/
def signOf (x : Float) : Sign :=
  if isNegative x then .negative else .positive

theorem ofBitVec_unpackSign (x : Float) :
    Sign.ofBitVec (@unpackSign Format.binary64 x.toModel.toBits.toBitVec) = signOf x := by
  have hbit := toNat_unpackSign x.toModel.toBits.toBitVec
  have hbits : x.toBits.toNat = x.toModel.toBits.toBitVec.toNat := rfl
  unfold signOf isNegative
  rw [hbits, Nat.pow_eq, ← hbit]
  generalize @unpackSign Format.binary64 x.toModel.toBits.toBitVec = bit
  rcases BitVec.eq_zero_or_eq_one bit with rfl | rfl <;> rfl

/-- A finite number has the parts that its binary fraction and its sign bit say. -/
theorem unpack_of_isFinite {x : Float} (h : x.isFinite = true) :
    (x.toModel.unpack = .zero (signOf x) ∧ Dyadic.ofFloat x = ⟨0, -1074⟩) ∨
      ∃ (m : Nat) (e : Int) (hr : Representable m e),
        x.toModel.unpack = .finite (signOf x) m e hr.pos ∧ Dyadic.ofFloat x = ⟨m, e⟩ := by
  have hsign := ofBitVec_unpackSign x
  generalize signOf x = s at hsign ⊢
  obtain ⟨⟨bits, valid⟩⟩ := x
  have hmantissa := toNat_unpackMantissa bits.toBitVec
  have hexponent := toNat_unpackExponent bits.toBitVec
  have hmantissa_lt : (@unpackMantissa Format.binary64 bits.toBitVec).toNat < 2 ^ 52 :=
    (@unpackMantissa Format.binary64 bits.toBitVec).isLt
  have hexponent_lt : (@unpackExponent Format.binary64 bits.toBitVec).toNat < 2048 :=
    (@unpackExponent Format.binary64 bits.toBitVec).isLt
  change (UnpackedFloat.unpack Format.binary64 bits.toBitVec).isFinite = true at h
  change (UnpackedFloat.unpack Format.binary64 bits.toBitVec = _ ∧ _) ∨
    ∃ m e hr, UnpackedFloat.unpack Format.binary64 bits.toBitVec = _ ∧ _
  change Sign.ofBitVec (@unpackSign Format.binary64 bits.toBitVec) = s at hsign
  have hfloat : Dyadic.ofFloat ⟨⟨bits, valid⟩⟩ =
      if (@unpackExponent Format.binary64 bits.toBitVec).toNat = 0 then
        ⟨(@unpackMantissa Format.binary64 bits.toBitVec).toNat, -1074⟩
      else
        ⟨2 ^ 52 + (@unpackMantissa Format.binary64 bits.toBitVec).toNat,
          Int.ofNat (@unpackExponent Format.binary64 bits.toBitVec).toNat - 1075⟩ := by
    rw [hmantissa, hexponent]
    rfl
  rw [hfloat]
  generalize hm : @unpackMantissa Format.binary64 bits.toBitVec = mantissa at *
  generalize he : @unpackExponent Format.binary64 bits.toBitVec = exponent at *
  simp only [UnpackedFloat.unpack, hm, he, hsign] at h ⊢
  by_cases hones : exponent = -1#11
  · exfalso
    by_cases hzero : mantissa = 0#52 <;>
      simp [hones, hzero, UnpackedFloat.isFinite] at h
  · simp only [hones, if_false]
    by_cases hleast : exponent = 0#11
    · by_cases hzero : mantissa = 0#52
      · left
        simp [hleast, hzero]
      · right
        have hpos := mantissa_pos hzero
        refine ⟨mantissa.toNat, -1074, ⟨hpos, by omega, by omega, by omega, .inr rfl⟩, ?_, ?_⟩
        · simp only [hleast, hzero, if_true, dite_false]
          rfl
        · simp [hleast]
    · right
      have hfield := exponent_between hleast hones
      have hbits := toNat_hiddenBit mantissa
      refine ⟨2 ^ 52 + mantissa.toNat, exponent.toNat - 1075,
        ⟨by omega, by omega, by omega, by omega, .inl (by omega)⟩, ?_, ?_⟩
      · simp only [hleast, if_false, exponent_unbiased, hbits]
      · rw [if_neg hfield.1]
        rfl

theorem finiteParts_unpack {x : Float} (h : x.isFinite = true) :
    FiniteParts x.toModel.unpack := by
  rcases unpack_of_isFinite h with ⟨hzero, -⟩ | ⟨m, e, hr, hfinite, -⟩
  · rw [hzero]
    exact .zero _
  · rw [hfinite]
    exact .finite _ hr

end GeoFilter.Number
