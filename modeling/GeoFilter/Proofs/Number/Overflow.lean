import GeoFilter.Proofs.Number.Decimal

/-!
The range of the numbers that text can denote. A decimal number is read as infinity from
half a unit in the last place beyond the greatest finite number on, and never as no number
at all. The proof follows the rounding: a significand with a round bit and a sticky bit
keeps account of the exact value, from which rounding to the nearest decides.
-/

namespace GeoFilter.Number

open Float.Model Float.Model.UnpackedFloat

/-- The least value that is too large: it lies halfway between the greatest finite number
and the next one that the format would have with a wider exponent. -/
def overflowBound : ℚ :=
  2 ^ 1024 - 2 ^ 970

/-- A significand with its round bit and its sticky bit stands for a value: the round bit
counts one half, and the sticky bit tells whether anything is left below it. -/
def Represents (em : ExtendedMantissa) (x : ℚ) : Prop :=
  ∃ below : ℚ, x = em.mantissa + (if em.roundBit then 1 / 2 else 0) + below ∧
    0 ≤ below ∧ below < 1 / 2 ∧ (em.stickyBit = true ↔ 0 < below)

theorem represents_exact (m : Nat) :
    Represents (ExtendedMantissa.ofMantissaAndAccuracy m .exact) m :=
  ⟨0, by simp [ExtendedMantissa.ofMantissaAndAccuracy], le_rfl, by norm_num,
    by simp [ExtendedMantissa.ofMantissaAndAccuracy]⟩

/-- A quotient with the comparison of its rest to half of the divisor. -/
theorem represents_quotient (n : Nat) {d : Nat} (hd : 0 < d) :
    Represents (ExtendedMantissa.ofMantissaAndAccuracy (n / d) (accuracyOfFraction (n % d) d))
      (n / d : ℚ) := by
  have hdq : (0 : ℚ) < d := by exact_mod_cast hd
  have hvalue : (n / d : ℚ) = (n / d : Nat) + (n % d : Nat) / d := by
    have hsplit : ((d * (n / d) + n % d : Nat) : ℚ) = n := by rw [Nat.div_add_mod]
    push_cast at hsplit
    field_simp
    linarith
  have hrest : n % d < d := Nat.mod_lt n hd
  generalize n / d = quotient at hvalue ⊢
  generalize n % d = rest at hvalue hrest ⊢
  have hrestq : (rest : ℚ) < d := by exact_mod_cast hrest
  unfold accuracyOfFraction
  by_cases hzero : rest = 0
  · rw [if_pos hzero, hvalue, hzero]
    simpa using represents_exact quotient
  · rw [if_neg hzero]
    have hpos : (0 : ℚ) < rest / d := by
      have : (0 : ℚ) < rest := by exact_mod_cast Nat.pos_of_ne_zero hzero
      positivity
    rcases lt_trichotomy (2 * rest) d with hlt | heq | hgt
    · rw [compare_lt_iff_lt.mpr hlt]
      have hhalf : (rest / d : ℚ) < 1 / 2 := by
        have : (2 * rest : ℚ) < d := by exact_mod_cast hlt
        rw [div_lt_div_iff₀ hdq two_pos]
        linarith
      exact ⟨rest / d, by simpa [ExtendedMantissa.ofMantissaAndAccuracy] using hvalue, hpos.le,
        hhalf, by simpa [ExtendedMantissa.ofMantissaAndAccuracy] using hpos⟩
    · rw [compare_eq_iff_eq.mpr heq]
      have hhalf : (rest / d : ℚ) = 1 / 2 := by
        have : (2 * rest : ℚ) = d := by exact_mod_cast heq
        rw [div_eq_div_iff hdq.ne' two_ne_zero]
        linarith
      refine ⟨0, ?_, le_rfl, by norm_num, by simp [ExtendedMantissa.ofMantissaAndAccuracy]⟩
      rw [hvalue, hhalf]
      simp [ExtendedMantissa.ofMantissaAndAccuracy]
    · rw [compare_gt_iff_gt.mpr hgt]
      have hhalf : (1 / 2 : ℚ) < rest / d := by
        have : (d : ℚ) < 2 * rest := by exact_mod_cast hgt
        rw [div_lt_div_iff₀ two_pos hdq]
        linarith
      have hone : (rest / d : ℚ) < 1 := (div_lt_one hdq).mpr hrestq
      refine ⟨rest / d - 1 / 2, ?_, by linarith, by linarith, ?_⟩
      · rw [hvalue]
        simp [ExtendedMantissa.ofMantissaAndAccuracy]
      · simpa [ExtendedMantissa.ofMantissaAndAccuracy] using hhalf

theorem roundedMantissa_eq (em : ExtendedMantissa) :
    em.roundedMantissa = em.mantissa +
      (if em.roundBit && (em.stickyBit || em.mantissa % 2 == 1) then 1 else 0) := by
  obtain ⟨mantissa, roundBit, stickyBit⟩ := em
  cases roundBit <;> cases stickyBit
  case true.false =>
    rcases Nat.mod_two_eq_zero_or_one mantissa with hbit | hbit <;>
      simp [ExtendedMantissa.roundedMantissa, ExtendedMantissa.accuracy,
        Accuracy.roundToNearestEven, hbit]
  all_goals
    simp [ExtendedMantissa.roundedMantissa, ExtendedMantissa.accuracy, Accuracy.roundToNearestEven]

namespace Represents

variable {em : ExtendedMantissa} {x : ℚ}

theorem bounds (h : Represents em x) : (em.mantissa : ℚ) ≤ x ∧ x < em.mantissa + 1 := by
  obtain ⟨below, hx, hlow, hhigh, -⟩ := h
  cases hround : em.roundBit <;> simp only [hround] at hx <;> constructor <;> norm_num at hx <;>
    linarith

theorem shiftRightOne (h : Represents em x) : Represents em.shiftRightOne (x / 2) := by
  obtain ⟨below, hx, hlow, hhigh, hsticky⟩ := h
  have hmantissa : (em.mantissa : ℚ) = 2 * (em.mantissa / 2 : Nat) + (em.mantissa % 2 : Nat) := by
    exact_mod_cast (Nat.div_add_mod em.mantissa 2).symm
  refine ⟨(if em.roundBit then 1 / 4 else 0) + below / 2, ?_, ?_, ?_, ?_⟩
  · rw [hx, hmantissa]
    rcases Nat.mod_two_eq_zero_or_one em.mantissa with hbit | hbit
    all_goals
      simp only [ExtendedMantissa.shiftRightOne, hbit]
      cases em.roundBit <;> norm_num <;> ring
  · split <;> linarith
  · split <;> linarith
  · simp only [ExtendedMantissa.shiftRightOne, Bool.or_eq_true, hsticky]
    cases em.roundBit with
    | false => simp
    | true =>
        have : (0 : ℚ) < 1 / 4 + below / 2 := by linarith
        simpa using this

theorem shiftRight (h : Represents em x) (k : Nat) : Represents (em >>> k) (x / 2 ^ k) := by
  induction k with
  | zero => simpa [HShiftRight.hShiftRight, Nat.repeat] using h
  | succ k ih =>
      have hstep := ih.shiftRightOne
      rw [div_div, ← pow_succ] at hstep
      exact hstep

/-- Rounding reaches an even number from half a unit below it on. -/
theorem le_roundedMantissa_iff (h : Represents em x) {k : Nat} (hk : k % 2 = 0) :
    k ≤ em.roundedMantissa ↔ (k : ℚ) - 1 / 2 ≤ x := by
  obtain ⟨hlow, hhigh⟩ := h.bounds
  rw [roundedMantissa_eq]
  rcases lt_trichotomy k (em.mantissa + 1) with hbelow | heq | habove
  · have hq : (k : ℚ) ≤ em.mantissa := by exact_mod_cast Nat.lt_succ_iff.mp hbelow
    exact iff_of_true (by omega) (by linarith)
  · -- The number just above the significand is reached if the round bit is set.
    have hodd : em.mantissa % 2 = 1 := by omega
    obtain ⟨below, hx, hpos, hhalf, -⟩ := h
    have hq : (k : ℚ) = em.mantissa + 1 := by exact_mod_cast heq
    cases hround : em.roundBit with
    | false =>
        simp only [hround, Bool.false_eq_true, if_false, add_zero, Bool.false_and] at hx ⊢
        exact iff_of_false (by omega) (by linarith)
    | true =>
        simp only [hround, if_true, hodd, beq_self_eq_true, Bool.or_true, Bool.true_and] at hx ⊢
        exact iff_of_true (by omega) (by linarith)
  · have hq : (em.mantissa : ℚ) + 2 ≤ k := by exact_mod_cast habove
    have hrounded : em.mantissa + 1 < k := habove
    exact iff_of_false (by split <;> omega) (by linarith)

end Represents

/-- Whether a number that stands for a value is infinite depends on the bound alone. -/
structure Saturates (u : UnpackedFloat) (v : ℚ) : Prop where
  isNaN : u.isNaN = false
  isInf : u.isInf = true ↔ overflowBound ≤ v

theorem Saturates.isFinite {u : UnpackedFloat} {v : ℚ} (h : Saturates u v) :
    u.isFinite = true ↔ v < overflowBound := by
  rw [← not_le, ← h.isInf]
  have hnumber := h.isNaN
  cases u <;> simp_all [UnpackedFloat.isFinite, UnpackedFloat.isInf, UnpackedFloat.isNaN]

theorem saturates_of_isFinite {u : UnpackedFloat} {v : ℚ} (h : u.isFinite = true)
    (hv : v < overflowBound) : Saturates u v := by
  cases u with
  | zero s => exact ⟨rfl, iff_of_false (by simp [UnpackedFloat.isInf]) (not_le.mpr hv)⟩
  | finite s m e hm => exact ⟨rfl, iff_of_false (by simp [UnpackedFloat.isInf]) (not_le.mpr hv)⟩
  | infinity s => cases h
  | notANumber => cases h

theorem saturates_infinity (s : Sign) {v : ℚ} (hv : overflowBound ≤ v) :
    Saturates (Float.Model.pack (.infinity s)).unpack v := by
  have hparts : (Float.Model.pack (.infinity s)).unpack = .infinity s := by
    cases s <;> rfl
  rw [hparts]
  exact ⟨rfl, iff_of_true rfl hv⟩

section Packing

variable (s : Sign) {m : Nat} {e : Int}

theorem pack_of_large (hm : 0 < m) (he : 972 ≤ e) :
    Float.Model.pack (.finite s m e hm) = Float.Model.pack (.infinity s) := by
  have hfield : (e + (Format.binary64.exponentBias : Int) + (52 : Nat)).toNat = (e + 1075).toNat := by
    norm_num [Format.exponentBias]
    omega
  have hlarge : 2 ^ Format.binary64.exponentBits ≤ (e + 1075).toNat + 1 := by
    change 2048 ≤ _
    omega
  simp only [Float.Model.pack, UnpackedFloat.pack, hfield, if_pos hlarge]

theorem isFinite_pack (hm : 0 < m) (he : e ≤ 971) :
    (Float.Model.pack (.finite s m e hm)).unpack.isFinite = true := by
  have hpack : ∃ (exponent : BitVec 11) (mantissa : BitVec 52), exponent ≠ -1#11 ∧
      UnpackedFloat.pack Format.binary64 (.finite s m e hm) =
        packComponents Format.binary64 s exponent mantissa := by
    have hfield : (e + (Format.binary64.exponentBias : Int) + (52 : Nat)).toNat =
        (e + 1075).toNat := by
      norm_num [Format.exponentBias]
      omega
    unfold UnpackedFloat.pack
    simp only [hfield]
    rw [if_neg (by omega)]
    split
    · refine ⟨_, _, ?_, rfl⟩
      intro hones
      have := congrArg BitVec.toNat hones
      rw [BitVec.toNat_ofNat] at this
      simp at this
      omega
    · exact ⟨_, _, by decide, rfl⟩
  obtain ⟨exponent, mantissa, hones, hpacked⟩ := hpack
  change (UnpackedFloat.unpack Format.binary64
    (UnpackedFloat.pack Format.binary64 (.finite s m e hm))).isFinite = true
  rw [hpacked]
  simp only [UnpackedFloat.unpack, unpackExponent_packComponents, unpackMantissa_packComponents,
    hones, if_false]
  split
  · split <;> rfl
  · rfl

end Packing

section Rounding

variable {m : Nat} {e : Int} {acc : Accuracy} {x : ℚ}

theorem targetExponent_eq (t : Int) :
    Format.binary64.targetExponent t = max (t - 53) (-1074) := by
  simp [Format.targetExponent, Format.mantissaBits, Format.minExponent]

theorem mantissa_shiftRight (em : ExtendedMantissa) (k : Nat) :
    (em >>> k).mantissa = em.mantissa / 2 ^ k := by
  induction k with
  | zero => simp [HShiftRight.hShiftRight, Nat.repeat]
  | succ k ih =>
      change (em >>> k).mantissa / 2 = _
      rw [ih, Nat.div_div_eq_div_mul, pow_succ]

theorem roundedMantissa_bounds (em : ExtendedMantissa) :
    em.mantissa ≤ em.roundedMantissa ∧ em.roundedMantissa ≤ em.mantissa + 1 := by
  rw [roundedMantissa_eq]
  split <;> omega

theorem mantissa_ofMantissaAndAccuracy (m : Nat) (acc : Accuracy) :
    (ExtendedMantissa.ofMantissaAndAccuracy m acc).mantissa = m := by
  unfold ExtendedMantissa.ofMantissaAndAccuracy
  split <;> rfl

/-- The second shift of a rounding, after which the significand has at most 53 bits again. -/
theorem shiftToTargetExponent_rounded (r : Nat) {t : Int} (ht : -1074 ≤ t) :
    shiftToTargetExponent Format.binary64 r t .exact =
      (ExtendedMantissa.ofMantissaAndAccuracy r .exact >>> (r.log2 - 52),
        t + ((r.log2 - 52 : Nat) : Int)) := by
  have hshift : (Format.binary64.targetExponent (totalExponent r t) - t).toNat = r.log2 - 52 := by
    rw [targetExponent_eq, totalExponent]
    omega
  simp only [shiftToTargetExponent, shiftToExponent, hshift]

/-- Rounding cuts the significand off at the target exponent, rounds it, and drops the bits
by which the result is too long. -/
theorem roundWithAccuracy_cases (s : Sign) (m : Nat) {k : Nat}
    (hk : Format.binary64.targetExponent (totalExponent m e) = e + k) {r : Nat}
    (hr : r = (ExtendedMantissa.ofMantissaAndAccuracy m acc >>> k).roundedMantissa) :
    (r = 0 ∧ roundWithAccuracy Format.binary64 s m e acc = .zero s) ∨
      (r ≠ 0 ∧ ∃ (n : Nat) (hn : 0 < n), roundWithAccuracy Format.binary64 s m e acc =
        .finite s n (e + k + ((r.log2 - 52 : Nat) : Int)) hn) := by
  have hfirst : shiftToTargetExponent Format.binary64 m e acc =
      (ExtendedMantissa.ofMantissaAndAccuracy m acc >>> k, e + k) := by
    have hshift : (e + (k : Int) - e).toNat = k := by omega
    simp only [shiftToTargetExponent, shiftToExponent, hk, hshift]
  have hleast : -1074 ≤ e + (k : Int) := by
    rw [← hk, targetExponent_eq]
    exact le_max_right _ _
  have hsecond := shiftToTargetExponent_rounded r hleast
  unfold roundWithAccuracy
  simp only [hfirst, ← hr, hsecond, mantissa_shiftRight, mantissa_ofMantissaAndAccuracy]
  by_cases hzero : r = 0
  · left
    simp [hzero]
  · have hpos : 0 < r / 2 ^ (r.log2 - 52) := by
      apply Nat.div_pos _ (by positivity)
      calc 2 ^ (r.log2 - 52) ≤ 2 ^ r.log2 := Nat.pow_le_pow_right two_pos (Nat.sub_le _ _)
        _ ≤ r := Nat.log2_self_le hzero
    right
    refine ⟨hzero, _, hpos, ?_⟩
    rw [dif_neg hpos.ne']

theorem overflowBound_eq : overflowBound = (2 ^ 53 - 1 / 2) * 2 ^ (971 : Int) := by
  have hhigh : (2 : ℚ) ^ 1024 = 2 ^ 53 * 2 ^ 971 := by
    rw [← pow_add]
  have hlow : (2 : ℚ) ^ 971 = 2 ^ 970 * 2 := pow_succ 2 970
  have hcast : (2 : ℚ) ^ (971 : Int) = 2 ^ 971 := zpow_natCast 2 971
  rw [overflowBound, hcast, hhigh, sub_mul, hlow]
  generalize (2 : ℚ) ^ 970 = unit
  ring

theorem cut_lt {k : Nat} (h : m.log2 ≤ 52 + k) : m / 2 ^ k < 2 ^ 53 := by
  rw [Nat.div_lt_iff_lt_mul (by positivity), ← pow_add]
  calc m < 2 ^ (m.log2 + 1) := Nat.lt_log2_self
    _ ≤ 2 ^ (53 + k) := Nat.pow_le_pow_right two_pos (by omega)

theorem le_cut {k : Nat} (h : m.log2 = 52 + k) : 2 ^ 52 ≤ m / 2 ^ k := by
  have hm : m ≠ 0 := by
    rintro rfl
    rw [Nat.log2_zero] at h
    omega
  rw [Nat.le_div_iff_mul_le (by positivity), ← pow_add, ← h]
  exact Nat.log2_self_le hm

section Range

variable {y : ℚ} {t : Int}

theorem overflowBound_le (hy : 2 ^ 53 - 1 / 2 ≤ y) (ht : 971 ≤ t) : overflowBound ≤ y * 2 ^ t := by
  have hscale : (2 : ℚ) ^ (971 : Int) ≤ 2 ^ t := zpow_le_zpow_right₀ one_le_two ht
  rw [overflowBound_eq]
  exact mul_le_mul hy hscale (by positivity) (le_trans (by norm_num) hy)

theorem lt_overflowBound (hy : y < 2 ^ 53 - 1 / 2) (hpos : 0 ≤ y) (ht : t ≤ 971) :
    y * 2 ^ t < overflowBound := by
  have hscale : (2 : ℚ) ^ t ≤ 2 ^ (971 : Int) := zpow_le_zpow_right₀ one_le_two ht
  rw [overflowBound_eq]
  exact mul_lt_mul_of_lt_of_le_of_nonneg_of_pos hy hscale hpos (by positivity)

/-- Half a value with the next exponent. -/
theorem half_mul_two_pow (y : ℚ) (t : Int) : y * 2 ^ t = y / 2 * 2 ^ (t + 1) := by
  rw [zpow_add_one₀ two_ne_zero]
  ring

theorem double_mul_two_pow (y : ℚ) (t : Int) : y * 2 ^ t = 2 * y * 2 ^ (t - 1) := by
  rw [zpow_sub_one₀ two_ne_zero]
  ring

end Range

/-- A significand of at most 53 bits at an exponent of the format. -/
theorem saturates_within (s : Sign) {u : UnpackedFloat} {c r : Nat} {y : ℚ} {t : Int}
    (ht : t ≤ 971) (hc : c < 2 ^ 53) (hy : (c : ℚ) ≤ y ∧ y < c + 1) (hr : r ≤ c + 1)
    (hrounded : 2 ^ 53 ≤ r ↔ 2 ^ 53 - 1 / 2 ≤ y)
    (hcases : (r = 0 ∧ u = .zero s) ∨ (r ≠ 0 ∧ ∃ (n : Nat) (hn : 0 < n),
      u = .finite s n (t + ((r.log2 - 52 : Nat) : Int)) hn)) :
    Saturates (Float.Model.pack u).unpack (y * 2 ^ t) := by
  have hpos : (0 : ℚ) ≤ y := le_trans (Nat.cast_nonneg _) hy.1
  rcases hcases with ⟨rfl, rfl⟩ | ⟨hr', n, hn, rfl⟩
  · have hy' : y < 2 ^ 53 - 1 / 2 := not_le.mp (mt hrounded.mpr (by norm_num))
    rw [unpack_pack_zero]
    exact saturates_of_isFinite rfl (lt_overflowBound hy' hpos ht)
  · by_cases hup : 2 ^ 53 ≤ r
    · -- The significand is rounded up to a power of two, which takes the next exponent.
      obtain rfl : r = 2 ^ 53 := by omega
      rw [Nat.log2_two_pow]
      rcases eq_or_lt_of_le ht with rfl | hlt
      · rw [pack_of_large s hn (by omega)]
        exact saturates_infinity s (overflowBound_le (hrounded.mp hup) le_rfl)
      · have hc' : (c : ℚ) + 1 ≤ 2 ^ 53 := by exact_mod_cast hc
        have hy' : y / 2 < 2 ^ 53 - 1 / 2 := by linarith
        rw [half_mul_two_pow]
        exact saturates_of_isFinite (isFinite_pack s hn (by omega))
          (lt_overflowBound hy' (by linarith) (by omega))
    · have hy' : y < 2 ^ 53 - 1 / 2 := not_le.mp (mt hrounded.mpr hup)
      have hlog : r.log2 < 53 := (Nat.log2_lt hr').mpr (by omega)
      exact saturates_of_isFinite (isFinite_pack s hn (by omega)) (lt_overflowBound hy' hpos ht)

/-- A rounded value is infinite from the bound on. -/
theorem saturates_roundWithAccuracy (s : Sign)
    (hx : Represents (ExtendedMantissa.ofMantissaAndAccuracy m acc) x)
    (hlow : e ≤ Format.binary64.targetExponent (totalExponent m e)) :
    Saturates (Float.Model.pack (roundWithAccuracy Format.binary64 s m e acc)).unpack
      (x * 2 ^ e) := by
  obtain ⟨k, hk⟩ : ∃ k : Nat, Format.binary64.targetExponent (totalExponent m e) = e + k :=
    ⟨(Format.binary64.targetExponent (totalExponent m e) - e).toNat, by omega⟩
  have hcases := @roundWithAccuracy_cases e acc s m k hk _ rfl
  have hcut := mantissa_shiftRight (ExtendedMantissa.ofMantissaAndAccuracy m acc) k
  have hy := (hx.shiftRight k).bounds
  have hrounded := (hx.shiftRight k).le_roundedMantissa_iff (k := 2 ^ 53) (by norm_num)
  have hr := roundedMantissa_bounds (ExtendedMantissa.ofMantissaAndAccuracy m acc >>> k)
  rw [mantissa_ofMantissaAndAccuracy] at hcut
  rw [hcut] at hy hr
  rw [targetExponent_eq, totalExponent] at hk
  have hvalue : x * 2 ^ e = x / 2 ^ k * 2 ^ (e + k : Int) := by
    rw [zpow_add₀ two_ne_zero, zpow_natCast]
    field_simp
  rw [hvalue]
  rcases le_or_gt (e + k : Int) 971 with hexponent | hexponent
  · exact saturates_within s hexponent (cut_lt (by omega)) hy hr.2 (by exact_mod_cast hrounded) hcases
  · -- An exponent this high leaves all 53 bits in front of the point, too many for any float.
    have hfull : 2 ^ 52 ≤ m / 2 ^ k := le_cut (by omega)
    have hfull' : (2 : ℚ) ^ 52 ≤ x / 2 ^ k := le_trans (by exact_mod_cast hfull) hy.1
    rcases hcases with ⟨hzero, -⟩ | ⟨-, n, hn, hfinite⟩
    · omega
    · rw [hfinite, pack_of_large s hn (by omega), double_mul_two_pow]
      exact saturates_infinity s (overflowBound_le (by linarith) (by omega))

end Rounding

theorem overflowBound_le_two_pow : overflowBound ≤ 2 ^ (1024 : Int) := by
  have hcast : (2 : ℚ) ^ (1024 : Int) = 2 ^ 1024 := zpow_natCast 2 1024
  rw [hcast, overflowBound, sub_le_self_iff]
  positivity

theorem two_pow_lt_overflowBound : (2 : ℚ) ^ (-1074 : Int) < overflowBound := by
  have hone := lt_overflowBound (y := 1) (t := -1074) (by norm_num) (by norm_num) (by norm_num)
  rwa [one_mul] at hone

section Operations

variable {m₁ m₂ : Nat} {e₁ e₂ : Int} {x : ℚ}

/-- A product with at least the bits of one significand of the format. -/
theorem saturates_mul (s t : Sign) (h₁ : 0 < m₁) (h₂ : 0 < m₂) (hfull : 2 ^ 52 ≤ m₁ * m₂) :
    Saturates (Float.Model.pack (UnpackedFloat.mul Format.binary64 (.finite s m₁ e₁ h₁)
      (.finite t m₂ e₂ h₂))).unpack (m₁ * 2 ^ e₁ * (m₂ * 2 ^ e₂)) := by
  have hlog : 52 ≤ (m₁ * m₂).log2 := (Nat.le_log2 (by omega)).mpr hfull
  have hlow : e₁ + e₂ ≤ Format.binary64.targetExponent (totalExponent (m₁ * m₂) (e₁ + e₂)) := by
    rw [targetExponent_eq, totalExponent]
    omega
  have hvalue : (m₁ : ℚ) * 2 ^ e₁ * (m₂ * 2 ^ e₂) = (m₁ * m₂ : Nat) * 2 ^ (e₁ + e₂) := by
    rw [zpow_add₀ two_ne_zero]
    push_cast
    ring
  rw [hvalue]
  exact saturates_roundWithAccuracy (s * t) (represents_exact _) hlow

/-- A value below the number behind a significand has no more bits than the significand. -/
theorem lt_two_pow_totalExponent {q : Nat} {g : Int} (hq : x < q + 1) :
    x * 2 ^ g < 2 ^ totalExponent q g := by
  have hbits : (q : ℚ) + 1 ≤ 2 ^ (q.log2 + 1) := by
    have : q + 1 ≤ 2 ^ (q.log2 + 1) := Nat.lt_log2_self
    exact_mod_cast this
  have hsplit : totalExponent q g = ((q.log2 + 1 : Nat) : Int) + g := by
    unfold totalExponent
    push_cast
    ring
  rw [hsplit, zpow_add₀ two_ne_zero, zpow_natCast]
  exact mul_lt_mul_of_pos_right (hq.trans_le hbits) (by positivity)

/-- The first bit of a quotient stands no lower than those of the operands say. -/
theorem totalExponent_sub_le (h₁ : 0 < m₁) (h₂ : 0 < m₂) {q : Nat} {g : Int}
    (hvalue : (m₁ : ℚ) * 2 ^ e₁ / (m₂ * 2 ^ e₂) < 2 ^ totalExponent q g) :
    totalExponent m₁ e₁ - totalExponent m₂ e₂ ≤ totalExponent q g := by
  have hlow := (two_pow_totalExponent h₁ e₁).1
  have hhigh := (two_pow_totalExponent h₂ e₂).2
  have hm₂ : (0 : ℚ) < m₂ * 2 ^ e₂ := by
    have : (0 : ℚ) < m₂ := by exact_mod_cast h₂
    positivity
  have hprod : (2 : ℚ) ^ (totalExponent m₁ e₁ - 1) <
      2 ^ (totalExponent q g + totalExponent m₂ e₂) := by
    rw [div_lt_iff₀ hm₂] at hvalue
    rw [zpow_add₀ two_ne_zero]
    calc (2 : ℚ) ^ (totalExponent m₁ e₁ - 1) ≤ m₁ * 2 ^ e₁ := hlow
      _ < 2 ^ totalExponent q g * (m₂ * 2 ^ e₂) := hvalue
      _ ≤ 2 ^ totalExponent q g * 2 ^ totalExponent m₂ e₂ :=
          mul_le_mul_of_nonneg_left hhigh.le (by positivity)
  have := (zpow_lt_zpow_iff_right₀ (one_lt_two (α := ℚ))).mp hprod
  omega

/-- A quotient is taken with at least the bits of a significand of the format. -/
theorem saturates_div (s t : Sign) (h₁ : 0 < m₁) (h₂ : 0 < m₂) :
    Saturates (Float.Model.pack (UnpackedFloat.div Format.binary64 (.finite s m₁ e₁ h₁)
      (.finite t m₂ e₂ h₂))).unpack (m₁ * 2 ^ e₁ / (m₂ * 2 ^ e₂)) := by
  -- The exponent of the quotient is fixed before its first bit is known, from the operands.
  obtain ⟨g, hg⟩ : ∃ g, g = min (e₁ - e₂)
      (Format.binary64.targetExponent (totalExponent m₁ e₁ - totalExponent m₂ e₂)) := ⟨_, rfl⟩
  obtain ⟨j, hj⟩ : ∃ j : Nat, e₁ = e₂ + g + j := ⟨(e₁ - e₂ - g).toNat, by omega⟩
  have hshift : (e₁ - e₂ - g).toNat = j := by omega
  have hm₂ : (0 : ℚ) < m₂ := by exact_mod_cast h₂
  have hvalue : (m₁ : ℚ) * 2 ^ e₁ / (m₂ * 2 ^ e₂) = ((m₁ * 2 ^ j : Nat) : ℚ) / m₂ * 2 ^ g := by
    rw [hj, zpow_add₀ two_ne_zero, zpow_add₀ two_ne_zero, zpow_natCast]
    push_cast
    field_simp
  have hquotient := represents_quotient (m₁ * 2 ^ j) h₂
  have hbits : totalExponent m₁ e₁ - totalExponent m₂ e₂ ≤ totalExponent (m₁ * 2 ^ j / m₂) g := by
    have hbelow := hquotient.bounds.2
    rw [mantissa_ofMantissaAndAccuracy] at hbelow
    apply totalExponent_sub_le h₁ h₂
    rw [hvalue]
    exact lt_two_pow_totalExponent hbelow
  have hlow : g ≤ Format.binary64.targetExponent (totalExponent (m₁ * 2 ^ j / m₂) g) := by
    rw [targetExponent_eq] at hg ⊢
    omega
  have hcore : divCore Format.binary64 m₁ e₁ m₂ e₂ =
      (m₁ * 2 ^ j / m₂, g, accuracyOfFraction (m₁ * 2 ^ j % m₂) m₂) := by
    simp only [divCore, ← hg, hshift, Nat.shiftLeft_eq]
  rw [hvalue]
  unfold UnpackedFloat.div
  simp only [hcore]
  exact saturates_roundWithAccuracy (s / t) hquotient hlow

end Operations

/-- The general way to read a decimal number. -/
theorem saturates_unpackedOfScientific {m : Nat} (hm : 0 < m) (e : Int) :
    Saturates (Float.Model.ofScientific m e).unpack (m * 10 ^ e) := by
  have hone : (1 : ℚ) ≤ m := by exact_mod_cast hm
  unfold Float.Model.ofScientific UnpackedFloat.ofScientific
  rw [dif_neg hm.ne']
  by_cases hlarge : e > 2 ^ Format.binary64.exponentBits
  · rw [if_pos hlarge]
    apply saturates_infinity
    have hexponent : 1024 ≤ e := by
      change 2048 < e at hlarge
      omega
    exact (overflowBound_le_two_pow.trans (two_pow_le_scientific hm hexponent))
  · rw [if_neg hlarge]
    by_cases hsmall : e < -(2 ^ Format.binary64.exponentBits + (m.log2 : Int))
    · rw [if_pos hsmall, unpack_pack_zero]
      apply saturates_of_isFinite rfl
      exact (scientific_lt_two_pow hsmall).trans two_pow_lt_overflowBound
    · rw [if_neg hsmall]
      by_cases hsign : 0 ≤ e
      · have hpow : (10 : ℚ) ^ e.toNat = 10 ^ e := by
          rw [← zpow_natCast, Int.toNat_of_nonneg hsign]
        have hfull : 2 ^ 52 ≤ m <<< Format.binary64.mantissaBits * 10 ^ e.toNat := by
          have hten : 1 ≤ 10 ^ e.toNat := Nat.one_le_pow _ _ (by omega)
          rw [Nat.shiftLeft_eq]
          calc 2 ^ 52 ≤ 1 * 2 ^ 53 * 1 := by norm_num
            _ ≤ m * 2 ^ 53 * 10 ^ e.toNat :=
                Nat.mul_le_mul (Nat.mul_le_mul_right _ hm) hten
        have hvalue : (m : ℚ) * 10 ^ e =
            (m <<< Format.binary64.mantissaBits : Nat) * 2 ^ (-(Format.binary64.mantissaBits : Int)) *
              ((10 ^ e.toNat : Nat) * 2 ^ (0 : Int)) := by
          rw [Nat.shiftLeft_eq]
          push_cast
          rw [hpow, zpow_neg, zpow_natCast]
          field_simp
        rw [if_pos hsign, hvalue]
        exact saturates_mul .positive .positive _ _ hfull
      · have hpow : (10 : ℚ) ^ (-e).toNat = 10 ^ (-e) := by
          rw [← zpow_natCast, Int.toNat_of_nonneg (by omega)]
        have hvalue : (m : ℚ) * 10 ^ e =
            m * 2 ^ (0 : Int) / ((10 ^ (-e).toNat : Nat) * 2 ^ (0 : Int)) := by
          push_cast
          rw [hpow, zpow_neg]
          field_simp
        rw [if_neg hsign, hvalue]
        exact saturates_div .positive .positive _ _

/-- The value of a decimal number without digits. -/
theorem saturates_zero (s : Sign) : Saturates (Float.Model.pack (.zero s)).unpack 0 := by
  have hbound : (0 : ℚ) < overflowBound := lt_trans (by positivity) two_pow_lt_overflowBound
  rw [unpack_pack_zero]
  exact saturates_of_isFinite rfl hbound

/-- Short digits with a small exponent are read by one operation on two exact numbers. -/
theorem saturates_powerOfTen {m e : Nat} (hlt : m < 2 ^ 53) (he : e ≤ 22) (negative : Bool) :
    Saturates (Float.ofScientific m negative e).toModel.unpack
      (m * 10 ^ (if negative then -(e : Int) else e)) := by
  have hin : e < Float.exactlyRepresentablePowersOfTen.size := Nat.lt_succ_of_le he
  obtain ⟨n₂, f₂, h₂, hu₂, hv₂⟩ := unpack_powerOfTen hin
  unfold Float.ofScientific
  rw [dif_pos ⟨hlt, he⟩]
  rcases Nat.eq_zero_or_pos m with rfl | hm
  · have hzero : (0 : Nat).toUInt64.toFloat.toModel.unpack = .zero .positive :=
      unpack_pack_zero .positive
    rw [Nat.cast_zero, zero_mul]
    cases negative with
    | true =>
        change Saturates (Float.Model.pack (UnpackedFloat.div Format.binary64
          (0 : Nat).toUInt64.toFloat.toModel.unpack
          Float.exactlyRepresentablePowersOfTen[e].toModel.unpack)).unpack 0
        rw [hzero, hu₂]
        exact saturates_zero _
    | false =>
        change Saturates (Float.Model.pack (UnpackedFloat.mul Format.binary64
          (0 : Nat).toUInt64.toFloat.toModel.unpack
          Float.exactlyRepresentablePowersOfTen[e].toModel.unpack)).unpack 0
        rw [hzero, hu₂]
        exact saturates_zero _
  · obtain ⟨n₁, f₁, h₁, hu₁, hv₁⟩ := unpack_toFloat hm hlt
    rw [← hv₁]
    cases negative with
    | true =>
        change Saturates (Float.Model.pack (UnpackedFloat.div Format.binary64
          m.toUInt64.toFloat.toModel.unpack
          Float.exactlyRepresentablePowersOfTen[e].toModel.unpack)).unpack _
        rw [hu₁, hu₂, if_pos rfl, zpow_neg, zpow_natCast, ← hv₂, ← div_eq_mul_inv]
        exact saturates_div .positive .positive h₁.pos h₂.pos
    | false =>
        have hfull₁ := (h₁.full_of_one_le (by rw [hv₁]; exact_mod_cast hm)).1
        change Saturates (Float.Model.pack (UnpackedFloat.mul Format.binary64
          m.toUInt64.toFloat.toModel.unpack
          Float.exactlyRepresentablePowersOfTen[e].toModel.unpack)).unpack _
        rw [hu₁, hu₂, if_neg (by simp), zpow_natCast, ← hv₂]
        exact saturates_mul .positive .positive h₁.pos h₂.pos
          (le_trans hfull₁ (Nat.le_mul_of_pos_right _ h₂.pos))

/-- Reading a value `m * 10 ^ e`. -/
theorem saturates_ofScientific (m : Nat) (negative : Bool) (e : Nat) :
    Saturates (Float.ofScientific m negative e).toModel.unpack
      (m * 10 ^ (if negative then -(e : Int) else e)) := by
  by_cases hfast : m < 2 ^ 53 ∧ e ≤ 22
  · exact saturates_powerOfTen hfast.1 hfast.2 negative
  · have hexponent : (if negative then Int.negOfNat e else Int.ofNat e) =
        (if negative then -(e : Int) else e) := by
      cases negative <;> simp [Int.negOfNat_eq]
    unfold Float.ofScientific
    rw [dif_neg hfast, ← hexponent]
    rcases Nat.eq_zero_or_pos m with rfl | hm
    · rw [Nat.cast_zero, zero_mul]
      exact saturates_zero .positive
    · exact saturates_unpackedOfScientific hm _

namespace Decimal

/-- A decimal number is read as infinity from the bound on. -/
theorem saturates_toFloat (d : Decimal) : Saturates d.toFloat.toModel.unpack d.value := by
  have hscientific := saturates_ofScientific (natOfDigits d.digits) (d.exponent < 0) d.exponent.natAbs
  have hexponent : (if decide (d.exponent < 0) = true then -(d.exponent.natAbs : Int)
      else d.exponent.natAbs) = d.exponent := by
    by_cases hneg : d.exponent < 0
    · rw [decide_eq_true hneg, if_pos rfl]
      omega
    · rw [decide_eq_false hneg, if_neg (by simp)]
      omega
  rw [hexponent] at hscientific
  exact hscientific

end Decimal

end GeoFilter.Number
