import GeoFilter.Proofs.Number.Numeral
import GeoFilter.Proofs.Number.Overflow

/-!
Integers of 64 bits. Digits with an optional minus sign are read exactly where 64 bits hold their
value, and refused otherwise. The text of an integer is such digits, which read back as the
integer, and the floating-point number nearest to one is finite.
-/

namespace GeoFilter.Number

open Float.Model Float.Model.UnpackedFloat

theorem le_ofDigitChars (digits : List Char) (value : Nat) :
    value ≤ Nat.ofDigitChars 10 digits value := by
  rw [Nat.ofDigitChars_eq_ofDigitChars_zero]
  have : 1 * value ≤ 10 ^ digits.length * value :=
    Nat.mul_le_mul_right value (Nat.one_le_pow _ _ (by omega))
  omega

/-- Digits whose value stays below the limit are read as their value. -/
theorem readMagnitude_digits {limit : Nat} {overflow : NumberFault} {digits : List Char}
    (h : ∀ c ∈ digits, c.isDigit = true) {value : Nat}
    (hlimit : Nat.ofDigitChars 10 digits value ≤ limit) :
    readMagnitude limit overflow value digits = .ok (Nat.ofDigitChars 10 digits value) := by
  induction digits generalizing value with
  | nil => simp [readMagnitude]
  | cons c rest ih =>
      have hdigit : c.isDigit = true := h c List.mem_cons_self
      rw [Nat.ofDigitChars_cons] at hlimit ⊢
      have hlonger : 10 * value + (c.toNat - 48) ≤ limit :=
        le_trans (le_ofDigitChars rest _) hlimit
      simp only [readMagnitude, hdigit, if_true]
      rw [if_pos hlonger]
      exact ih (fun d hd => h d (List.mem_cons_of_mem _ hd)) hlimit

/-- The first digit that takes the value above the limit is refused, and there is one if the value
of all digits is above. -/
theorem readMagnitude_overflow {limit : Nat} {overflow : NumberFault} {digits : List Char}
    (h : ∀ c ∈ digits, c.isDigit = true) {value : Nat} (hvalue : value ≤ limit)
    (hlimit : limit < Nat.ofDigitChars 10 digits value) :
    readMagnitude limit overflow value digits = .error overflow := by
  induction digits generalizing value with
  | nil => exact absurd hlimit (not_lt.mpr hvalue)
  | cons c rest ih =>
      have hdigit : c.isDigit = true := h c List.mem_cons_self
      rw [Nat.ofDigitChars_cons] at hlimit
      simp only [readMagnitude, hdigit, if_true]
      split
      · rename_i hlonger
        exact ih (fun d hd => h d (List.mem_cons_of_mem _ hd)) hlonger hlimit
      · rfl

/-- Digits with the sign in front that they have. -/
def signedDigits (negative : Bool) (digits : List Char) : List Char :=
  (if negative then ['-'] else []) ++ digits

/-- A magnitude with a sign. -/
def signed (negative : Bool) (magnitude : Nat) : Int :=
  if negative then -(magnitude : Int) else magnitude

/-- An integer that 64 bits hold. -/
def FitsInteger (value : Int) : Prop :=
  -2 ^ 63 ≤ value ∧ value < 2 ^ 63

instance (value : Int) : Decidable (FitsInteger value) :=
  inferInstanceAs (Decidable (-2 ^ 63 ≤ value ∧ value < 2 ^ 63))

/-- The greatest magnitude with a sign, which is greater by one behind a minus sign. -/
def magnitudeLimit (negative : Bool) : Nat :=
  if negative then 2 ^ 63 else 2 ^ 63 - 1

/-- What is wrong with a magnitude above the limit. -/
def overflowFault (negative : Bool) : NumberFault :=
  if negative then .tooSmall else .tooLarge

theorem fitsInteger_signed_iff {negative : Bool} {magnitude : Nat} :
    FitsInteger (signed negative magnitude) ↔ magnitude ≤ magnitudeLimit negative := by
  cases negative <;>
    simp only [FitsInteger, signed, magnitudeLimit, if_true, Bool.false_eq_true, if_false] <;> omega

section Signed

variable {digits : List Char} {negative : Bool}

theorem readInteger_signedDigits (hne : digits ≠ []) (h : ∀ c ∈ digits, c.isDigit = true) :
    readInteger (signedDigits negative digits) =
      (readMagnitude (magnitudeLimit negative) (overflowFault negative) 0 digits).map
        fun magnitude : Nat => Int64.ofInt (signed negative magnitude) := by
  obtain ⟨c, rest, rfl⟩ := List.exists_cons_of_ne_nil hne
  cases negative with
  | true =>
      simp only [signedDigits, if_true, List.cons_append, List.nil_append, readInteger, splitSign]
      rfl
  | false =>
      have hsplit := splitSign_digit (h c List.mem_cons_self) rest
      simp only [signedDigits, Bool.false_eq_true, if_false, List.nil_append, readInteger, hsplit]
      rfl

theorem readInteger_of_fits (hne : digits ≠ []) (h : ∀ c ∈ digits, c.isDigit = true)
    (hfits : FitsInteger (signed negative (natOfDigits digits))) :
    readInteger (signedDigits negative digits) =
      .ok (Int64.ofInt (signed negative (natOfDigits digits))) := by
  have hlimit := fitsInteger_signed_iff.mp hfits
  rw [natOfDigits_eq] at hlimit ⊢
  rw [readInteger_signedDigits hne h, readMagnitude_digits h hlimit]
  rfl

theorem readInteger_of_not_fits (hne : digits ≠ []) (h : ∀ c ∈ digits, c.isDigit = true)
    (hfits : ¬FitsInteger (signed negative (natOfDigits digits))) :
    readInteger (signedDigits negative digits) = .error (overflowFault negative) := by
  rw [fitsInteger_signed_iff, not_le, natOfDigits_eq] at hfits
  rw [readInteger_signedDigits hne h, readMagnitude_overflow h (Nat.zero_le _) hfits]
  rfl

end Signed

theorem toList_toString_int (value : Int) :
    (toString value).toList =
      (if value < 0 then ['-'] else []) ++ (Numeral.ofNat value.natAbs).text := by
  rw [Numeral.text_ofNat, Int.toString_eq_repr, Int.repr_eq_if]
  by_cases hneg : value < 0
  · have habs : (-value).toNat = value.natAbs := by omega
    rw [if_neg (by omega), if_pos hneg, String.toList_append, Nat.toList_repr, habs]
    rfl
  · have habs : value.toNat = value.natAbs := by omega
    rw [if_pos (by omega), if_neg hneg, Nat.toList_repr, habs]
    rfl

/-- A numeral without point and exponent, with the sign of an integer in front and its
magnitude as value, is read as the integer. -/
theorem readInteger_numeral (value : Int64) :
    readInteger (signedDigits (decide (value.toInt < 0)) (Numeral.ofNat value.toInt.natAbs).text) =
      .ok value := by
  have hvalue : signed (decide (value.toInt < 0))
      (natOfDigits (Numeral.ofNat value.toInt.natAbs).text) = value.toInt := by
    rw [Numeral.text_ofNat, natOfDigits_toDigits, signed]
    simp only [decide_eq_true_eq]
    split <;> omega
  have hfits : FitsInteger value.toInt := ⟨Int64.le_toInt value, Int64.toInt_lt value⟩
  rw [readInteger_of_fits]
  · rw [hvalue, Int64.ofInt_toInt]
  · rw [Numeral.text_ofNat]
    exact Nat.toDigits_ne_nil
  · rw [Numeral.text_ofNat]
    exact toDigits_all _
  · rwa [hvalue]

theorem isFinite_ofNat {n : Nat} (hn : n ≤ 2 ^ 64) : (Float.ofNat n).isFinite = true := by
  have hvalue : (n : ℚ) < overflowBound := by
    have hbound := lt_overflowBound (y := 2 ^ 52) (t := 12) (by norm_num) (by norm_num) (by norm_num)
    calc (n : ℚ) ≤ ((2 ^ 64 : Nat) : ℚ) := Nat.cast_le.mpr hn
      _ = 2 ^ 52 * 2 ^ (12 : Int) := by norm_num
      _ < overflowBound := hbound
  have hread := (saturates_ofScientific n false 0).isFinite
  rw [if_neg (by simp), Nat.cast_zero, zpow_zero, mul_one] at hread
  exact hread.mpr hvalue

theorem isFinite_neg {x : Float} (h : x.isFinite = true) : (-x).isFinite = true := by
  have hparts := (finiteParts_unpack h).neg.isFinite
  rw [← unpack_neg h] at hparts
  exact hparts

/-- A sign in front does not matter for whether a number is infinite. -/
theorem saturates_neg {x : Float} {v : ℚ} (h : Saturates x.toModel.unpack v) :
    Saturates (-x).toModel.unpack v := by
  by_cases hv : overflowBound ≤ v
  · have hinf := h.isInf.mpr hv
    have hneg : (-x).toModel.unpack = (Float.Model.pack x.toModel.unpack.neg).unpack := rfl
    cases hx : x.toModel.unpack with
    | infinity s =>
        rw [hneg, hx]
        exact saturates_infinity (-s) hv
    | _ =>
        rw [hx] at hinf
        cases hinf
  · have hlt := not_le.mp hv
    exact saturates_of_isFinite (isFinite_neg (h.isFinite.mpr hlt)) hlt

/-- The number nearest to an integer of 64 bits is finite. -/
theorem isFinite_ofInt (value : Int64) : (Float.ofInt value.toInt).isFinite = true := by
  have hlow := Int64.le_toInt value
  have hhigh := Int64.toInt_lt value
  generalize value.toInt = integer at hlow hhigh
  cases integer with
  | ofNat n =>
      have hn : (n : Int) < 2 ^ 63 := hhigh
      exact isFinite_ofNat (by omega)
  | negSucc n =>
      have hn : -2 ^ 63 ≤ -((n : Int) + 1) := hlow
      exact isFinite_neg (isFinite_ofNat (n := n + 1) (by omega))

end GeoFilter.Number
