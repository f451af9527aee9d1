import GeoFilter.Proofs.Number.Scientific
import GeoFilter.Proofs.Text.Run

/-!
Decimal numbers and their values. The normal form of a decimal number keeps the value
and depends on the digits only up to zeros at either end; from a normal form whose value
is representable the value is read exactly.
-/

namespace GeoFilter.Number

open Float.Model Float.Model.UnpackedFloat Text

theorem natOfDigits_eq (digits : List Char) :
    natOfDigits digits = Nat.ofDigitChars 10 digits 0 := by
  rw [Nat.ofDigitChars_eq_foldl]
  rfl

@[simp] theorem natOfDigits_toDigits (n : Nat) : natOfDigits (Nat.toDigits 10 n) = n := by
  rw [natOfDigits_eq, Nat.ofDigitChars_ten_toDigits]

theorem natOfDigits_append_zeros (digits : List Char) (k : Nat) :
    natOfDigits (digits ++ List.replicate k '0') = natOfDigits digits * 10 ^ k := by
  rw [natOfDigits_eq, natOfDigits_eq, Nat.ofDigitChars_append, Nat.ofDigitChars_replicate_zero,
    mul_comm]

theorem natOfDigits_zeros_append (k : Nat) (digits : List Char) :
    natOfDigits (List.replicate k '0' ++ digits) = natOfDigits digits := by
  rw [natOfDigits_eq, natOfDigits_eq, Nat.ofDigitChars_append, Nat.ofDigitChars_replicate_zero,
    mul_zero]

namespace Decimal

/-- The number that a decimal form stands for. -/
def value (d : Decimal) : ℚ :=
  natOfDigits d.digits * 10 ^ d.exponent

/-- Digits of which neither the first nor the last is a zero. -/
structure Trimmed (text : List Char) : Prop where
  digits : ∀ c ∈ text, c.isDigit = true
  nonempty : text ≠ []
  first : text.head? ≠ some '0'
  last : text.getLast? ≠ some '0'

/-- The forms that `Decimal.normal` produces. -/
def IsNormal (d : Decimal) : Prop :=
  d = ⟨[], 0⟩ ∨ Trimmed d.digits

theorem takeWhile_zero (text : List Char) :
    text.takeWhile (· == '0') = List.replicate (text.takeWhile (· == '0')).length '0' := by
  apply List.eq_replicate_of_mem
  intro c hc
  simpa using List.mem_takeWhile_imp hc

/-- Zeros in front and behind make up the difference between digits and what a normal
form keeps of them. -/
theorem exists_zeros (digits : List Char) :
    ∃ (a b : Nat) (kept : List Char),
      digits = List.replicate a '0' ++ kept ++ List.replicate b '0' ∧
      kept = ((digits.dropWhile (· == '0')).reverse.dropWhile (· == '0')).reverse ∧
      ((digits.dropWhile (· == '0')).reverse.takeWhile (· == '0')).length = b := by
  refine ⟨(digits.takeWhile (· == '0')).length, _, _, ?_, rfl, rfl⟩
  set backwards := (digits.dropWhile (· == '0')).reverse with hbackwards
  have hback : digits.dropWhile (· == '0') =
      (backwards.dropWhile (· == '0')).reverse ++ (backwards.takeWhile (· == '0')).reverse := by
    rw [← List.reverse_append, List.takeWhile_append_dropWhile, hbackwards, List.reverse_reverse]
  rw [takeWhile_zero backwards, List.reverse_replicate] at hback
  rw [← takeWhile_zero digits, List.append_assoc, ← hback, List.takeWhile_append_dropWhile]

theorem value_normal (digits : List Char) (exponent : Int) :
    (normal digits exponent).value = natOfDigits digits * 10 ^ exponent := by
  obtain ⟨a, b, kept, hdigits, hkept, hb⟩ := exists_zeros digits
  have hvalue : natOfDigits digits = natOfDigits kept * 10 ^ b := by
    rw [hdigits, natOfDigits_append_zeros, natOfDigits_zeros_append]
  unfold normal
  simp only [← hkept, hb]
  by_cases hempty : kept.isEmpty = true
  · rw [if_pos hempty, hvalue, List.isEmpty_iff.mp hempty]
    simp [value, natOfDigits]
  · rw [if_neg hempty, hvalue]
    unfold value
    push_cast
    rw [zpow_add₀ (by norm_num), zpow_natCast]
    ring

theorem isNormal_normal {digits : List Char} (h : ∀ c ∈ digits, c.isDigit = true)
    (exponent : Int) : IsNormal (normal digits exponent) := by
  unfold normal
  simp only
  split
  · exact .inl rfl
  · rename_i hkept
    have hnonempty : (digits.dropWhile (· == '0')).reverse.dropWhile (· == '0') ≠ [] := by
      simpa using hkept
    set forwards := digits.dropWhile (· == '0') with hforwards
    have hmem : ∀ c ∈ (forwards.reverse.dropWhile (· == '0')).reverse, c ∈ digits := by
      intro c hc
      have hc' := (List.dropWhile_sublist _).mem (List.mem_reverse.mp hc)
      exact (List.dropWhile_sublist _).mem (List.mem_reverse.mp hc')
    refine .inr ⟨fun c hc => h c (hmem c hc), by simpa using hkept, ?_, ?_⟩
    · have hprefix : (forwards.reverse.dropWhile (· == '0')).reverse <+: forwards := by
        have := (List.dropWhile_suffix (· == '0') (l := forwards.reverse)).reverse
        rwa [List.reverse_reverse] at this
      obtain ⟨c, rest, hcons⟩ := List.exists_cons_of_ne_nil (List.reverse_ne_nil_iff.mpr hnonempty)
      obtain ⟨behind, hbehind⟩ := hprefix
      rw [hcons] at hbehind ⊢
      have hhead := List.head?_dropWhile_not (· == '0') digits
      rw [← hforwards, ← hbehind] at hhead
      simpa using hhead
    · rw [List.getLast?_reverse]
      have hhead := List.head?_dropWhile_not (· == '0') forwards.reverse
      intro hzero
      rw [hzero] at hhead
      simp at hhead

/-- Zeros around trimmed digits are taken off again, and those behind them are counted. -/
theorem normal_padded {digits : List Char} (h : Trimmed digits) (a b : Nat) (exponent : Int) :
    normal (List.replicate a '0' ++ digits ++ List.replicate b '0') exponent =
      ⟨digits, exponent + b⟩ := by
  have hzeros : ∀ k, ∀ c ∈ List.replicate k '0', (c == '0') = true := by
    intro k c hc
    simp [List.eq_of_mem_replicate hc]
  have hfirst : ∀ c ∈ (digits ++ List.replicate b '0').head?, (c == '0') = false := by
    obtain ⟨c, rest, hcons⟩ := List.exists_cons_of_ne_nil h.nonempty
    have := h.first
    rw [hcons] at this ⊢
    simpa using this
  have hlast : ∀ c ∈ digits.reverse.head?, (c == '0') = false := by
    intro c hc
    rw [List.head?_reverse] at hc
    have := h.last
    rw [hc] at this
    simpa using this
  unfold normal
  simp only [List.append_assoc, dropWhile_run (hzeros a) hfirst, List.reverse_append,
    List.reverse_replicate, dropWhile_run (hzeros b) hlast, takeWhile_run (hzeros b) hlast,
    List.reverse_reverse, List.length_replicate]
  rw [if_neg (by simpa using h.nonempty)]

/-- A representable value is read from a decimal form without a rounding error. -/
theorem unpack_toFloat {d : Decimal} {n : Nat} {f : Int} (h : Representable n f)
    (hv : d.value = n * 2 ^ f) : d.toFloat.toModel.unpack = .finite .positive n f h.pos := by
  apply unpack_ofScientific h
  rw [← hv]
  unfold value
  by_cases hneg : d.exponent < 0
  · rw [decide_eq_true hneg, if_pos rfl]
    congr 2
    omega
  · rw [decide_eq_false hneg, if_neg (by simp)]
    congr 2
    omega

end Decimal

end GeoFilter.Number
