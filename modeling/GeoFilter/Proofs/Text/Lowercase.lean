import Mathlib
import GeoFilter.Text.AsciiCase
import GeoFilter.Text.Lowercase

/-!
Words that differ at most in the case of ASCII letters have one lower case. An ASCII letter
and its capital have the same lower case, and what they say to a sigma beside them is the same.
-/

namespace GeoFilter.Text

/-- Only the small ASCII letters have another capital. -/
theorem toUpper_of_not_small {c : Char} (h : ¬(97 ≤ c.toNat ∧ c.toNat ≤ 122)) : c.toUpper = c := by
  unfold Char.toUpper
  rw [dif_neg]
  rintro ⟨hfirst, hlast⟩
  exact h ⟨UInt32.le_iff_toNat_le.mp hfirst, UInt32.le_iff_toNat_le.mp hlast⟩

/-- What does not tell the small ASCII letters from their capitals never does so. -/
theorem map_toUpper {α : Type} {f : Char → α}
    (hletters : ∀ n : Fin 26, f (Char.ofNat (97 + n)).toUpper = f (Char.ofNat (97 + n)))
    (c : Char) : f c.toUpper = f c := by
  by_cases hsmall : 97 ≤ c.toNat ∧ c.toNat ≤ 122
  · have h := hletters ⟨c.toNat - 97, by omega⟩
    rwa [Nat.add_sub_cancel' hsmall.1, Char.ofNat_toNat] at h
  · rw [toUpper_of_not_small hsmall]

theorem lowerChar_toUpper : ∀ c : Char, lowerChar c.toUpper = lowerChar c :=
  map_toUpper (by decide +kernel)

theorem isCased_toUpper : ∀ c : Char, isCased c.toUpper = isCased c :=
  map_toUpper (by decide +kernel)

theorem isCaseIgnorable_toUpper : ∀ c : Char, isCaseIgnorable c.toUpper = isCaseIgnorable c :=
  map_toUpper (by decide +kernel)

theorem isSigma_toUpper : ∀ c : Char, (c.toUpper == 'Σ') = (c == 'Σ') :=
  @map_toUpper _ (· == 'Σ') (by decide +kernel)

theorem startsCased_toUpper (text : List Char) :
    startsCased (text.map Char.toUpper) = startsCased text := by
  have hignorable : isCaseIgnorable ∘ Char.toUpper = isCaseIgnorable :=
    funext isCaseIgnorable_toUpper
  have hcased : isCased ∘ Char.toUpper = isCased := funext isCased_toUpper
  simp only [startsCased, List.dropWhile_map, List.head?_map, Option.map_map, hignorable, hcased]

/-- By induction on the text, for whatever stands in front of it. -/
theorem lowerAfter_toUpper (before text : List Char) :
    lowerAfter (before.map Char.toUpper) (text.map Char.toUpper) = lowerAfter before text := by
  induction text generalizing before with
  | nil => rfl
  | cons c after ih =>
      have hafter := ih (c :: before)
      rw [List.map_cons] at hafter
      simp only [List.map_cons, lowerAfter, isSigma_toUpper, startsCased_toUpper,
        lowerChar_toUpper, hafter]

theorem lowercase_eq_of_sameWord {a b : String} (h : sameWord a b = true) :
    lowercase a = lowercase b := by
  have hupper : a.toList.map Char.toUpper = b.toList.map Char.toUpper := beq_iff_eq.mp h
  have hlower : lowerAfter [] a.toList = lowerAfter [] b.toList := by
    rw [← lowerAfter_toUpper [] a.toList, ← lowerAfter_toUpper [] b.toList, hupper]
  rw [lowercase, lowercase, hlower]

end GeoFilter.Text
