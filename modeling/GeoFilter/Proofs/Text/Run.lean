/-!
Runs of characters of one class. A run that is followed by a character outside the class
is exactly what is taken from the front of the text.
-/

namespace GeoFilter.Text

variable {p : Char → Bool} {run rest : List Char}

theorem takeWhile_run (hrun : ∀ c ∈ run, p c = true) (hrest : ∀ c ∈ rest.head?, p c = false) :
    (run ++ rest).takeWhile p = run := by
  rw [List.takeWhile_append_of_pos hrun]
  cases rest with
  | nil => simp
  | cons c later =>
      have hc : p c = false := hrest c rfl
      simp [hc]

theorem dropWhile_run (hrun : ∀ c ∈ run, p c = true) (hrest : ∀ c ∈ rest.head?, p c = false) :
    (run ++ rest).dropWhile p = rest := by
  have hsplit := List.takeWhile_append_dropWhile (p := p) (l := run ++ rest)
  rw [takeWhile_run hrun hrest] at hsplit
  exact List.append_cancel_left hsplit

theorem exists_of_takeWhile_ne_nil (h : run.takeWhile p ≠ []) :
    ∃ c later, run = c :: later ∧ p c = true := by
  cases run with
  | nil => exact absurd rfl h
  | cons c later =>
      cases hc : p c with
      | true => exact ⟨c, later, rfl, hc⟩
      | false => exact absurd (by simp [hc]) h

end GeoFilter.Text
