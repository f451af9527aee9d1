import GeoFilter.Text.Pieces

/-!
Dividing a text at a separator and joining pieces with one are inverse to each other, as
long as the pieces do not hold the separator.
-/

namespace GeoFilter.Text

variable {separator : Char}

theorem pieces_of_not_mem {text : List Char} (h : separator ∉ text) :
    pieces separator text = [text] := by
  induction text with
  | nil => rfl
  | cons c rest ih =>
      obtain ⟨hc, hrest⟩ := not_or.mp (mt List.mem_cons.mpr h)
      have hsplit := ih hrest
      simp only [pieces, List.cons.injEq] at hsplit
      have hne : (c == separator) = false := by simpa using Ne.symm hc
      simp [pieces, splitFirst, hsplit, hne]

theorem pieces_append {piece : List Char} (h : separator ∉ piece) (rest : List Char) :
    pieces separator (piece ++ separator :: rest) = piece :: pieces separator rest := by
  induction piece with
  | nil => simp [pieces, splitFirst]
  | cons c later ih =>
      obtain ⟨hc, hlater⟩ := not_or.mp (mt List.mem_cons.mpr h)
      have hsplit := ih hlater
      simp only [pieces, List.cons.injEq] at hsplit
      have hne : (c == separator) = false := by simpa using Ne.symm hc
      simp [pieces, splitFirst, hsplit, hne]

theorem pieces_intercalate {parts : List (List Char)} (hnonempty : parts ≠ [])
    (h : ∀ part ∈ parts, separator ∉ part) :
    pieces separator ([separator].intercalate parts) = parts := by
  induction parts with
  | nil => exact absurd rfl hnonempty
  | cons first others ih =>
      have hfirst := h first List.mem_cons_self
      cases others with
      | nil =>
          rw [List.intercalate_singleton]
          exact pieces_of_not_mem hfirst
      | cons second later =>
          rw [List.intercalate_cons_cons, List.append_assoc, List.singleton_append,
            pieces_append hfirst, ih (by simp) fun part hpart => h part (List.mem_cons_of_mem _ hpart)]

theorem mem_of_mem_intercalate {c : Char} {parts : List (List Char)}
    (h : c ∈ [separator].intercalate parts) : c = separator ∨ ∃ part ∈ parts, c ∈ part := by
  induction parts with
  | nil => cases h
  | cons first others ih =>
      cases others with
      | nil =>
          rw [List.intercalate_singleton] at h
          exact .inr ⟨first, List.mem_cons_self, h⟩
      | cons second later =>
          rw [List.intercalate_cons_cons, List.append_assoc, List.mem_append, List.mem_append,
            List.mem_singleton] at h
          rcases h with hfirst | hseparator | hrest
          · exact .inr ⟨first, List.mem_cons_self, hfirst⟩
          · exact .inl hseparator
          · exact (ih hrest).imp_right fun ⟨part, hpart, hc⟩ =>
              ⟨part, List.mem_cons_of_mem _ hpart, hc⟩

theorem pieces_ne_nil (text : List Char) : pieces separator text ≠ [] := by
  simp [pieces]

theorem intercalate_pieces (text : List Char) :
    [separator].intercalate (pieces separator text) = text := by
  induction text with
  | nil => rfl
  | cons c rest ih =>
      simp only [pieces] at ih
      simp only [pieces, splitFirst]
      split
      · rename_i hc
        rw [List.intercalate_cons_cons, ih]
        simpa using (beq_iff_eq.mp hc).symm
      · cases hlater : (splitFirst separator rest).2 with
        | nil =>
            rw [hlater, List.intercalate_singleton] at ih
            rw [List.intercalate_singleton, ih]
        | cons second later =>
            rw [hlater, List.intercalate_cons_cons] at ih
            rw [List.intercalate_cons_cons, List.cons_append, List.cons_append, ih]

end GeoFilter.Text
