import Mathlib
import GeoFilter.Proofs.Text.Pieces
import GeoFilter.Text.Blank
import GeoFilter.Text.Lines

/-!
The line of a text that a place stands in, and what is left of it without the white space at
both ends. Among the lines of the text it has the place's number, up to a carriage return in
its ending.
-/

namespace GeoFilter.Text

/-- The characters behind the last line feed of a text. -/
def lastLine (before : List Char) : List Char :=
  (before.reverse.takeWhile (· != '\n')).reverse

/-- The line around the place between two texts. -/
def lineAround (before after : List Char) : List Char :=
  lastLine before ++ after.takeWhile (· != '\n')

section Pieces

variable {separator : Char}

theorem pieces_append_separator (front rest : List Char) :
    pieces separator (front ++ separator :: rest) = pieces separator front ++ pieces separator rest := by
  induction front with
  | nil => simp [pieces, splitFirst]
  | cons c later ih =>
      simp only [pieces, List.cons_append] at ih ⊢
      obtain ⟨hfirst, hlater⟩ := List.cons.inj ih
      simp only [splitFirst, hfirst, hlater]
      split <;> rfl

theorem exists_pieces (text : List Char) :
    ∃ later, pieces separator text = text.takeWhile (· != separator) :: later := by
  induction text with
  | nil => exact ⟨[], rfl⟩
  | cons c rest ih =>
      obtain ⟨later, hlater⟩ := ih
      obtain ⟨hfirst, -⟩ := List.cons.inj hlater
      by_cases hc : c = separator
      · exact ⟨pieces separator rest, by simp [pieces, splitFirst, hc]⟩
      · exact ⟨(splitFirst separator rest).2, by simp [pieces, splitFirst, hc, hfirst]⟩

end Pieces

theorem not_mem_lastLine (before : List Char) : '\n' ∉ lastLine before := by
  intro hmem
  have hkept := List.all_eq_true.mp List.all_takeWhile _ (List.mem_reverse.mp hmem)
  exact absurd hkept (by decide)

/-- A text ends in its last line, with a line feed in front of it if there is more. -/
theorem eq_lastLine_or (before : List Char) :
    before = lastLine before ∨ ∃ front, before = front ++ '\n' :: lastLine before := by
  have hsplit := List.takeWhile_append_dropWhile (p := (· != '\n')) (l := before.reverse)
  have hreverse := congrArg List.reverse hsplit
  rw [List.reverse_append, List.reverse_reverse] at hreverse
  cases hdrop : before.reverse.dropWhile (· != '\n') with
  | nil =>
      rw [hdrop] at hreverse
      exact .inl hreverse.symm
  | cons c earlier =>
      have hhead := List.head?_dropWhile_not (· != '\n') before.reverse
      rw [hdrop] at hhead hreverse
      obtain rfl : c = '\n' := by simpa using hhead
      refine .inr ⟨earlier.reverse, ?_⟩
      rw [List.reverse_cons, List.append_assoc] at hreverse
      exact hreverse.symm

/-- As many pieces stand in front of the line around a place as line feeds. -/
theorem exists_pieces_lineAround (before after : List Char) :
    ∃ earlier later, pieces '\n' (before ++ after) = earlier ++ lineAround before after :: later ∧
      earlier.length = before.count '\n' := by
  have hnone := not_mem_lastLine before
  have htake : (lastLine before ++ after).takeWhile (· != '\n') = lineAround before after := by
    refine List.takeWhile_append_of_pos fun c hc => bne_iff_ne.mpr ?_
    rintro rfl
    exact hnone hc
  obtain ⟨later, hlater⟩ := @exists_pieces '\n' (lastLine before ++ after)
  rw [htake] at hlater
  rcases eq_lastLine_or before with hbefore | ⟨front, hbefore⟩
  · refine ⟨[], later, ?_, ?_⟩
    · rw [hbefore.symm] at hlater
      exact hlater
    · rw [hbefore, List.count_eq_zero_of_not_mem hnone]
      rfl
  · refine ⟨pieces '\n' front, later, ?_, ?_⟩
    · rw [← hlater, ← pieces_append_separator, ← List.cons_append, ← List.append_assoc, ← hbefore]
    · rw [pieces_length, hbefore, List.count_append, List.count_cons_self,
        List.count_eq_zero_of_not_mem hnone]

theorem exists_dropReturn (line : List Char) :
    ∃ ending, line = dropReturn line ++ ending ∧ ∀ c ∈ ending, isBlank c = true := by
  unfold dropReturn
  split
  · rename_i hlast
    refine ⟨['\r'], (List.dropLast_append_getLast? _ hlast).symm, fun c hc => ?_⟩
    rw [List.mem_singleton.mp hc]
    rfl
  · exact ⟨[], (List.append_nil line).symm, nofun⟩

/-- A piece that is not empty is a line, up to white space at its end. -/
theorem exists_getElem?_linesOfPieces (earlier later : List (List Char)) {piece : List Char}
    (h : piece ≠ []) : ∃ line ending,
      (linesOfPieces (earlier ++ piece :: later))[earlier.length]? = some line ∧
        piece = line ++ ending ∧ ∀ c ∈ ending, isBlank c = true := by
  induction earlier with
  | nil =>
      cases later with
      | nil =>
          have hnonempty : piece.isEmpty = false := List.isEmpty_eq_false_iff.mpr h
          exact ⟨piece, [], by simp [linesOfPieces, hnonempty], (List.append_nil _).symm, nofun⟩
      | cons next later =>
          obtain ⟨ending, hending, hblank⟩ := exists_dropReturn piece
          exact ⟨dropReturn piece, ending, rfl, hending, hblank⟩
  | cons first rest ih =>
      obtain ⟨line, ending, hline, hending⟩ := ih
      refine ⟨line, ending, ?_, hending⟩
      rw [← hline]
      cases rest <;> rfl

/-- The line around a place is the line with the number of the place, up to white space at its
end. -/
theorem exists_line (before after : List Char) (h : lineAround before after ≠ []) :
    ∃ line ending, (lines (before ++ after))[before.count '\n']? = some line ∧
      lineAround before after = line ++ ending ∧ ∀ c ∈ ending, isBlank c = true := by
  obtain ⟨earlier, later, hpieces, hlength⟩ := exists_pieces_lineAround before after
  rw [lines, hpieces, ← hlength]
  exact exists_getElem?_linesOfPieces earlier later h

section Trimming

variable {text ending front more : List Char} {c : Char}

theorem trimEnd_append_of_blank (h : ∀ c ∈ ending, isBlank c = true) :
    trimEnd (text ++ ending) = trimEnd text := by
  unfold trimEnd
  rw [List.reverse_append, List.dropWhile_append_of_pos]
  exact fun c hc => h c (List.mem_reverse.mp hc)

/-- White space at the end makes no difference. -/
theorem trim_append_of_blank (h : ∀ c ∈ ending, isBlank c = true) :
    trim (text ++ ending) = trim text := by
  unfold trim trimStart
  rw [List.dropWhile_append]
  split
  · rename_i hempty
    rw [List.isEmpty_iff.mp hempty, List.dropWhile_eq_nil_iff.mpr h]
  · exact trimEnd_append_of_blank h

theorem trimEnd_append_cons (h : isBlank c = false) :
    trimEnd (front ++ c :: more) = front ++ c :: trimEnd more := by
  unfold trimEnd
  rw [List.reverse_append, List.reverse_cons, List.append_assoc, List.dropWhile_append]
  split
  · rename_i hempty
    simp [List.isEmpty_iff.mp hempty, h]
  · simp

theorem takeWhile_append_cons (h : isBlank c = false) :
    (front ++ c :: more).takeWhile isBlank = front.takeWhile isBlank := by
  rw [List.takeWhile_append]
  split
  · rename_i hlength
    rw [List.takeWhile_cons_of_neg (by simp [h]), List.append_nil]
    exact ((List.takeWhile_prefix isBlank).eq_of_length hlength).symm
  · rfl

theorem dropWhile_append_cons (h : isBlank c = false) :
    (front ++ c :: more).dropWhile isBlank = front.dropWhile isBlank ++ c :: more := by
  rw [List.dropWhile_append]
  split
  · rename_i hempty
    rw [List.isEmpty_iff.mp hempty, List.dropWhile_cons_of_neg (by simp [h])]
    rfl
  · rfl

/-- What is no white space keeps its distance from the end of the white space in front. -/
theorem getElem?_trim (h : isBlank c = false) :
    (trim (front ++ c :: more))[front.length -
      ((front ++ c :: more).takeWhile isBlank).length]? = some c := by
  have hlength := congrArg List.length
    (List.takeWhile_append_dropWhile (p := isBlank) (l := front))
  rw [List.length_append] at hlength
  rw [trim, trimStart, dropWhile_append_cons h, trimEnd_append_cons h, takeWhile_append_cons h,
    show front.length - (front.takeWhile isBlank).length = (front.dropWhile isBlank).length by omega]
  simp

theorem length_trim_le (text : List Char) :
    (trim text).length ≤ text.length - (text.takeWhile isBlank).length := by
  have hlength := congrArg List.length
    (List.takeWhile_append_dropWhile (p := isBlank) (l := text))
  have hend := (List.dropWhile_sublist (l := (text.dropWhile isBlank).reverse) isBlank).length_le
  rw [List.length_append] at hlength
  rw [List.length_reverse] at hend
  rw [trim, trimEnd, trimStart, List.length_reverse]
  omega

end Trimming

end GeoFilter.Text
