/-!
The pieces of a text between the places where one character stands.
-/

namespace GeoFilter.Text

/-- The text up to the first separator, and the pieces that the separators of the rest
divide it into. -/
def splitFirst (separator : Char) : List Char → List Char × List (List Char)
  | [] => ([], [])
  | c :: rest =>
      let (piece, later) := splitFirst separator rest
      if c == separator then ([], piece :: later) else (c :: piece, later)

/-- The pieces of a text, of which there is always one more than separators. -/
def pieces (separator : Char) (text : List Char) : List (List Char) :=
  let (first, later) := splitFirst separator text
  first :: later

/-- The separators and the pieces account for every character. -/
theorem pieces_length (separator : Char) (text : List Char) :
    (pieces separator text).length = text.count separator + 1 := by
  simp only [pieces, List.length_cons, Nat.add_right_cancel_iff]
  induction text with
  | nil => rfl
  | cons c rest ih =>
      by_cases h : c = separator
      · subst h
        simp [splitFirst, ih]
      · simp [splitFirst, h, ih]

end GeoFilter.Text
