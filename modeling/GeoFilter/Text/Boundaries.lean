/-!
Sets of code points, stored as the places where membership changes. The tables
of the character classes are lists of this kind.
-/

namespace GeoFilter.Text

/-- Ascending code points. Below the first one nothing is a member, and each of
them turns membership over. -/
abbrev Boundaries := List Nat

/-- Whether a code point is a member of the set that the boundaries describe. -/
def inside : Boundaries → Nat → Bool
  | [], _ => false
  | boundary :: later, point =>
      if point < boundary then false else !inside later point

@[simp] theorem inside_nil (point : Nat) : inside [] point = false := rfl

/-- Below the first boundary there are no members. -/
theorem inside_of_lt {boundary point : Nat} {later : Boundaries}
    (h : point < boundary) : inside (boundary :: later) point = false := by
  simp [inside, h]

/-- From the first boundary on, the answer is the opposite of what the later
boundaries say. -/
theorem inside_of_le {boundary point : Nat} {later : Boundaries}
    (h : boundary ≤ point) :
    inside (boundary :: later) point = !inside later point := by
  simp [inside, Nat.not_lt.mpr h]

end GeoFilter.Text
