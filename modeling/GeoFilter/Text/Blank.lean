import GeoFilter.Text.Boundaries

/-!
White space and control characters, and the trimming of text at both ends.
-/

namespace GeoFilter.Text

/-- The code points with the property White_Space. -/
def blankBoundaries : Boundaries := [
  0x9, 0xe, 0x20, 0x21, 0x85, 0x86, 0xa0, 0xa1, 0x1680, 0x1681, 0x2000, 0x200b, 0x2028, 0x202a,
  0x202f, 0x2030, 0x205f, 0x2060, 0x3000, 0x3001]

def isBlank (c : Char) : Bool :=
  inside blankBoundaries c.toNat

/-- The control characters of category Cc, which fill two blocks. -/
def isControl (c : Char) : Bool :=
  c.toNat < 0x20 || (0x7f ≤ c.toNat && c.toNat < 0xa0)

/-- Text without the white space in front of it. -/
def trimStart (text : List Char) : List Char :=
  text.dropWhile isBlank

/-- Text without the white space behind it. -/
def trimEnd (text : List Char) : List Char :=
  (text.reverse.dropWhile isBlank).reverse

def trim (text : List Char) : List Char :=
  trimEnd (trimStart text)

/-- Every character that the ASCII class counts as white space is blank. -/
theorem isBlank_of_isWhitespace {c : Char} (h : c.isWhitespace = true) :
    isBlank c = true := by
  simp only [Char.isWhitespace, Bool.or_eq_true, decide_eq_true_eq] at h
  rcases h with ((h | h) | h) | h <;> subst h <;> rfl

end GeoFilter.Text
