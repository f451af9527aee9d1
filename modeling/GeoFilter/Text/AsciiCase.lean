/-!
Comparison of words without regard to the case of ASCII letters. Letters outside
ASCII have to agree exactly.
-/

namespace GeoFilter.Text

def upperAscii (word : String) : List Char :=
  word.toList.map Char.toUpper

/-- Whether two words differ at most in the case of ASCII letters. -/
def sameWord (a b : String) : Bool :=
  upperAscii a == upperAscii b

@[simp] theorem sameWord_self (word : String) : sameWord word word = true := by
  simp [sameWord]

end GeoFilter.Text
