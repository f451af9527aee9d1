import GeoFilter.Dialect
import GeoFilter.Text.Numeral
import GeoFilter.Token

/-!
Words: what they are made of, and which of them are keywords in a dialect.
-/

namespace GeoFilter

open Text

/-- Whether a word can begin with a character. -/
def isWordStart (c : Char) : Bool :=
  isLetter c || c == '_'

/-- Whether a word can go on with a character. -/
def isWordChar (c : Char) : Bool :=
  isLetterOrNumeral c || c == '_' || c == ':'

/-- What can start a word can also continue one. -/
theorem isWordChar_of_isWordStart {c : Char} (h : isWordStart c = true) :
    isWordChar c = true := by
  simp only [isWordStart, Bool.or_eq_true] at h
  simp only [isWordChar, isLetterOrNumeral, Bool.or_eq_true]
  exact h.elim (fun letter => .inl (.inl (.inl letter))) (fun line => .inl (.inr line))

/-- Classifies a word. The reserved keywords come first, then the spatial predicates
that the dialect enables, then the geometry types; any other word is an identifier. -/
def classifyWord (d : Dialect) (word : String) : TokenKind :=
  match Keyword.ofWord? word with
  | some keyword => .keyword keyword
  | none =>
      match (SpatialOp.ofName? word).filter d.spatialEnabled with
      | some op => .keyword (.spatial op)
      | none =>
          match GeometryType.ofName? word with
          | some type => .keyword (.geometry type)
          | none => .identifier word

/-- Whether a text is a word that denotes itself. -/
def isPlainWord (d : Dialect) (word : String) : Bool :=
  match word.toList with
  | [] => false
  | first :: rest =>
      isWordStart first && rest.all isWordChar && classifyWord d word == .identifier word

end GeoFilter
