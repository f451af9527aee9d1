import GeoFilter.Diagnostic
import GeoFilter.Text.Lines

/-!
Excerpts of a text: the line that an error stands in, with a caret below the place.
-/

namespace GeoFilter

open Text

structure Excerpt where
  /-- The number of the line, counted from one. -/
  number : Nat
  /-- The line without white space around it. -/
  line : List Char
  /-- How many characters of the line stand to the left of the caret. -/
  caret : Nat
deriving DecidableEq, Repr

namespace Excerpt

/-- The excerpt around a place. There is none if the text has no such line. -/
def around? (source : String) (place : Position) : Option Excerpt :=
  (lines source.toList)[place.line - 1]?.map fun line =>
    ⟨place.line, trim line, place.column - 1 - (line.takeWhile isBlank).length⟩

/-- What stands in front of the line. -/
def label (excerpt : Excerpt) : List Char :=
  s!"line {excerpt.number}:  ".toList

/-- The row with the line. -/
def lineRow (excerpt : Excerpt) : List Char :=
  excerpt.label ++ excerpt.line

/-- The row with the caret. -/
def caretRow (excerpt : Excerpt) : List Char :=
  List.replicate (excerpt.label.length + excerpt.caret) ' ' ++ ['^']

def rows (excerpt : Excerpt) : List String :=
  [String.ofList excerpt.lineRow, String.ofList excerpt.caretRow]

end Excerpt

end GeoFilter
