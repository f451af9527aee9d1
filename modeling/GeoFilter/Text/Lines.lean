import GeoFilter.Text.Pieces

/-!
The lines of a text. A line ends with a line feed, and a carriage return directly
before the line feed belongs to the ending.
-/

namespace GeoFilter.Text

/-- A line without the carriage return at its end. -/
def dropReturn (line : List Char) : List Char :=
  if line.getLast? = some '\r' then line.dropLast else line

/-- The lines that the pieces between line feeds make up. What follows the last line
feed is a line only if it is not empty, and no ending is taken off it. -/
def linesOfPieces : List (List Char) → List (List Char)
  | [] => []
  | [last] => if last.isEmpty then [] else [last]
  | piece :: next :: later => dropReturn piece :: linesOfPieces (next :: later)

def lines (text : List Char) : List (List Char) :=
  linesOfPieces (pieces '\n' text)

end GeoFilter.Text
