import GeoFilter.Dialect
import GeoFilter.Number.Layout
import GeoFilter.Text.Pieces
import GeoFilter.Token.Word

/-!
The canonical text of geometries, expressions and filters in a dialect. Parentheses
stand only where precedence asks for them and around a conjunction or disjunction
that is the operand of another filter.
-/

namespace GeoFilter

open Number Text

namespace Writing

/-- Texts with commas between them. -/
def commas (parts : List String) : String :=
  ", ".intercalate parts

def parenthesised (text : String) : String :=
  "(" ++ text ++ ")"

def parenthesisedIf (condition : Bool) (text : String) : String :=
  if condition then parenthesised text else text

/-- A text between quotation marks, with the marks inside doubled. -/
def between (mark : Char) (text : String) : String :=
  String.ofList
    (mark :: (text.toList.flatMap (fun c => if c = mark then [c, c] else [c]) ++ [mark]))

def stringText (text : String) : String :=
  between '\'' text

def coordinateNumber (x : Float) : String :=
  Layout.coordinate.text x

def literalNumber (x : Float) : String :=
  Layout.literal.text x

def coordinateText (c : Coordinate) : String :=
  let plane := coordinateNumber c.x ++ " " ++ coordinateNumber c.y
  match c.z with
  | some z => plane ++ " " ++ coordinateNumber z
  | none => plane

def pathText (coordinates : List Coordinate) : String :=
  parenthesised (commas (coordinates.map coordinateText))

def pathsText (lines : List (List Coordinate)) : String :=
  parenthesised (commas (lines.map pathText))

/-- Whether every segment of a path is a word that denotes itself. -/
def isPlainPath (d : Dialect) (name : String) : Bool :=
  (pieces '.' name.toList).all fun segment => isPlainWord d (String.ofList segment)

/-- A property name, between double quotes if it could not be read back otherwise. -/
def propertyText (d : Dialect) (name : String) : String :=
  if isPlainPath d name then name else between '"' name

/-- A unit, which is a string if it is no plain word. -/
def unitText (d : Dialect) (name : String) : String :=
  if isPlainWord d name then name else stringText name

end Writing

open Writing

namespace Geometry

mutual

def write : Geometry → String
  | .envelope e =>
      "ENVELOPE" ++ parenthesised (commas
        [coordinateNumber e.minX, coordinateNumber e.maxX, coordinateNumber e.maxY,
          coordinateNumber e.minY])
  | .point none => "POINT EMPTY"
  | .point (some c) => "POINT" ++ parenthesised (coordinateText c)
  | .lineString [] => "LINESTRING EMPTY"
  | .lineString coordinates => "LINESTRING" ++ pathText coordinates
  | .polygon [] => "POLYGON EMPTY"
  | .polygon rings => "POLYGON" ++ pathsText rings
  | .multiPoint [] => "MULTIPOINT EMPTY"
  | .multiPoint coordinates => "MULTIPOINT" ++ pathText coordinates
  | .multiLineString [] => "MULTILINESTRING EMPTY"
  | .multiLineString lines => "MULTILINESTRING" ++ pathsText lines
  | .multiPolygon [] => "MULTIPOLYGON EMPTY"
  | .multiPolygon polygons => "MULTIPOLYGON" ++ parenthesised (commas (polygons.map pathsText))
  | .collection [] => "GEOMETRYCOLLECTION EMPTY"
  | .collection (first :: others) =>
      "GEOMETRYCOLLECTION" ++ parenthesised (commas (write first :: writeAll others))

def writeAll : List Geometry → List String
  | [] => []
  | first :: others => write first :: writeAll others

end

end Geometry

def Literal.write : Literal → String
  | .integer value => toString value.toInt
  | .float value => literalNumber value
  | .string value => stringText value
  | .boolean true => "TRUE"
  | .boolean false => "FALSE"
  | .null => "NULL"
  | .geometry value => value.write

namespace Expression

/-- Whether an operand needs parentheses beside an operator. Operators associate to
the left, so a right operand of the same precedence needs them and a left one does
not. -/
def needsParentheses (parent : ArithmeticOp) (right : Bool) : Expression → Bool
  | .arithmetic op _ _ =>
      op.precedence < parent.precedence || (right && op.precedence == parent.precedence)
  | _ => false

mutual

def write (d : Dialect) : Expression → String
  | .literal value => value.write
  | .property name => propertyText d name
  | .arithmetic op left right =>
      parenthesisedIf (needsParentheses op false left) (write d left) ++
        " " ++ op.symbol ++ " " ++
        parenthesisedIf (needsParentheses op true right) (write d right)
  | .call name arguments => name ++ parenthesised (commas (writeAll d arguments))

def writeAll (d : Dialect) : List Expression → List String
  | [] => []
  | first :: others => write d first :: writeAll d others

end

end Expression

def SpatialPredicate.write (d : Dialect) (predicate : SpatialPredicate) : String :=
  predicate.op.name ++ parenthesised (commas (
    match predicate with
    | .binary _ left right => [left.write d, right.write d]
    | .distance _ left right limit unit =>
        [left.write d, right.write d, literalNumber limit, unitText d unit]
    | .box operand e crs =>
        [operand.write d, literalNumber e.minX, literalNumber e.minY, literalNumber e.maxX,
          literalNumber e.maxY] ++ (crs.map stringText).toList
    | .pattern left right marks => [left.write d, right.write d, stringText marks]))

/-- A pattern is written with the special characters of the dialect. -/
def Like.write (d : Dialect) (test : Like) : String :=
  let pattern := test.characters.respell d.like test.pattern.toList
  test.operand.write d ++ (if test.matchCase then " LIKE " else " ILIKE ") ++
    stringText (String.ofList pattern)

namespace Filter

def isLogical : Filter → Bool
  | .logical _ _ _ _ => true
  | _ => false

mutual

def write (d : Dialect) : Filter → String
  | .everything => "INCLUDE"
  | .nothing => "EXCLUDE"
  | .comparison op left right => left.write d ++ " " ++ op.symbol ++ " " ++ right.write d
  | .like test => test.write d
  | .between operand lower upper =>
      operand.write d ++ " BETWEEN " ++ lower.write d ++ " AND " ++ upper.write d
  | .isNull operand => operand.write d ++ " IS NULL"
  | .oneOf operand values =>
      operand.write d ++ " IN " ++ parenthesised (commas (Expression.writeAll d values))
  | .ids identifiers => "IN " ++ parenthesised (commas (identifiers.map stringText))
  | .spatial predicate => predicate.write d
  | .logical op first second others =>
      (" " ++ op.name ++ " ").intercalate
        (parenthesisedIf first.isLogical (write d first) ::
          parenthesisedIf second.isLogical (write d second) :: writeOperands d others)
  | .not operand => "NOT " ++ parenthesisedIf operand.isLogical (write d operand)

def writeOperands (d : Dialect) : List Filter → List String
  | [] => []
  | first :: others => parenthesisedIf first.isLogical (write d first) :: writeOperands d others

end

end Filter

end GeoFilter
