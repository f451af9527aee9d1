import GeoFilter.Grammar.Check
import GeoFilter.Grammar.Production

/-!
Geometry literals: the keyword of a type, followed by EMPTY or by coordinates between
parentheses.
-/

namespace GeoFilter.Grammar

/-- A number with an optional minus sign. -/
def signedNumber : Parse Float := do
  let negative ← accept (.operator .minus)
  let here ← mark
  match ← next with
  | .number digits => check here (Check.ordinate negative digits)
  | found => unexpected found .coordinate here

/-- Two numbers, or three. -/
def coordinate : Parse Coordinate := do
  let x ← signedNumber
  let y ← signedNumber
  match ← peek with
  | .number _ | .operator .minus =>
      let z ← signedNumber
      return ⟨x, y, some z⟩
  | _ => return ⟨x, y, none⟩

/-- Coordinates between parentheses. -/
def path : Parse (List Coordinate) := do
  let opening ← expectPunctuation .openParen
  list opening coordinate

/-- Rings between parentheses. -/
def rings : Parse (List Ring) := do
  let opening ← expectPunctuation .openParen
  list opening path

/-- A coordinate, which may stand between parentheses of its own. -/
def multiPointMember : Parse Coordinate := do
  let here ← mark
  if ← accept (.punctuation .openParen) then
    let c ← coordinate
    close here
    return c
  else
    coordinate

/-- The bounds of an envelope. Both horizontal bounds come first, and the greater of
the vertical ones before the lesser. -/
def envelopeBounds (opening : Mark) : Parse Envelope := do
  let minX ← signedNumber
  let _ ← expectPunctuation .comma
  let maxX ← signedNumber
  let _ ← expectPunctuation .comma
  let maxY ← signedNumber
  let _ ← expectPunctuation .comma
  let minY ← signedNumber
  close opening
  return ⟨minX, minY, maxX, maxY⟩

/-- What stands between the parentheses of a geometry of the given type. -/
def geometryBody (d : Dialect) (inner : Level) (here opening : Mark) :
    GeometryType → Parse Geometry
  | .point => do
      let c ← coordinate
      close opening
      return .point (some c)
  | .lineString => return .lineString (← list opening coordinate)
  | .polygon => return .polygon (← list opening path)
  | .multiPoint => return .multiPoint (← list opening multiPointMember)
  | .multiLineString => return .multiLineString (← list opening path)
  | .multiPolygon => return .multiPolygon (← list opening rings)
  | .collection =>
      return .collection (← nested d .nesting here (list opening (inner .member)))
  | .envelope => return .envelope (← envelopeBounds opening)

/-- The geometry behind a keyword, whose place is given. -/
def geometry (d : Dialect) (inner : Level) (here : Mark) (type : GeometryType) :
    Parse Geometry := do
  if ← accept (.keyword .empty) then
    match Geometry.empty? type with
    | some value => return value
    | none => fail (.cannotBeEmpty type) here
  else
    let opening ← expectPunctuation .openParen
    let value ← geometryBody d inner here opening type
    checkNone here (Check.geometryFault? value)
    return value

/-- A member of a geometry collection, which is a geometry literal of its own. -/
def member (d : Dialect) (inner : Level) : Parse Geometry := do
  let here ← mark
  match ← next with
  | .keyword (.geometry type) => geometry d inner here type
  | found => unexpected found .geometry here

end GeoFilter.Grammar
