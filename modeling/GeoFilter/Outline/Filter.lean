import GeoFilter.Filter
import GeoFilter.Outline

/-!
The outlines of geometries, expressions and filters.
-/

namespace GeoFilter

open Outline

def GeometryType.label : GeometryType → String
  | .point => "Point"
  | .lineString => "LineString"
  | .polygon => "Polygon"
  | .multiPoint => "MultiPoint"
  | .multiLineString => "MultiLineString"
  | .multiPolygon => "MultiPolygon"
  | .collection => "GeometryCollection"
  | .envelope => "Envelope"

def GeometryType.outline (type : GeometryType) : Outline :=
  .plain type.label

def Coordinate.outline (c : Coordinate) : Outline :=
  .record "Coordinate"
    [("x", .float c.x), ("y", .float c.y), ("z", .ofOption (c.z.map Outline.float))]

def Envelope.outline (e : Envelope) : Outline :=
  .record "Envelope"
    [("min_x", .float e.minX), ("min_y", .float e.minY), ("max_x", .float e.maxX),
      ("max_y", .float e.maxY)]

def pathOutline (path : List Coordinate) : Outline :=
  .sequence (path.map Coordinate.outline)

def pathsOutline (paths : List (List Coordinate)) : Outline :=
  .sequence (paths.map pathOutline)

mutual

/-- What the outline of a geometry holds under the label of its type. -/
def Geometry.content : Geometry → Outline
  | .point position => .ofOption (position.map Coordinate.outline)
  | .lineString path => pathOutline path
  | .polygon rings => pathsOutline rings
  | .multiPoint points => pathOutline points
  | .multiLineString paths => pathsOutline paths
  | .multiPolygon polygons => .sequence (polygons.map pathsOutline)
  | .collection members => .sequence (Geometry.outlines members)
  | .envelope e => e.outline

def Geometry.outlines : List Geometry → List Outline
  | [] => []
  | g :: rest => .tagged g.type.label g.content :: Geometry.outlines rest

end

def Geometry.outline (g : Geometry) : Outline :=
  .tagged g.type.label g.content

def Literal.outline : Literal → Outline
  | .integer value => .tagged "Integer" (.integer value.toInt)
  | .float value => .tagged "Float" (.float value)
  | .string value => .tagged "String" (.text value)
  | .boolean value => .tagged "Boolean" (.boolean value)
  | .null => .plain "Null"
  | .geometry value => .tagged "Geometry" value.outline

def ArithmeticOp.outline : ArithmeticOp → Outline
  | .add => .plain "Add"
  | .subtract => .plain "Subtract"
  | .multiply => .plain "Multiply"
  | .divide => .plain "Divide"

mutual

def Expression.outline : Expression → Outline
  | .literal value => .tagged "Literal" value.outline
  | .property name => .tagged "Property" (.text name)
  | .arithmetic op left right =>
      .variant "Arithmetic" [("op", op.outline), ("left", left.outline), ("right", right.outline)]
  | .call name arguments =>
      .variant "Function"
        [("name", .text name), ("args", .sequence (Expression.outlines arguments))]

def Expression.outlines : List Expression → List Outline
  | [] => []
  | e :: rest => e.outline :: Expression.outlines rest

end

/-- The labels of the predicates; they are encoded by their names. -/
def SpatialOp.label : SpatialOp → String
  | .intersects => "Intersects"
  | .disjoint => "Disjoint"
  | .contains => "Contains"
  | .within => "Within"
  | .touches => "Touches"
  | .crosses => "Crosses"
  | .overlaps => "Overlaps"
  | .equals => "Equals"
  | .dwithin => "DWithin"
  | .beyond => "Beyond"
  | .bbox => "BBox"
  | .relate => "Relate"

def SpatialOp.outline (op : SpatialOp) : Outline :=
  .symbol op.label op.name

def SpatialPredicate.outline : SpatialPredicate → Outline
  | .binary op left right =>
      .variant "Binary" [("op", op.outline), ("left", left.outline), ("right", right.outline)]
  | .distance op left right limit units =>
      .variant "Distance"
        [("op", op.outline), ("left", left.outline), ("right", right.outline),
          ("distance", .float limit), ("units", .text units)]
  | .box operand e crs =>
      .variant "BBox"
        [("expression", operand.outline), ("envelope", e.outline),
          ("crs", .ofOption (crs.map Outline.text))]
  | .pattern left right marks =>
      .variant "Relate"
        [("left", left.outline), ("right", right.outline), ("pattern", .text marks)]

def Comparison.outline : Comparison → Outline
  | .equal => .plain "Equal"
  | .notEqual => .plain "NotEqual"
  | .lesser => .plain "Lesser"
  | .lesserOrEqual => .plain "LesserOrEqual"
  | .greater => .plain "Greater"
  | .greaterOrEqual => .plain "GreaterOrEqual"

def LogicalOp.outline : LogicalOp → Outline
  | .and => .plain "And"
  | .or => .plain "Or"

def Like.outline (test : Like) : Outline :=
  .record "Like"
    [("expression", test.operand.outline), ("pattern", .text test.pattern),
      ("wildcard", .character test.characters.wildcard),
      ("single_char", .character test.characters.single),
      ("escape", .character test.characters.escape), ("match_case", .boolean test.matchCase)]

mutual

def Filter.outline : Filter → Outline
  | .everything => .plain "Include"
  | .nothing => .plain "Exclude"
  | .comparison op left right =>
      .variant "Comparison" [("op", op.outline), ("left", left.outline), ("right", right.outline)]
  | .like test => .tagged "Like" test.outline
  | .between operand lower upper =>
      .variant "Between"
        [("expression", operand.outline), ("lower", lower.outline), ("upper", upper.outline)]
  | .isNull operand => .tagged "IsNull" operand.outline
  | .oneOf operand values =>
      .variant "In"
        [("expression", operand.outline), ("values", .sequence (Expression.outlines values))]
  | .ids identifiers => .tagged "Id" (.sequence (identifiers.map Outline.text))
  | .spatial predicate => .tagged "Spatial" predicate.outline
  | .logical op first second others =>
      .tagged "Logical" (.record "Logical"
        [("op", op.outline),
          ("operands",
            .sequence (first.outline :: second.outline :: Filter.outlines others))])
  | .not operand => .tagged "Not" operand.outline

def Filter.outlines : List Filter → List Outline
  | [] => []
  | f :: rest => f.outline :: Filter.outlines rest

end

end GeoFilter
