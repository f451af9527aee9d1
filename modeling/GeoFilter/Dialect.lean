import GeoFilter.Arity
import GeoFilter.Filter
import GeoFilter.NameTable
import GeoFilter.Text.Lowercase

/-!
Dialects of the filter language: which spatial predicates and functions there are,
the special characters of patterns, what double quotes mean and how deep a filter
may nest.
-/

namespace GeoFilter

/-- What a text between double quotes denotes. -/
inductive QuoteStyle where
  | identifier
  | string
deriving DecidableEq, Repr

structure Dialect where
  /-- The enabled predicates. The names of the others are ordinary identifiers. -/
  spatialPredicates : List SpatialOp
  /-- The known functions by their names in lower case. -/
  functions : NameTable Arity
  /-- Whether a call of an unknown function is an error. -/
  strictFunctions : Bool
  like : LikeCharacters
  doubleQuotes : QuoteStyle
  /-- The limit for the nesting of parentheses, negations, signs and operator chains. -/
  maxDepth : Nat

/-- Why a dialect cannot be used. -/
inductive DialectFault where
  | likeCharactersClash
  | likeQuote
  | noDepth
  | reversedArity (name : String)
deriving DecidableEq, Repr

def DialectFault.message : DialectFault → String
  | .likeCharactersClash => "LIKE wildcard, single character and escape must differ"
  | .likeQuote => "LIKE special characters cannot include the string quote"
  | .noDepth => "max_depth must be positive"
  | .reversedArity name => s!"function `{name}` has max arity below min arity"

namespace Dialect

/-- The functions that are known without further description. -/
def standardFunctions : NameTable Arity := .ofList [
  ("abs", .exactly 1), ("area", .exactly 1), ("buffer", .exactly 2), ("ceil", .exactly 1),
  ("centroid", .exactly 1), ("floor", .exactly 1), ("geomlength", .exactly 1),
  ("max", .exactly 2), ("min", .exactly 2), ("round", .between 1 2), ("strconcat", .atLeast 2),
  ("strlength", .exactly 1), ("strsubstring", .exactly 3), ("strtolowercase", .exactly 1),
  ("strtouppercase", .exactly 1), ("strtrim", .exactly 1)]

/-- The dialect that holds where nothing else is said. -/
def standard : Dialect where
  spatialPredicates := SpatialOp.all
  functions := standardFunctions
  strictFunctions := false
  like := .standard
  doubleQuotes := .identifier
  maxDepth := 128

def spatialEnabled (d : Dialect) (op : SpatialOp) : Bool :=
  d.spatialPredicates.contains op

/-- The arity of a function, whose name is looked up in lower case. -/
def functionArity? (d : Dialect) (name : String) : Option Arity :=
  d.functions.find? (Text.lowercase name)

/-- The first fault of a dialect. Functions are looked at in the order of their names. -/
def fault? (d : Dialect) : Option DialectFault :=
  let like := d.like
  if like.wildcard = like.single ∨ like.wildcard = like.escape ∨ like.single = like.escape then
    some .likeCharactersClash
  else if like.isSpecial '\'' then
    some .likeQuote
  else if d.maxDepth = 0 then
    some .noDepth
  else
    (d.functions.entries.find? (fun (_, arity) => arity.reversed)).map fun (name, _) =>
      .reversedArity name

/-- The same dialect with the names of its functions in lower case. Of several names
with one lower case the last in order counts. -/
def withLowercaseFunctions (d : Dialect) : Dialect :=
  { d with
    functions := .ofList
      (d.functions.entries.map fun (name, arity) => (Text.lowercase name, arity)) }

/-- Whether two dialects agree in everything. -/
def same (a b : Dialect) : Bool :=
  a.spatialPredicates == b.spatialPredicates && a.functions == b.functions &&
    a.strictFunctions == b.strictFunctions && a.like == b.like &&
    a.doubleQuotes == b.doubleQuotes && a.maxDepth == b.maxDepth

end Dialect

end GeoFilter
