import GeoFilter.LikePattern
import GeoFilter.Spatial

/-!
Filters: what is asked of a feature. Conjunctions and disjunctions have at least
two operands, in the order in which they were written.
-/

namespace GeoFilter

inductive Comparison where
  | equal
  | notEqual
  | lesser
  | lesserOrEqual
  | greater
  | greaterOrEqual
deriving DecidableEq, Repr

def Comparison.symbol : Comparison → String
  | .equal => "="
  | .notEqual => "<>"
  | .lesser => "<"
  | .lesserOrEqual => "<="
  | .greater => ">"
  | .greaterOrEqual => ">="

inductive LogicalOp where
  | and
  | or
deriving DecidableEq, Repr

def LogicalOp.name : LogicalOp → String
  | .and => "AND"
  | .or => "OR"

/-- A test of an expression against a pattern, with the special characters that the
pattern was written for. -/
structure Like where
  operand : Expression
  pattern : String
  characters : LikeCharacters
  matchCase : Bool

inductive Filter where
  | everything
  | nothing
  | comparison (op : Comparison) (left right : Expression)
  | like (test : Like)
  | between (operand lower upper : Expression)
  | isNull (operand : Expression)
  | oneOf (operand : Expression) (values : List Expression)
  /-- The features with one of the identifiers. -/
  | ids (identifiers : List String)
  | spatial (predicate : SpatialPredicate)
  | logical (op : LogicalOp) (first second : Filter) (others : List Filter)
  | not (operand : Filter)

def Like.same (a b : Like) : Bool :=
  a.operand.same b.operand && a.pattern == b.pattern && a.characters == b.characters &&
    a.matchCase == b.matchCase

namespace Filter

/-- Joins filters. No filters at all join to the neutral element of the operator,
and a single one is left as it is. -/
def join (op : LogicalOp) : List Filter → Filter
  | [] =>
      match op with
      | .and => .everything
      | .or => .nothing
  | [operand] => operand
  | first :: second :: others => .logical op first second others

mutual

/-- Equality of filters by the values of their literals. -/
def same : Filter → Filter → Bool
  | .everything, .everything => true
  | .nothing, .nothing => true
  | .comparison op a b, .comparison op' a' b' => op == op' && a.same a' && b.same b'
  | .like test, .like test' => test.same test'
  | .between e l u, .between e' l' u' => e.same e' && l.same l' && u.same u'
  | .isNull e, .isNull e' => e.same e'
  | .oneOf e values, .oneOf e' values' => e.same e' && Expression.sameAll values values'
  | .ids identifiers, .ids identifiers' => identifiers == identifiers'
  | .spatial predicate, .spatial predicate' => predicate.same predicate'
  | .logical op a b others, .logical op' a' b' others' =>
      op == op' && same a a' && same b b' && sameAll others others'
  | .not a, .not a' => same a a'
  | _, _ => false

def sameAll : List Filter → List Filter → Bool
  | [], [] => true
  | a :: as, b :: bs => same a b && sameAll as bs
  | _, _ => false

end

end Filter

end GeoFilter
