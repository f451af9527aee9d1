import GeoFilter.Grammar.Cursor

/-!
The productions that contain each other. Each of them is defined in terms of the
productions one level further in, and the tower of these levels is as high as the
dialect lets a filter nest.
-/

namespace GeoFilter.Grammar

/-- What a parenthesised group or a primary turned out to be. The production around it
decides which of the two it can use. -/
inductive Parsed where
  | filter (value : Filter)
  | expression (value : Expression)

def requireFilter (start : Mark) : Parsed → Parse Filter
  | .filter value => pure value
  | .expression _ => fail .predicateExpected start

def requireExpression (start : Mark) : Parsed → Parse Expression
  | .expression value => pure value
  | .filter _ => fail .expressionExpected start

/-- The productions that are entered one level further in. -/
inductive Nested where
  /-- What stands between parentheses, and a filter or an expression as a whole. -/
  | group
  /-- The operand of NOT. -/
  | negated
  /-- The operand of a minus sign. -/
  | signed
  /-- An argument of a function, a spatial predicate or IN. -/
  | argument
  /-- A member of a geometry collection. -/
  | member
deriving DecidableEq, Repr

abbrev Nested.Result : Nested → Type
  | .group => Parsed
  | .negated => Parsed
  | .signed => Parsed
  | .argument => Expression
  | .member => Geometry

/-- The productions of one level. -/
abbrev Level := (production : Nested) → Parse production.Result

end GeoFilter.Grammar
