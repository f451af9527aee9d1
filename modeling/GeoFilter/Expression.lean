import GeoFilter.Geometry

/-!
Value expressions: literals, properties of the feature, arithmetic and function
calls.
-/

namespace GeoFilter

inductive Literal where
  | integer (value : Int64)
  | float (value : Float)
  | string (value : String)
  | boolean (value : Bool)
  | null
  | geometry (value : Geometry)

namespace Literal

/-- The number that a numeric literal stands for. -/
def toFloat? : Literal → Option Float
  | .integer value => some (Float.ofInt value.toInt)
  | .float value => some value
  | _ => none

/-- Equality by value: the two zeros are equal, and what is not a number equals
nothing. -/
def same : Literal → Literal → Bool
  | .integer a, .integer b => a == b
  | .float a, .float b => a == b
  | .string a, .string b => a == b
  | .boolean a, .boolean b => a == b
  | .null, .null => true
  | .geometry a, .geometry b => a.same b
  | _, _ => false

end Literal

inductive ArithmeticOp where
  | add
  | subtract
  | multiply
  | divide
deriving DecidableEq, Repr

namespace ArithmeticOp

def symbol : ArithmeticOp → String
  | .add => "+"
  | .subtract => "-"
  | .multiply => "*"
  | .divide => "/"

/-- How tightly an operator binds its operands. -/
def precedence : ArithmeticOp → Nat
  | .add => 1
  | .subtract => 1
  | .multiply => 2
  | .divide => 2

end ArithmeticOp

inductive Expression where
  | literal (value : Literal)
  /-- A property, whose name may be a path with dots. -/
  | property (name : String)
  | arithmetic (op : ArithmeticOp) (left right : Expression)
  | call (name : String) (arguments : List Expression)

namespace Expression

def integer (value : Int64) : Expression := .literal (.integer value)

/-- The literal that an expression consists of. -/
def literal? : Expression → Option Literal
  | .literal value => some value
  | _ => none

/-- The string that an expression consists of. -/
def string? : Expression → Option String
  | .literal (.string value) => some value
  | _ => none

mutual

/-- Equality of expressions by the values of their literals. -/
def same : Expression → Expression → Bool
  | .literal a, .literal b => a.same b
  | .property a, .property b => a == b
  | .arithmetic op a b, .arithmetic op' a' b' => op == op' && same a a' && same b b'
  | .call name arguments, .call name' arguments' =>
      name == name' && sameAll arguments arguments'
  | _, _ => false

def sameAll : List Expression → List Expression → Bool
  | [], [] => true
  | a :: as, b :: bs => same a b && sameAll as bs
  | _, _ => false

end

end Expression

end GeoFilter
