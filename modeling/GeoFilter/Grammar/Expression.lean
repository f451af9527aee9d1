import GeoFilter.Grammar.Geometry

/-!
Value expressions: primaries, signs and the two levels of arithmetic. A predicate can
come up wherever an expression does, since a group between parentheses may hold
either; an operator then refuses it.
-/

namespace GeoFilter.Grammar

/-- Arguments between parentheses, the first of which is already consumed. -/
def arguments (d : Dialect) (inner : Level) (opening : Mark) : Parse (List Expression) :=
  nested d .nesting opening (list opening (inner .argument))

/-- Arguments between parentheses, or an empty pair of them. -/
def callArguments (d : Dialect) (inner : Level) : Parse (List Expression) := do
  let opening ← expectPunctuation .openParen
  if ← accept (.punctuation .closeParen) then
    return []
  else
    arguments d inner opening

/-- The segments of a property path behind the first. -/
def pathSegments : Nat → Parse (List String)
  | 0 => return []
  | count + 1 => do
      if ← accept (.punctuation .dot) then
        let here ← mark
        match ← next with
        | .identifier name | .quotedIdentifier name =>
            let rest ← pathSegments count
            return name :: rest
        | found => unexpected found .propertyName here
      else
        return []

/-- A property, whose path begins with the given name. -/
def property (name : String) : Parse Expression := do
  let segments ← pathSegments (← tokensLeft)
  return .property (".".intercalate (name :: segments))

/-- The opening parenthesis of a list behind IN, which must not be empty. -/
def openValues : Parse Mark := do
  let opening ← expectPunctuation .openParen
  if (← peek) = .punctuation .closeParen then
    fail .noValues opening
  else
    return opening

def featureIdentifier : Parse String := do
  let here ← mark
  match ← next with
  | .string name | .number name => return name
  | found => unexpected found .featureIdentifier here

/-- A literal, a property, a call, a geometry, a spatial predicate, a list of feature
identifiers, or a group between parentheses. -/
def primary (d : Dialect) (inner : Level) : Parse Parsed := do
  let here ← mark
  match ← next with
  | .number digits =>
      let value ← check here (Check.numberLiteral false digits)
      return .expression (.literal value)
  | .string value => return .expression (.literal (.string value))
  | .keyword .truth => return .expression (.literal (.boolean true))
  | .keyword .falsity => return .expression (.literal (.boolean false))
  | .keyword .null => return .expression (.literal .null)
  | .identifier name =>
      if (← peek) = .punctuation .openParen then
        let given ← callArguments d inner
        checkNone here (Check.functionFault? d name given.length)
        return .expression (.call name given)
      else
        return .expression (← property name)
  | .quotedIdentifier name => return .expression (← property name)
  | .keyword (.geometry type) =>
      let value ← geometry d inner here type
      return .expression (.literal (.geometry value))
  | .keyword (.spatial op) =>
      let given ← callArguments d inner
      let predicate ← check here (Check.spatialPredicate op given)
      return .filter (.spatial predicate)
  | .keyword .everything => return .filter .everything
  | .keyword .nothing => return .filter .nothing
  | .keyword .oneOf =>
      let opening ← openValues
      return .filter (.ids (← list opening featureIdentifier))
  | .punctuation .openParen =>
      let start ← mark
      let parsed ← nested d .nesting start (inner .group)
      close here
      return parsed
  | found => unexpected found .expression here

/-- A primary with any number of minus signs in front. A sign before a number belongs
to the number; any other subtracts what follows from zero. -/
def unary (d : Dialect) (inner : Level) : Parse Parsed := do
  if (← peek) = .operator .minus then
    let here ← mark
    let _ ← next
    let start ← mark
    match ← peek with
    | .number digits =>
        let _ ← next
        let value ← check start (Check.numberLiteral true digits)
        return .expression (.literal value)
    | _ =>
        let operand ← nested d .nesting here do
          requireExpression start (← inner .signed)
        return .expression (.arithmetic .subtract (.integer 0) operand)
  else
    primary d inner

def additive? : TokenKind → Option ArithmeticOp
  | .operator .plus => some .add
  | .operator .minus => some .subtract
  | _ => none

def multiplicative? : TokenKind → Option ArithmeticOp
  | .operator .star => some .multiply
  | .operator .slash => some .divide
  | _ => none

/-- The rest of an operator chain behind its left operand. Chains associate to the
left, so each operator deepens the tree by one level; it spends the allowance for
nesting until the whole chain is read. -/
def chainRest (d : Dialect) (operator? : TokenKind → Option ArithmeticOp)
    (operand : Parse Parsed) (start : Mark) : Nat → Parsed → Parse Parsed
  | 0, left => return left
  | count + 1, left => do
      match operator? (← peek) with
      | none => return left
      | some op =>
          let here ← mark
          let _ ← next
          nested d .chain here do
            let first ← requireExpression start left
            let place ← mark
            let second ← requireExpression place (← operand)
            chainRest d operator? operand start count (.expression (.arithmetic op first second))

/-- Operands with operators of one precedence between them. -/
def chain (d : Dialect) (operator? : TokenKind → Option ArithmeticOp)
    (operand : Parse Parsed) : Parse Parsed := do
  let start ← mark
  let first ← operand
  chainRest d operator? operand start (← tokensLeft) first

def multiplicative (d : Dialect) (inner : Level) : Parse Parsed :=
  chain d multiplicative? (unary d inner)

def additive (d : Dialect) (inner : Level) : Parse Parsed :=
  chain d additive? (multiplicative d inner)

/-- An expression in a place where no predicate can stand. -/
def operand (d : Dialect) (inner : Level) : Parse Expression := do
  let start ← mark
  requireExpression start (← additive d inner)

end GeoFilter.Grammar
