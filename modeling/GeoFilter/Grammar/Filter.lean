import GeoFilter.Grammar.Expression

/-!
Filters: comparisons and the other predicates, negation, conjunction and disjunction,
and the tower of levels that ties the productions together.
-/

namespace GeoFilter.Grammar

/-- The pattern behind LIKE or ILIKE, which is read with the special characters of the
dialect. -/
def likeTest (d : Dialect) (operand : Expression) (matchCase : Bool) : Parse Filter := do
  let here ← mark
  match ← next with
  | .string pattern => return .like ⟨operand, pattern, d.like, matchCase⟩
  | found => unexpected found .stringPattern here

def betweenTest (d : Dialect) (inner : Level) (tested : Expression) : Parse Filter := do
  let lower ← operand d inner
  let _ ← expectKeyword .and
  let upper ← operand d inner
  return .between tested lower upper

def membershipTest (d : Dialect) (inner : Level) (tested : Expression) : Parse Filter := do
  let opening ← openValues
  return .oneOf tested (← arguments d inner opening)

def nullTest (tested : Expression) : Parse Filter := do
  let negated ← accept (.keyword .not)
  let _ ← expectKeyword .null
  return if negated then .not (.isNull tested) else .isNull tested

/-- The test that begins with a token and can be negated by NOT in front of it. -/
def negatableTest? (d : Dialect) (inner : Level) (tested : Expression) :
    TokenKind → Option (Parse Filter)
  | .keyword .like => some (likeTest d tested true)
  | .keyword .ilike => some (likeTest d tested false)
  | .keyword .between => some (betweenTest d inner tested)
  | .keyword .oneOf => some (membershipTest d inner tested)
  | _ => none

/-- The test that begins with a token. -/
def test? (d : Dialect) (inner : Level) (tested : Expression) :
    TokenKind → Option (Parse Filter)
  | .operator (.comparison op) => some do
      let right ← operand d inner
      return .comparison op tested right
  | .keyword .is => some (nullTest tested)
  | .keyword .not => some do
      let here ← mark
      let word ← next
      match negatableTest? d inner tested word with
      | some test => return .not (← test)
      | none => unexpected word .negatedPredicate here
  | kind => negatableTest? d inner tested kind

/-- Whether a token begins a test. A further test directly behind one is refused, since
comparisons do not form chains. -/
def beginsTest : TokenKind → Bool
  | .operator (.comparison _) => true
  | .keyword .like => true
  | .keyword .ilike => true
  | .keyword .between => true
  | .keyword .oneOf => true
  | .keyword .is => true
  | _ => false

/-- An expression with a test behind it, or what the expression is without one. -/
def predicate (d : Dialect) (inner : Level) : Parse Parsed := do
  match ← additive d inner with
  | .filter value => return .filter value
  | .expression left =>
      match test? d inner left (← peek) with
      | none => return .expression left
      | some test =>
          let _ ← next
          let value ← test
          let following ← peek
          if beginsTest following then
            fail (.chainedComparison following) (← mark)
          else
            return .filter value

/-- A predicate with any number of NOT in front. -/
def negation (d : Dialect) (inner : Level) : Parse Parsed := do
  if (← peek) = .keyword .not then
    let here ← mark
    let _ ← next
    let negated ← nested d .nesting here do
      let start ← mark
      requireFilter start (← inner .negated)
    return .filter (.not negated)
  else
    predicate d inner

/-- The further operands of a conjunction or disjunction. -/
def operandsRest (op : LogicalOp) (operand : Parse Parsed) : Nat → Parse (List Filter)
  | 0 => return []
  | count + 1 => do
      if ← accept (.keyword (op.keyword)) then
        let start ← mark
        let value ← requireFilter start (← operand)
        let rest ← operandsRest op operand count
        return value :: rest
      else
        return []

/-- Operands with one logical operator between them. A single operand is what it is by
itself. -/
def logical (op : LogicalOp) (operand : Parse Parsed) : Parse Parsed := do
  let start ← mark
  let first ← operand
  if (← peek) = .keyword (op.keyword) then
    let value ← requireFilter start first
    let rest ← operandsRest op operand (← tokensLeft)
    return .filter (.join op (value :: rest))
  else
    return first

def conjunction (d : Dialect) (inner : Level) : Parse Parsed :=
  logical .and (negation d inner)

def disjunction (d : Dialect) (inner : Level) : Parse Parsed :=
  logical .or (conjunction d inner)

/-- The productions of one level over those of the next. -/
def levelAbove (d : Dialect) (inner : Level) : Level
  | .group => disjunction d inner
  | .negated => negation d inner
  | .signed => unary d inner
  | .argument => operand d inner
  | .member => member d inner

/-- The productions with a number of levels within them. Whoever enters the lowest
level has already used up the depth that the dialect allows. -/
def level (d : Dialect) : Nat → Level
  | 0 => fun _ => do fail (.tooDeep .nesting d.maxDepth) (← mark)
  | count + 1 => levelAbove d (level d count)

/-- A whole list of tokens, and the place of its first token. -/
def whole (d : Dialect) : Parse (Parsed × Mark) := do
  let start ← mark
  let parsed ← nested d .nesting start (level d d.maxDepth .group)
  finish
  return (parsed, start)

def wholeFilter (d : Dialect) : Parse Filter := do
  let (parsed, start) ← whole d
  requireFilter start parsed

def wholeExpression (d : Dialect) : Parse Expression := do
  let (parsed, start) ← whole d
  requireExpression start parsed

end GeoFilter.Grammar
