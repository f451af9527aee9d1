import GeoFilter.Diagnostic.Fault
import GeoFilter.Dialect

/-!
Reading a list of tokens. A production consumes tokens from the front, or fails with
a fault at one of them. It sees the kinds of the tokens only: where the tokens stand
in a text is looked up after the reading has failed.

Productions that contain each other are bounded by a depth counter. It rises when a
production enters a nested one and falls when the nested one has succeeded; a reading
that failed is abandoned and leaves the counter where it stood.
-/

namespace GeoFilter.Grammar

/-- The depth counter, with the least and the greatest value it has had. A counter that
falls at zero stays there, but its least value goes below. -/
structure Gauge where
  level : Nat
  lowest : Int
  highest : Nat
deriving DecidableEq, Repr

namespace Gauge

/-- A counter that stands at a level and has not moved yet. -/
def resting (level : Nat) : Gauge := ⟨level, level, level⟩

def rise (gauge : Gauge) : Gauge :=
  { gauge with level := gauge.level + 1, highest := max gauge.highest (gauge.level + 1) }

def fall (gauge : Gauge) : Gauge :=
  { gauge with level := gauge.level - 1, lowest := min gauge.lowest ((gauge.level : Int) - 1) }

@[simp] theorem level_fall_rise (gauge : Gauge) : gauge.rise.fall.level = gauge.level := rfl

end Gauge

/-- A token in a list, given by the list from that token on. Behind the last token
stands the end of input. -/
abbrev Mark := List TokenKind

structure Cursor where
  rest : List TokenKind
  gauge : Gauge
deriving DecidableEq, Repr

/-- A fault, the token that it is found at, and the depth counter as it stood then. -/
structure Failure where
  fault : Fault
  place : Mark
  gauge : Gauge
deriving DecidableEq, Repr

abbrev Parse := StateT Cursor (Except Failure)

variable {α : Type}

def fail (fault : Fault) (place : Mark) : Parse α := fun cursor =>
  .error ⟨fault, place, cursor.gauge⟩

/-- The outcome of a check, whose fault is found at the given token. -/
def check (place : Mark) : Except Fault α → Parse α
  | .ok value => pure value
  | .error fault => fail fault place

def checkNone (place : Mark) : Option Fault → Parse Unit
  | none => pure ()
  | some fault => fail fault place

/-- The place of the next token. -/
def mark : Parse Mark := fun cursor =>
  .ok (cursor.rest, cursor)

/-- The number of tokens that are left. -/
def tokensLeft : Parse Nat := fun cursor =>
  .ok (cursor.rest.length, cursor)

/-- The next token, which is not consumed. -/
def peek : Parse TokenKind := fun cursor =>
  .ok (cursor.rest.headD .endOfInput, cursor)

/-- Consumes the next token. The end of input can be read any number of times. -/
def next : Parse TokenKind := fun cursor =>
  .ok (cursor.rest.headD .endOfInput, { cursor with rest := cursor.rest.tail })

/-- Consumes the next token if it is of the given kind. -/
def accept (kind : TokenKind) : Parse Bool := do
  if (← peek) = kind then
    let _ ← next
    return true
  else
    return false

def unexpected (found : TokenKind) (expected : Expectation) (place : Mark) : Parse α :=
  fail (.unexpected found expected) place

/-- Consumes a token that has to be of the given kind, and tells its place. -/
def expect (kind : TokenKind) (expected : Expectation) : Parse Mark := do
  let here ← mark
  let found ← next
  if found = kind then
    return here
  else
    unexpected found expected here

def expectKeyword (word : Keyword) : Parse Mark :=
  expect (.keyword word) (.keyword word)

def expectPunctuation (symbol : Punctuation) : Parse Mark :=
  expect (.punctuation symbol) (.punctuation symbol)

/-- Consumes the parenthesis that closes the given one. -/
def close (opening : Mark) : Parse Unit := do
  let here ← mark
  match ← next with
  | .punctuation .closeParen => return ()
  | .endOfInput => fail .unclosed opening
  | found => unexpected found (.punctuation .closeParen) here

/-- Consumes the end of input. -/
def finish : Parse Unit := do
  let here ← mark
  match ← next with
  | .endOfInput => return ()
  | found => fail (.trailing found) here

/-- The counter moves up. Above the limit of the dialect that is a fault at the token
which asked for it. -/
def enter (d : Dialect) (depth : Depth) (place : Mark) : Parse Unit := fun cursor =>
  if cursor.gauge.level < d.maxDepth then
    .ok ((), { cursor with gauge := cursor.gauge.rise })
  else
    .error ⟨.tooDeep depth d.maxDepth, place, cursor.gauge.rise⟩

theorem enter_of_lt {d : Dialect} {depth : Depth} {place : Mark} {cursor : Cursor}
    (h : cursor.gauge.level < d.maxDepth) :
    enter d depth place cursor = .ok ((), { cursor with gauge := cursor.gauge.rise }) :=
  if_pos h

theorem enter_of_not_lt {d : Dialect} {depth : Depth} {place : Mark} {cursor : Cursor}
    (h : ¬cursor.gauge.level < d.maxDepth) :
    enter d depth place cursor = .error ⟨.tooDeep depth d.maxDepth, place, cursor.gauge.rise⟩ :=
  if_neg h

/-- The counter moves down. -/
def leave : Parse Unit := fun cursor =>
  .ok ((), { cursor with gauge := cursor.gauge.fall })

/-- Reads something one level further in. -/
def nested (d : Dialect) (depth : Depth) (place : Mark) (inner : Parse α) : Parse α := do
  enter d depth place
  let value ← inner
  leave
  return value

/-- The rest of a list behind one of its items: a comma and another item, or the
closing parenthesis. The count is at least the number of tokens that are left, and
without tokens the list is not closed. -/
def listRest (opening : Mark) (item : Parse α) : Nat → Parse (List α)
  | 0 => fail .unclosed opening
  | count + 1 => do
      let here ← mark
      match ← next with
      | .punctuation .comma =>
          let value ← item
          let rest ← listRest opening item count
          return value :: rest
      | .punctuation .closeParen => return []
      | .endOfInput => fail .unclosed opening
      | found => unexpected found .commaOrClose here

/-- Items between commas, up to the parenthesis that closes the given one. There is at
least one item. -/
def list (opening : Mark) (item : Parse α) : Parse (List α) := do
  let first ← item
  let rest ← listRest opening item (← tokensLeft)
  return first :: rest

end GeoFilter.Grammar
