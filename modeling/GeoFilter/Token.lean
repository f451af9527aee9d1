import GeoFilter.Filter

/-!
The tokens of the filter language, and how diagnostics name them.
-/

namespace GeoFilter

inductive Keyword where
  | and
  | or
  | not
  | like
  | ilike
  | between
  | oneOf
  | is
  | null
  | truth
  | falsity
  | everything
  | nothing
  | empty
  | spatial (op : SpatialOp)
  | geometry (type : GeometryType)
deriving DecidableEq, Repr

namespace Keyword

def name : Keyword → String
  | .and => "AND"
  | .or => "OR"
  | .not => "NOT"
  | .like => "LIKE"
  | .ilike => "ILIKE"
  | .between => "BETWEEN"
  | .oneOf => "IN"
  | .is => "IS"
  | .null => "NULL"
  | .truth => "TRUE"
  | .falsity => "FALSE"
  | .everything => "INCLUDE"
  | .nothing => "EXCLUDE"
  | .empty => "EMPTY"
  | .spatial op => op.name
  | .geometry type => type.name

/-- The keywords that are reserved in every dialect. -/
def reserved : List Keyword :=
  [.and, .or, .not, .like, .ilike, .between, .oneOf, .is, .null, .truth, .falsity, .everything,
    .nothing, .empty]

/-- The reserved keyword with the given name, in any case. -/
def ofWord? (word : String) : Option Keyword :=
  reserved.find? (fun keyword => Text.sameWord keyword.name word)

end Keyword

/-- The keyword between the operands of a logical operator. -/
def LogicalOp.keyword : LogicalOp → Keyword
  | .and => .and
  | .or => .or

inductive Operator where
  | comparison (op : Comparison)
  | plus
  | minus
  | star
  | slash
deriving DecidableEq, Repr

def Operator.symbol : Operator → String
  | .comparison op => op.symbol
  | .plus => "+"
  | .minus => "-"
  | .star => "*"
  | .slash => "/"

inductive Punctuation where
  | openParen
  | closeParen
  | comma
  | dot
deriving DecidableEq, Repr

def Punctuation.symbol : Punctuation → String
  | .openParen => "("
  | .closeParen => ")"
  | .comma => ","
  | .dot => "."

inductive TokenKind where
  | keyword (keyword : Keyword)
  | operator (op : Operator)
  | punctuation (mark : Punctuation)
  | identifier (name : String)
  | quotedIdentifier (name : String)
  | number (digits : String)
  | string (value : String)
  | endOfInput
deriving DecidableEq, Repr

/-- A token in words. Strings and quoted identifiers are not repeated, since they
may hold anything. -/
def TokenKind.describe : TokenKind → String
  | .keyword word => s!"keyword `{word.name}`"
  | .operator op => s!"token `{op.symbol}`"
  | .punctuation mark => s!"token `{mark.symbol}`"
  | .identifier name => s!"identifier `{name}`"
  | .quotedIdentifier _ => "quoted identifier"
  | .number digits => s!"number `{digits}`"
  | .string _ => "string literal"
  | .endOfInput => "end of input"

/-- A place in a text. Lines and columns count from one, and a column is one
character; the offset counts bytes of the UTF-8 form from zero. -/
structure Position where
  line : Nat
  column : Nat
  offset : Nat
deriving DecidableEq, Repr

namespace Position

def start : Position := ⟨1, 1, 0⟩

/-- The place behind a character. -/
def next (p : Position) (c : Char) : Position :=
  if c = '\n' then
    ⟨p.line + 1, 1, p.offset + c.utf8Size⟩
  else
    ⟨p.line, p.column + 1, p.offset + c.utf8Size⟩

/-- The place behind a text. -/
def advance (p : Position) (text : List Char) : Position :=
  text.foldl next p

@[simp] theorem advance_nil (p : Position) : p.advance [] = p := rfl

@[simp] theorem advance_cons (p : Position) (c : Char) (text : List Char) :
    p.advance (c :: text) = (p.next c).advance text := rfl

theorem advance_append (p : Position) (a b : List Char) :
    p.advance (a ++ b) = (p.advance a).advance b := by
  simp [advance]

def describe (p : Position) : String :=
  s!"line {p.line}, column {p.column}"

end Position

structure Token where
  kind : TokenKind
  /-- The text that the token was read from, quotation marks included. -/
  text : String
  start : Position
deriving DecidableEq, Repr

/-- Where a token stands. A token with line zero was not read from a text. -/
def Token.position? (token : Token) : Option Position :=
  if token.start.line = 0 then none else some token.start

end GeoFilter
