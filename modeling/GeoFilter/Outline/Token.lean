import GeoFilter.Outline.Filter
import GeoFilter.Token

/-!
The outlines of tokens.
-/

namespace GeoFilter

open Outline

def Keyword.outline : Keyword → Outline
  | .and => .plain "And"
  | .or => .plain "Or"
  | .not => .plain "Not"
  | .like => .plain "Like"
  | .ilike => .plain "ILike"
  | .between => .plain "Between"
  | .oneOf => .plain "In"
  | .is => .plain "Is"
  | .null => .plain "Null"
  | .truth => .plain "True"
  | .falsity => .plain "False"
  | .everything => .plain "Include"
  | .nothing => .plain "Exclude"
  | .empty => .plain "Empty"
  | .spatial op => .tagged "Spatial" op.outline
  | .geometry type => .tagged "Geometry" type.outline

def Operator.outline : Operator → Outline
  | .comparison op => op.outline
  | .plus => .plain "Plus"
  | .minus => .plain "Minus"
  | .star => .plain "Star"
  | .slash => .plain "Slash"

def Punctuation.outline : Punctuation → Outline
  | .openParen => .plain "LParen"
  | .closeParen => .plain "RParen"
  | .comma => .plain "Comma"
  | .dot => .plain "Dot"

def TokenKind.outline : TokenKind → Outline
  | .keyword word => .tagged "Keyword" word.outline
  | .operator op => .tagged "Operator" op.outline
  | .punctuation mark => .tagged "Punct" mark.outline
  | .identifier name => .tagged "Identifier" (.text name)
  | .quotedIdentifier name => .tagged "QuotedIdentifier" (.text name)
  | .number digits => .tagged "Number" (.text digits)
  | .string value => .tagged "Str" (.text value)
  | .endOfInput => .plain "End"

def Token.outline (token : Token) : Outline :=
  .record "Token"
    [("kind", token.kind.outline), ("text", .text token.text),
      ("line", .integer token.start.line), ("column", .integer token.start.column),
      ("offset", .integer token.start.offset)]

end GeoFilter
