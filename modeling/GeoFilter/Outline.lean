/-!
Outlines: trees of names, fields and leaves that show how a value is built. A filter
is shown to its reader through its outline, either as nested constructors or as JSON.
-/

namespace GeoFilter

inductive Outline where
  /-- A name without content, as it is shown and as it is encoded. -/
  | symbol (shown encoded : String)
  /-- A constructor with a single content. -/
  | tagged (name : String) (content : Outline)
  /-- A constructor with named contents. -/
  | variant (name : String) (fields : List (String × Outline))
  /-- Named contents, whose name is not part of the encoding. -/
  | record (name : String) (fields : List (String × Outline))
  | sequence (items : List Outline)
  | absent
  | present (content : Outline)
  | integer (value : Int)
  | float (value : Float)
  | text (value : String)
  | character (value : Char)
  | boolean (value : Bool)

namespace Outline

/-- A name that is encoded as it is shown. -/
def plain (name : String) : Outline :=
  .symbol name name

/-- A value that may be missing. -/
def ofOption : Option Outline → Outline
  | some content => .present content
  | none => .absent

/-- The start of a line that is indented a number of levels. -/
def newLine (width depth : Nat) : String :=
  String.ofList ('\n' :: List.replicate (width * depth) ' ')

end Outline

end GeoFilter
