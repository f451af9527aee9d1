import GeoFilter.Number.Layout
import GeoFilter.Outline

/-!
Outlines as JSON. A constructor with content is an object with its name as the only
key, and a number that is not finite is null.
-/

namespace GeoFilter

open Number

namespace Outline

/-- A character inside a JSON string. -/
def jsonChar (c : Char) : List Char :=
  match c with
  | '"' => ['\\', '"']
  | '\\' => ['\\', '\\']
  | '\n' => ['\\', 'n']
  | '\r' => ['\\', 'r']
  | '\t' => ['\\', 't']
  | '\x08' => ['\\', 'b']
  | '\x0c' => ['\\', 'f']
  | _ =>
      if c.toNat < 0x20 then
        ['\\', 'u', '0', '0', Nat.digitChar (c.toNat / 16), Nat.digitChar (c.toNat % 16)]
      else
        [c]

def jsonString (text : String) : String :=
  String.ofList ('"' :: (text.toList.flatMap jsonChar ++ ['"']))

def jsonNumber (x : Float) : String :=
  if x.isFinite then Layout.json.text x else "null"

/-- The JSON text of an outline that has no parts. -/
def jsonLeaf : Outline → String
  | .symbol _ encoded => jsonString encoded
  | .integer value => toString value
  | .float value => jsonNumber value
  | .text value => jsonString value
  | .character value => jsonString (String.singleton value)
  | .boolean value => toString value
  | _ => "null"

/-- Entries between two brackets, each on a line of its own. -/
def jsonBlock (depth : Nat) (opening : String) (entries : List String) (closing : String) :
    String :=
  if entries.isEmpty then
    opening ++ closing
  else
    let separated := ("," ++ newLine 2 (depth + 1)).intercalate entries
    opening ++ newLine 2 (depth + 1) ++ separated ++ newLine 2 depth ++ closing

def jsonObject (depth : Nat) (members : List (String × String)) : String :=
  jsonBlock depth "\x7b" (members.map fun (key, value) => jsonString key ++ ": " ++ value) "\x7d"

mutual

/-- The JSON text of an outline inside a number of others. -/
def jsonLines (depth : Nat) : Outline → String
  | .tagged name content => jsonObject depth [(name, jsonLines (depth + 1) content)]
  | .variant name fields =>
      jsonObject depth [(name, jsonObject (depth + 1) (jsonMembers (depth + 2) fields))]
  | .record _ fields => jsonObject depth (jsonMembers (depth + 1) fields)
  | .sequence items => jsonBlock depth "[" (jsonItems (depth + 1) items) "]"
  | .present content => jsonLines depth content
  | leaf => leaf.jsonLeaf

def jsonMembers (depth : Nat) : List (String × Outline) → List (String × String)
  | [] => []
  | (name, content) :: rest => (name, jsonLines depth content) :: jsonMembers depth rest

def jsonItems (depth : Nat) : List Outline → List String
  | [] => []
  | item :: rest => jsonLines depth item :: jsonItems depth rest

end

/-- The outline as JSON over several lines. -/
def json (outline : Outline) : String :=
  outline.jsonLines 0

end Outline

end GeoFilter
