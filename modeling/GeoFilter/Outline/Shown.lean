import GeoFilter.Number.Layout
import GeoFilter.Outline
import GeoFilter.Text.Quoted

/-!
Outlines as nested constructors, either on one line or with a line for every part.
-/

namespace GeoFilter

open Number Text

namespace Outline

/-- The text of an outline that has no parts. -/
def shownLeaf : Outline → String
  | .symbol shown _ => shown
  | .integer value => toString value
  | .float value => Layout.literal.text value
  | .text value => quoted value
  | .character value => quotedChar value
  | .boolean value => toString value
  | _ => "None"

mutual

/-- The outline on one line. -/
def shownLine : Outline → String
  | .tagged name content => name ++ "(" ++ shownLine content ++ ")"
  | .variant name fields => name ++ " \x7b " ++ ", ".intercalate (fieldLines fields) ++ " \x7d"
  | .record name fields => name ++ " \x7b " ++ ", ".intercalate (fieldLines fields) ++ " \x7d"
  | .sequence items => "[" ++ ", ".intercalate (itemLines items) ++ "]"
  | .present content => "Some(" ++ shownLine content ++ ")"
  | leaf => leaf.shownLeaf

def fieldLines : List (String × Outline) → List String
  | [] => []
  | (name, content) :: rest => (name ++ ": " ++ shownLine content) :: fieldLines rest

def itemLines : List Outline → List String
  | [] => []
  | item :: rest => shownLine item :: itemLines rest

end

/-- Entries between an opening and a closing text, each on a line of its own with a
comma behind it. -/
def shownBlock (depth : Nat) (opening : String) (entries : List String) (closing : String) :
    String :=
  opening ++ String.join (entries.map fun entry => newLine 4 (depth + 1) ++ entry ++ ",") ++
    newLine 4 depth ++ closing

mutual

/-- The outline with a line for every part, inside a number of others. -/
def shownLines (depth : Nat) : Outline → String
  | .tagged name content => shownBlock depth (name ++ "(") [shownLines (depth + 1) content] ")"
  | .variant name fields =>
      shownBlock depth (name ++ " \x7b") (fieldEntries (depth + 1) fields) "\x7d"
  | .record name fields =>
      shownBlock depth (name ++ " \x7b") (fieldEntries (depth + 1) fields) "\x7d"
  | .sequence [] => "[]"
  | .sequence (item :: rest) =>
      shownBlock depth "["
        (shownLines (depth + 1) item :: itemEntries (depth + 1) rest) "]"
  | .present content => shownBlock depth "Some(" [shownLines (depth + 1) content] ")"
  | leaf => leaf.shownLeaf

def fieldEntries (depth : Nat) : List (String × Outline) → List String
  | [] => []
  | (name, content) :: rest =>
      (name ++ ": " ++ shownLines depth content) :: fieldEntries depth rest

def itemEntries (depth : Nat) : List Outline → List String
  | [] => []
  | item :: rest => shownLines depth item :: itemEntries depth rest

end

/-- The outline as nested constructors over several lines. -/
def shown (outline : Outline) : String :=
  outline.shownLines 0

end Outline

end GeoFilter
