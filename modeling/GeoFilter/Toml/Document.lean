import GeoFilter.Toml.Quotation
import GeoFilter.Toml.Table

/-!
TOML documents: lines with keys and values, under headers that name tables.
-/

namespace GeoFilter.Toml

/-- Reads from the front of a text, or fails. -/
abbrev Scan := StateT (List Char) Option

def isBareKeyChar (c : Char) : Bool :=
  c.isAlphanum || c == '-' || c == '_'

/-- Characters of values that stand without quotation marks or brackets. -/
def isScalarChar (c : Char) : Bool :=
  c.isAlphanum || c == '+' || c == '-' || c == '_' || c == '.' || c == ':'

/-- The characters at the front that satisfy a condition. -/
def scanWhile (condition : Char → Bool) : Scan (List Char) := fun text =>
  some (text.takeWhile condition, text.dropWhile condition)

def skipSpaces : Scan Unit := do
  let _ ← scanWhile isSpace

/-- The next character, which is not consumed. -/
def peekChar : Scan (Option Char) := fun text =>
  some (text.head?, text)

def acceptChar (c : Char) : Scan Bool := fun text =>
  match text with
  | first :: rest => if first = c then some (true, rest) else some (false, text)
  | [] => some (false, [])

def requireChar (c : Char) : Scan Unit := fun text =>
  (expectChar c text).map ((), ·)

/-- The comment at the front, if there is one. -/
def skipComment : Scan Unit := do
  if ← acceptChar '#' then
    let _ ← scanWhile isTextChar

/-- A line ending. -/
def newline : Scan Unit := fun text =>
  (afterNewline? text).map ((), ·)

/-- White space, comments and line endings, all of which may stand between the items of
an array. -/
def skipLines : Nat → Scan Unit
  | 0 => return ()
  | count + 1 => do
      skipSpaces
      skipComment
      match ← peekChar with
      | some '\n' | some '\r' =>
          newline
          skipLines count
      | _ => return ()

def charsLeft : Scan Nat := fun text =>
  some (text.length, text)

def skipAllLines : Scan Unit := do
  skipLines (← charsLeft)

/-- A string behind its first quotation mark. -/
def scanQuotation (mark : Char) : Scan String := fun text =>
  (quotation mark text).map fun (value, rest) => (String.ofList value, rest)

/-- A string on one line behind its first quotation mark; a key cannot have more lines. -/
def scanLineString (mark : Char) : Scan String := fun text =>
  (lineString mark text.length text).map fun (value, rest) => (String.ofList value, rest)

/-- A key without dots. -/
def simpleKey : Scan String := do
  if ← acceptChar '"' then
    scanLineString '"'
  else if ← acceptChar '\'' then
    scanLineString '\''
  else
    let key ← scanWhile isBareKeyChar
    if key.isEmpty then failure else return String.ofList key

/-- The segments of a dotted key behind the first. -/
def keyRest : Nat → Scan (List String)
  | 0 => return []
  | count + 1 => do
      skipSpaces
      if ← acceptChar '.' then
        skipSpaces
        let segment ← simpleKey
        let rest ← keyRest count
        return segment :: rest
      else
        return []

def dottedKey : Scan (List String) := do
  skipSpaces
  let first ← simpleKey
  let rest ← keyRest (← charsLeft)
  let key := first :: rest
  if key.length < nestingLimit then return key else failure

/-- A scalar. A date may be parted from its time by a single space. -/
def scanScalar : Scan Value := fun text =>
  let run := text.takeWhile isScalarChar
  let rest := text.dropWhile isScalarChar
  let longer :=
    match rest with
    | ' ' :: later => run ++ ' ' :: later.takeWhile isScalarChar
    | _ => run
  if isDate run && isDateTime longer then
    some (.moment, text.drop longer.length)
  else
    (scalar? run).map fun value => (value, rest)

/-- The items of an array behind its opening bracket. -/
def arrayItems (item : Scan Value) : Nat → Scan (List Value)
  | 0 => failure
  | count + 1 => do
      skipAllLines
      if ← acceptChar ']' then
        return []
      else
        let value ← item
        skipAllLines
        if ← acceptChar ',' then
          let rest ← arrayItems item count
          return value :: rest
        else
          requireChar ']'
          return [value]

/-- A dotted key and its value. -/
def keyValue (item : Scan Value) : Scan (List String × Value) := do
  let key ← dottedKey
  skipSpaces
  requireChar '='
  skipSpaces
  let value ← item
  return (key, value)

/-- The entries of an inline table behind its opening brace, which is not followed by
the closing one. -/
def inlineEntries (item : Scan Value) : Nat → Entries → Scan Entries
  | 0, _ => failure
  | count + 1, entries => do
      let (key, value) ← keyValue item
      skipSpaces
      let entries ← insertDotted value key entries
      if ← acceptChar ',' then
        inlineEntries item count entries
      else
        requireChar '}'
        return entries

/-- A value that may hold others down to a number of levels. -/
def value : Nat → Scan Value
  | 0 => do
      if ← acceptChar '"' then return .string (← scanQuotation '"')
      else if ← acceptChar '\'' then return .string (← scanQuotation '\'')
      else scanScalar
  | levels + 1 => do
      if ← acceptChar '"' then return .string (← scanQuotation '"')
      else if ← acceptChar '\'' then return .string (← scanQuotation '\'')
      else if ← acceptChar '[' then
        return .array (← arrayItems (value levels) (← charsLeft))
      else if ← acceptChar '{' then
        skipSpaces
        if ← acceptChar '}' then
          return .table []
        else
          let entries ← inlineEntries (value levels) (← charsLeft) []
          return .table (finishEntries entries)
      else scanScalar

/-- One line of a document. -/
inductive Line where
  | blank
  | entry (key : List String) (value : Value)
  | table (key : List String)
  | arrayTable (key : List String)

def line : Scan Line := do
  skipSpaces
  match ← peekChar with
  | some '[' =>
      requireChar '['
      if ← acceptChar '[' then
        let key ← dottedKey
        skipSpaces
        requireChar ']'
        requireChar ']'
        return .arrayTable key
      else
        let key ← dottedKey
        skipSpaces
        requireChar ']'
        return .table key
  | none | some '#' | some '\n' | some '\r' => return .blank
  | _ =>
      let (key, value) ← keyValue (value (nestingLimit - 1))
      return .entry key value

/-- The lines of a document, each up to its ending. -/
def documentLines : Nat → Scan (List Line)
  | 0 => return []
  | count + 1 => do
      let first ← line
      skipSpaces
      skipComment
      match ← peekChar with
      | none => return [first]
      | some _ =>
          newline
          let rest ← documentLines count
          return first :: rest

/-- The entries at the front of a list of lines, and the lines behind them. -/
def leadingEntries : List Line → List (List String × Value) × List Line
  | .entry key value :: rest =>
      let (entries, later) := leadingEntries rest
      ((key, value) :: entries, later)
  | .blank :: rest => leadingEntries rest
  | lines => ([], lines)

def fill (lines : List (List String × Value)) (entries : Entries) : Option Entries :=
  lines.foldlM (fun entries (key, value) => insertDotted value key entries) entries

/-- Adds the tables that the lines open to a document. -/
def addTables : Nat → List Line → Entries → Option Entries
  | 0, _, entries => some entries
  | _, [], entries => some entries
  | count + 1, first :: rest, entries => do
      let (own, later) := leadingEntries rest
      match first with
      | .table key => addTables count later (← alterAt (openTable (fill own)) key entries)
      | .arrayTable key =>
          addTables count later (← alterAt (openArrayTable (fill own)) key entries)
      | _ => none

/-- The entries of the outermost table of a document. A byte order mark in front of the
document does not count. -/
def parse? (text : String) : Option (List (String × Value)) := do
  let chars := text.toList
  let chars := if chars.head? = some '\ufeff' then chars.tail else chars
  let (lines, _) ← (documentLines (chars.length + 1)).run chars
  let (own, later) := leadingEntries lines
  let entries ← fill own []
  return finishEntries (← addTables later.length later entries)

end GeoFilter.Toml
