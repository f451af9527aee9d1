import GeoFilter.Toml.Scalar

/-!
The four kinds of TOML strings: with or without escapes, on one line or on several.
-/

namespace GeoFilter.Toml

/-- Characters that may stand in a string or a comment: no control characters but the
tab. -/
def isTextChar (c : Char) : Bool :=
  c == '\t' || (0x20 ≤ c.toNat && c.toNat != 0x7f)

/-- The character that a backslash and one letter stand for. -/
def simpleEscape? : Char → Option Char
  | 'b' => some '\x08'
  | 't' => some '\t'
  | 'n' => some '\n'
  | 'f' => some '\x0c'
  | 'r' => some '\r'
  | '"' => some '"'
  | '\\' => some '\\'
  | _ => none

/-- The character with a hexadecimal number, unless the number is that of none. -/
def charOfHex? (digits : List Char) : Option Char :=
  if digits.all isHexDigit then
    let point := natOfBase 16 digits
    if point.isValidChar then some (Char.ofNat point) else none
  else
    none

/-- The character that stands behind a backslash, and what follows it. -/
def escape? : List Char → Option (Char × List Char)
  | 'u' :: rest =>
      if rest.length < 4 then none
      else (charOfHex? (rest.take 4)).map fun c => (c, rest.drop 4)
  | 'U' :: rest =>
      if rest.length < 8 then none
      else (charOfHex? (rest.take 8)).map fun c => (c, rest.drop 8)
  | c :: rest => (simpleEscape? c).map fun meaning => (meaning, rest)
  | [] => none

/-- What follows a line ending, if the text begins with one. -/
def afterNewline? : List Char → Option (List Char)
  | '\n' :: rest => some rest
  | '\r' :: '\n' :: rest => some rest
  | _ => none

def isSpace (c : Char) : Bool :=
  c == ' ' || c == '\t'

/-- A string and what follows it. -/
abbrev Scanned := Option (List Char × List Char)

def Scanned.cons (c : Char) (scanned : Scanned) : Scanned :=
  scanned.map fun (text, rest) => (c :: text, rest)

/-- The rest of a string on one line, up to its closing mark. Only strings in double
quotes have escapes. The count is at least the number of characters that are left. -/
def lineString (mark : Char) : Nat → List Char → Scanned
  | 0, _ => none
  | _, [] => none
  | count + 1, c :: rest =>
      if c = mark then
        some ([], rest)
      else if c = '\\' ∧ mark = '"' then do
        let (meaning, rest) ← escape? rest
        Scanned.cons meaning (lineString mark count rest)
      else if isTextChar c then
        Scanned.cons c (lineString mark count rest)
      else
        none

/-- White space and line endings at the front, which an escaped line ending takes up. -/
def skipBlankLines : Nat → List Char → List Char
  | 0, text => text
  | count + 1, text =>
      match afterNewline? text with
      | some rest => skipBlankLines count rest
      | none =>
          match text with
          | c :: rest => if isSpace c then skipBlankLines count rest else text
          | [] => []

/-- The rest of a string on several lines. Three marks close it; up to two more in front
of them belong to the string. -/
def blockString (mark : Char) : Nat → List Char → Scanned
  | 0, _ => none
  | _, [] => none
  | count + 1, c :: rest =>
      if c = mark then
        let run := (c :: rest).takeWhile (· == mark)
        if run.length < 3 then
          Scanned.cons c (blockString mark count rest)
        else if run.length < 6 then
          some (run.drop 3, (c :: rest).drop run.length)
        else
          none
      else
        match afterNewline? (c :: rest) with
        | some rest => Scanned.cons '\n' (blockString mark count rest)
        | none =>
            if c = '\\' ∧ mark = '"' then
              match afterNewline? (rest.dropWhile isSpace) with
              | some rest => blockString mark count (skipBlankLines rest.length rest)
              | none => do
                  let (meaning, rest) ← escape? rest
                  Scanned.cons meaning (blockString mark count rest)
            else if isTextChar c then
              Scanned.cons c (blockString mark count rest)
            else
              none

/-- A string behind its first mark. A line ending directly behind three marks does not
count. -/
def quotation (mark : Char) (text : List Char) : Scanned :=
  match text with
  | a :: b :: rest =>
      if a = mark ∧ b = mark then
        let body := (afterNewline? rest).getD rest
        blockString mark body.length body
      else
        lineString mark text.length text
  | _ => lineString mark text.length text

end GeoFilter.Toml
