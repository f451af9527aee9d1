import GeoFilter.Token.Stream

/-!
The tokens of a text on demand. Each call yields the next token, until the end of input or
an error was yielded; from then on there is nothing more.
-/

namespace GeoFilter

open Text

/-- A text that is read token by token. -/
structure Scanner where
  /-- Where the text that is left begins. -/
  here : Position
  rest : List Char
  /-- Whether the last token or an error was yielded. -/
  finished : Bool

namespace Scanner

def ofText (text : String) : Scanner :=
  ⟨.start, text.toList, false⟩

/-- The token behind the white space at the front, and the scanner behind the token. -/
def scan (d : Dialect) (scanner : Scanner) : Except CompileError (Token × Scanner) :=
  let start := scanner.here.advance (scanner.rest.takeWhile isBlank)
  match scanner.rest.dropWhile isBlank with
  | [] => .ok (⟨.endOfInput, "", start⟩, ⟨start, [], scanner.finished⟩)
  | c :: rest =>
      match lexeme d c rest with
      | .error fault => .error (.report fault start)
      | .ok (kind, run) =>
          .ok (⟨kind, String.ofList run, start⟩,
            ⟨start.advance run, (c :: rest).drop run.length, scanner.finished⟩)

/-- What a call yields, if anything, and the scanner for the next call. -/
def next (d : Dialect) (scanner : Scanner) : Option (Except CompileError Token) × Scanner :=
  if scanner.finished then
    (none, scanner)
  else
    match scanner.scan d with
    | .error error => (some (.error error), { scanner with finished := true })
    | .ok (token, behind) =>
        (some (.ok token), { behind with finished := token.kind == .endOfInput })

/-- What a number of calls yield in turn. -/
def calls (d : Dialect) : Nat → Scanner → List (Option (Except CompileError Token))
  | 0, _ => []
  | count + 1, scanner =>
      let (item, behind) := scanner.next d
      item :: calls d count behind

end Scanner

end GeoFilter
