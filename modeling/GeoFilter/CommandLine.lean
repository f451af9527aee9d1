import GeoFilter.CommandLine.Invocation
import GeoFilter.Diagnostic.Excerpt
import GeoFilter.Dialect.Loading
import GeoFilter.Grammar
import GeoFilter.Outline.Json
import GeoFilter.Outline.Shown
import GeoFilter.Outline.Token
import GeoFilter.Writing

/-!
What the program answers to an invocation, given what the files hold that it names.
-/

namespace GeoFilter

/-- What an invocation ends in. -/
structure Outcome where
  /-- Zero for success. -/
  code : Nat
  /-- The texts on standard output, each followed by a line feed. -/
  output : List String
  /-- The texts on the error output, each followed by a line feed. -/
  errors : List String
deriving DecidableEq, Repr

namespace CommandLine

/-- How the system says that there is no such file. -/
def missingFile : String := "No such file or directory (os error 2)"

def errorRow (message : String) : String := "error: " ++ message

def causeRow (cause : String) : String := "caused by: " ++ cause

/-- The rows that report an error in a text. -/
def errorRows (source : String) (error : CompileError) : List String :=
  ((error.position.bind (Excerpt.around? source)).map Excerpt.rows).getD [] ++
    errorRow s!"{error.kind.describe} error: {error.message}" ::
      error.causes.map fun cause => causeRow cause.describe

/-- The rows that report that a dialect could not be loaded from a file. -/
def loadRows (path : String) (fault : LoadFault) : List String :=
  match fault with
  | .unreadable =>
      [errorRow s!"{fault.message} {path}: {missingFile}", causeRow missingFile]
  | _ => [errorRow fault.message]

/-- The dialect of an invocation. -/
def dialect (invocation : Invocation) (contents : String → Option String) :
    Except (List String) Dialect :=
  match invocation.config with
  | none => .ok .standard
  | some path => (Dialect.load (contents path)).mapError (loadRows path)

/-- The text that an invocation works on. -/
def source (invocation : Invocation) (contents : String → Option String) :
    Except String String :=
  match invocation.text, invocation.file with
  | some text, none => .ok text
  | none, some path =>
      match contents path with
      | some text => .ok text
      | none => .error s!"unable to read {path}: {missingFile}"
  | some _, some _ => .error "CQL text and --file cannot be used together"
  | none, none => .error "no CQL text given, pass it as an argument or with --file"

/-- What is shown of a parsed text. -/
def answer (invocation : Invocation) (outline : Outline) (written : String) : String :=
  match invocation.command with
  | .check => "Filter is valid"
  | .parse => if invocation.json then outline.json else outline.shown
  | .format => written

/-- Parses a text, and shows what was asked for. -/
def parsed (invocation : Invocation) (d : Dialect) (text : String) :
    Except CompileError String :=
  if invocation.expression then do
    let e ← Expression.parse d text
    return answer invocation e.outline (e.write d)
  else do
    let f ← Filter.parse d text
    return answer invocation f.outline (f.write d)

/-- The rows that show the tokens of a text. -/
def tokenRows (tokens : List Token) : List String :=
  "Tokens:" :: (tokens.map fun token => token.outline.shownLine) ++ [""]

/-- What an invocation answers for a text. -/
def answerFor (invocation : Invocation) (d : Dialect) (text : String) : Outcome :=
  match if invocation.debug then (tokenize d text).map tokenRows else .ok [] with
  | .error error => ⟨1, [], errorRows text error⟩
  | .ok rows =>
      match parsed invocation d text with
      | .error error => ⟨1, rows, errorRows text error⟩
      | .ok shown => ⟨0, rows ++ [shown], []⟩

/-- What an invocation answers, given what the files hold that can be read. -/
def run (invocation : Invocation) (contents : String → Option String) : Outcome :=
  match dialect invocation contents with
  | .error rows => ⟨1, [], rows⟩
  | .ok d =>
      match source invocation contents with
      | .error message => ⟨1, [], [errorRow message]⟩
      | .ok text => answerFor invocation d text

/-- What the program answers if its arguments are no invocation. -/
def usage : Outcome :=
  ⟨2, [], ["usage: [-d] [-c FILE] (check | parse [-e] [-j] | format [-e]) (-f FILE | TEXT)"]⟩

end CommandLine

end GeoFilter
