/-!
Invocations of the program: a command, the text it works on, and switches. The
switches that every command has may stand before the command as well as behind it.
-/

namespace GeoFilter

inductive Command where
  /-- Checks that a text is a filter. -/
  | check
  /-- Shows the tree that a text denotes. -/
  | parse
  /-- Writes a text in canonical form. -/
  | format
deriving DecidableEq, Repr

namespace Command

def all : List Command := [.check, .parse, .format]

def name : Command → String
  | .check => "check"
  | .parse => "parse"
  | .format => "format"

def ofName? (word : String) : Option Command :=
  all.find? (·.name == word)

end Command

inductive Switch where
  /-- Also shows the tokens. -/
  | debug
  /-- Names the file with the dialect. -/
  | config
  /-- Names the file with the text. -/
  | file
  /-- Reads an expression instead of a filter. -/
  | expression
  /-- Shows the tree as JSON. -/
  | json
deriving DecidableEq, Repr

namespace Switch

def all : List Switch := [.debug, .config, .file, .expression, .json]

/-- The name of a switch, behind two dashes. -/
def name : Switch → String
  | .debug => "debug"
  | .config => "config"
  | .file => "file"
  | .expression => "expression"
  | .json => "json"

/-- The letter of a switch, behind a single dash. -/
def letter : Switch → Char
  | .debug => 'd'
  | .config => 'c'
  | .file => 'f'
  | .expression => 'e'
  | .json => 'j'

def takesValue : Switch → Bool
  | .config | .file => true
  | _ => false

/-- Whether a switch may stand behind a command, or before it. -/
def allowed (command : Option Command) : Switch → Bool
  | .debug | .config | .file => true
  | .expression => command == some .parse || command == some .format
  | .json => command == some .parse

end Switch

inductive Argument where
  | word (text : String)
  /-- A word behind the two dashes that end the switches. -/
  | operand (text : String)
  /-- A switch and its value, which is empty if the switch takes none. -/
  | switch (switch : Switch) (value : String)
deriving DecidableEq, Repr

namespace Argument

def isSwitch : Argument → Bool
  | .switch _ _ => true
  | _ => false

def setting? : Argument → Option (Switch × String)
  | .switch key value => some (key, value)
  | _ => none

def text? : Argument → Option String
  | .word text | .operand text => some text
  | .switch _ _ => none

/-- A switch with the value that is attached to it. -/
def attached (key : Switch) (value : List Char) : Option (List Argument × Option Switch) :=
  if value.isEmpty then none else some ([.switch key (String.ofList value)], none)

/-- The switches behind a single dash, and the one that still lacks its value. What
follows the letter of a switch with a value is the value. -/
def ofLetters? : List Char → Option (List Argument × Option Switch)
  | [] => some ([], none)
  | c :: rest => do
      let key ← Switch.all.find? (·.letter == c)
      if key.takesValue then
        match rest with
        | [] => some ([], some key)
        | '=' :: value => attached key value
        | value => attached key value
      else
        let (others, waiting) ← ofLetters? rest
        some (.switch key "" :: others, waiting)

/-- The switch behind two dashes, which may have its value behind an equals sign. -/
def ofLongName? (text : List Char) : Option (List Argument × Option Switch) := do
  let key ← Switch.all.find? (·.name.toList == text.takeWhile (· != '='))
  match text.dropWhile (· != '=') with
  | [] => if key.takesValue then some ([], some key) else some ([.switch key ""], none)
  | _ :: value => if key.takesValue then attached key value else none

/-- Whether a text can be the value of the switch before it. -/
def isValue (text : String) : Bool :=
  !text.isEmpty && (text == "-" || text.toList.head? != some '-')

def ofText? (text : String) : Option (List Argument × Option Switch) :=
  match text.toList with
  | '-' :: '-' :: name => ofLongName? name
  | '-' :: c :: letters => ofLetters? (c :: letters)
  | _ => some ([.word text], none)

/-- The arguments of a command line. -/
def ofTexts? : List String → Option (List Argument)
  | [] => some []
  | text :: rest =>
      if text = "--" then
        some (rest.map .operand)
      else
        match ofText? text with
        | none => none
        | some (found, none) => (ofTexts? rest).map (found ++ ·)
        | some (found, some waiting) =>
            match rest with
            | [] => none
            | value :: others =>
                if isValue value then
                  (ofTexts? others).map (found ++ .switch waiting value :: ·)
                else
                  none

end Argument

structure Invocation where
  command : Command
  text : Option String
  /-- The file that holds the text. -/
  file : Option String
  /-- The file that holds the dialect. -/
  config : Option String
  debug : Bool
  expression : Bool
  json : Bool
deriving DecidableEq, Repr

namespace Invocation

/-- The invocation that a command line denotes. No switch may stand twice on one side
of the command; of one on either side the later counts. -/
def ofTexts? (texts : List String) : Option Invocation := do
  let arguments ← Argument.ofTexts? texts
  let .word name :: behind := arguments.dropWhile Argument.isSwitch | none
  let command ← Command.ofName? name
  let early := (arguments.takeWhile Argument.isSwitch).filterMap Argument.setting?
  let late := behind.filterMap Argument.setting?
  let operands := behind.filterMap Argument.text?
  guard ((early.map Prod.fst).all (Switch.allowed none) ∧ (early.map Prod.fst).Nodup)
  guard ((late.map Prod.fst).all (Switch.allowed (some command)) ∧ (late.map Prod.fst).Nodup)
  guard (operands.length ≤ 1)
  let value? (key : Switch) := (late ++ early).lookup key
  return {
    command
    text := operands.head?
    file := value? .file
    config := value? .config
    debug := (value? .debug).isSome
    expression := (value? .expression).isSome
    json := (value? .json).isSome }

/-- The files that an invocation reads. -/
def files (invocation : Invocation) : List String :=
  invocation.config.toList ++ invocation.file.toList

end Invocation

end GeoFilter
