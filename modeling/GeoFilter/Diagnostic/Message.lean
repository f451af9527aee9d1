import GeoFilter.Text.Blank
import GeoFilter.Text.Quoted

/-!
What makes a diagnostic message fit to be shown. A message is screened before it
becomes part of an error, so that a careless one never reaches the reader.
-/

namespace GeoFilter

open Text

/-- Why a message is rejected. -/
inductive MessageFault where
  | empty
  | surroundingBlanks
  | controlCharacter
  | placeholder
  | strayPunctuation
deriving DecidableEq, Repr

def MessageFault.reason : MessageFault → String
  | .empty => "message is empty"
  | .surroundingBlanks => "message has surrounding whitespace"
  | .controlCharacter => "message contains control characters"
  | .placeholder => "message contains an unresolved placeholder"
  | .strayPunctuation => "message ends with stray punctuation"

/-- Characters that may stand between the braces of a placeholder. -/
def isPlaceholderName (c : Char) : Bool :=
  c != '{' && c != '}' && !isBlank c

/-- Whether a placeholder stands at the front: a pair of braces around a name or
nothing, a percent sign with one of five letters, or a dollar sign with a brace. -/
def startsPlaceholder : List Char → Bool
  | '{' :: rest => (rest.dropWhile isPlaceholderName).head? == some '}'
  | '%' :: c :: _ => c == 's' || c == 'd' || c == 'i' || c == 'f' || c == 'x'
  | '$' :: '{' :: _ => true
  | _ => false

/-- Whether a placeholder stands anywhere. -/
def hasPlaceholder : List Char → Bool
  | [] => false
  | c :: rest => startsPlaceholder (c :: rest) || hasPlaceholder rest

def isStrayPunctuation (c : Char) : Bool :=
  c == ',' || c == ':' || c == ';' || c == '-'

/-- The first fault of a message, in the order in which they are looked for. -/
def messageFault? (message : List Char) : Option MessageFault :=
  if (trim message).isEmpty then some .empty
  else if trim message ≠ message then some .surroundingBlanks
  else if message.any isControl then some .controlCharacter
  else if hasPlaceholder message then some .placeholder
  else if message.getLast?.any isStrayPunctuation then some .strayPunctuation
  else none

/-- A message that must not be shown, and why. -/
structure RejectedMessage where
  message : String
  fault : MessageFault
deriving DecidableEq, Repr

def RejectedMessage.describe (rejected : RejectedMessage) : String :=
  s!"rejected diagnostic message {quoted rejected.message} ({rejected.fault.reason})"

def validateMessage (message : String) : Except RejectedMessage Unit :=
  match messageFault? message.toList with
  | some fault => .error ⟨message, fault⟩
  | none => .ok ()

end GeoFilter
