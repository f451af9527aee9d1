import GeoFilter.Diagnostic.Fault
import GeoFilter.Diagnostic.Message

/-!
The errors that compiling a text or a list of tokens can end in. Every error carries
a message that was found fit to be shown.
-/

namespace GeoFilter

open Number

/-- An error without what led to it. -/
structure Diagnostic where
  kind : ErrorKind
  message : String
  position : Option Position
deriving DecidableEq, Repr

/-- The message and, if it is known, the place. -/
def Diagnostic.describe (diagnostic : Diagnostic) : String :=
  match diagnostic.position with
  | some position => s!"{diagnostic.message} at {position.describe}"
  | none => diagnostic.message

/-- What led to an error. -/
inductive Cause where
  | number (fault : NumberFault)
  | rejected (message : RejectedMessage)
  | diagnostic (diagnostic : Diagnostic)
deriving DecidableEq, Repr

def Cause.describe : Cause → String
  | .number fault => fault.message
  | .rejected message => message.describe
  | .diagnostic earlier => earlier.describe

structure CompileError extends Diagnostic where
  /-- The causes, each of them behind the one before. -/
  causes : List Cause
deriving Repr

namespace CompileError

/-- The message of an error whose own message was rejected. -/
def internalMessage : String := "internal compiler error while reporting a diagnostic"

/-- An error with a message that is fit to be shown. -/
def ofMessage (kind : ErrorKind) (message : String) : Except RejectedMessage CompileError := do
  validateMessage message
  return ⟨⟨kind, message, none⟩, []⟩

def located (error : CompileError) (position : Option Position) : CompileError :=
  { error with position }

/-- The error with everything behind it replaced by another cause. -/
def causedBy (error : CompileError) (cause : Cause) (further : List Cause) : CompileError :=
  { error with causes := cause :: further }

/-- The error that stands for a message, or for the rejection of the message. -/
def screened (kind : ErrorKind) (message : String) : CompileError :=
  match ofMessage kind message with
  | .ok error => error
  | .error rejected => ⟨⟨.internal, internalMessage, none⟩, [.rejected rejected]⟩

/-- The error for a fault at a place. -/
def report (fault : Fault) (position : Option Position) : CompileError :=
  let error := (screened fault.kind fault.message).located position
  match fault.cause? with
  | some cause => error.causedBy (.number cause) []
  | none => error

/-- Equality of errors; what led to them does not count. -/
def same (a b : CompileError) : Bool :=
  a.toDiagnostic == b.toDiagnostic

theorem messageFault?_internalMessage : messageFault? internalMessage.toList = none := by
  decide +kernel

end CompileError

end GeoFilter
