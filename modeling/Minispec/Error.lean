import Minispec.Notation.Fault
import Minispec.Notation.Writer

/-! Why a conversion fails, and the message for each cause. -/

namespace Minispec

/-- Why a call chain is not a stub that can be converted. -/
inductive StubFault
  /-- Neither `expects` nor `stubs` stands behind the named call. -/
  | noAnchor (method : String)
  /-- The anchor has no argument to name a message. -/
  | noMessage (anchor : String)
  | returnsAlone
  /-- A fault that a rule describes in its own words. -/
  | other (description : String)
deriving DecidableEq

def StubFault.message : StubFault → String
  | .noAnchor method => "not a mocha stub, no stubs/expects behind '" ++ method ++ "'"
  | .noMessage anchor => "call to '" ++ anchor ++ "' names no message"
  | .returnsAlone => "returns without stubs/expects"
  | .other description => description

inductive Error
  | structuralMismatch (expected found : String)
  /-- A class name that is neither a symbol nor an allowed shorthand. -/
  | unsupportedNameForm (name : Tree)
  | unknownStubShape (fault : StubFault)
  /-- The count as it was given: the name of a qualifier, or a number. -/
  | unsupportedCallCount (count : String)
  | receiverNotFound (method : String)
  | nestingTooDeep (maxDepth : Nat)
  | malformedNotation (fault : Notation.Fault)
  | invalidOptions

def Error.message : Error → String
  | .structuralMismatch expected found =>
    "Structural mismatch: expected " ++ expected ++ ", got " ++ found
  | .unsupportedNameForm name => "Unsupported class name form: " ++ name.written
  | .unknownStubShape fault => "Unknown stub shape: " ++ fault.message
  | .unsupportedCallCount count => "Unsupported message receive count: " ++ count
  | .receiverNotFound method =>
    "Failed to find receiver of stub on call to '" ++ method ++ "'"
  | .nestingTooDeep maxDepth =>
    "Tree nesting exceeds maximum depth of " ++ toString maxDepth
  | .malformedNotation fault => "Notation error: " ++ fault.message
  | .invalidOptions => "Invalid options"

/-- The fault of a node of the wrong kind. -/
def Error.mismatch (expected : String) (found : Tree) : Error :=
  .structuralMismatch expected found.kind

end Minispec
