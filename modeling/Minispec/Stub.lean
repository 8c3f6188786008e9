import Minispec.Tree

/-!
A stub or message expectation, independent of the library that it is written for.
-/

namespace Minispec

structure Stub where
  /-- The stubbed object. -/
  receiver : Tree
  /-- Whether every instance of the receiver is stubbed. -/
  anyInstance : Bool := false
  /-- The stubbed message, or a hash from messages to values. -/
  message : Tree
  withArgs : Option (List Tree) := none
  returns : Option (List Tree) := none
  raises : Option (List Tree) := none
  /-- How often the message is expected; nothing is expected without a count. -/
  count : Option Int64 := none

/-- The count of an expectation that does not say how often. -/
def Stub.expectedByDefault : Int64 := -1

end Minispec
