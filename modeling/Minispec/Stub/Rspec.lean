import Minispec.Error
import Minispec.Stub

/-!
Writing a stub for rspec-mocks, as in `expect(foo).to receive(:bar).with(1).once`.
-/

namespace Minispec.Stub

/-- The method that takes the stubbed object. -/
def verb (s : Stub) : String :=
  match s.count.isSome, s.anyInstance with
  | false, false => "allow"
  | true, false => "expect"
  | false, true => "allow_any_instance_of"
  | true, true => "expect_any_instance_of"

/-- The link that states the count, if one is needed. -/
def countLink? (s : Stub) : Except Error (Option String) :=
  match s.count with
  | none => .ok none
  | some n =>
    if n = expectedByDefault then .ok none
    else if n = 0 then .ok (some "never")
    else if n = 1 then .ok (some "once")
    else if n = 2 then .ok (some "twice")
    else .error (.unsupportedCallCount (Described.int n))

/-- The method that takes the message. -/
def matcher (s : Stub) : String :=
  match s.message with
  | .hash _ => "receive_messages"
  | _ => "receive"

/-- Adds a link to a chain of calls, unless its arguments are absent. -/
def link (method : String) (arguments : Option (List Tree)) (chain : Tree) : Tree :=
  match arguments with
  | some args => .call (some chain) method args
  | none => chain

/-- Adds a link without arguments, if there is one. -/
def bareLink (method : Option String) (chain : Tree) : Tree :=
  match method with
  | some name => .call (some chain) name []
  | none => chain

/-- What the object is allowed or expected to do. Expectations on all instances take the count
before the outcome, all others after it. -/
def expectation (s : Stub) (count : Option String) : Tree :=
  let received := link "with" s.withArgs (.call none s.matcher [s.message])
  let outcome (chain : Tree) := link "and_raise" s.raises (link "and_return" s.returns chain)
  if s.count.isSome && s.anyInstance then outcome (bareLink count received)
  else bareLink count (outcome received)

/-- The statement for rspec-mocks. -/
def toRspec (s : Stub) : Except Error Tree := do
  let count ← s.countLink?
  return .call (some (.call none s.verb [s.receiver])) "to" [s.expectation count]

end Minispec.Stub
