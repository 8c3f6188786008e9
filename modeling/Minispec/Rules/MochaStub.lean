import Minispec.Engine.Rule
import Minispec.Stub.Mocha
import Minispec.Stub.Rspec

/-!
The rule for mocha stubs, which turns a whole chain of calls into one statement for rspec-mocks.
It is in force only where the options ask for it, and does not look inside the chain.
-/

namespace Minispec.MochaStub

def claims (context : Context) (t : Tree) : Bool :=
  context.options.mocha && t.methodCall?.any (·.isMochaStub)

def convert (t : Tree) : Except Error Tree := do
  let call ← MethodCall.ofTree t
  (← call.toStub).toRspec

def rule : Rule where
  name := "MochaStubRule"
  description :=
    "Converts mocha expects/stubs chains into rspec-mocks allow/expect statements"
  priority := 150
  claims := claims
  plan _ t := .finish (convert t)

end Minispec.MochaStub
