import Minispec.MethodCall
import Minispec.Stub

/-!
Reading a stub from a mocha chain such as `Foo.any_instance.expects(:bar).with(1).once`, given by
its outermost call. Each part is taken from the nearest link that plays its role.
-/

namespace Minispec

/-- Whether a text occurs in another. -/
def occursIn (part : List Char) : List Char → Bool
  | [] => part.isEmpty
  | c :: cs => part.isPrefixOf (c :: cs) || occursIn part cs

namespace MethodCall

/-- The nearest `expects` or `stubs`. -/
def anchor? (c : MethodCall) : Option MethodCall :=
  c.find? mochaAnchors

/-- What the anchor is called on, without a mark for all instances; by default the object
itself. -/
def stubbedObject (anchor : MethodCall) : Tree :=
  match anchor.receiver with
  | some (.call receiver "any_instance" _) => receiver.getD .selfRef
  | receiver => receiver.getD .selfRef

def stubReceiver (c : MethodCall) : Except Error Tree :=
  match c.anchor? with
  | some anchor => .ok anchor.stubbedObject
  | none => .error (.receiverNotFound c.method)

def stubsAnyInstance (c : MethodCall) : Bool :=
  c.links.any fun link => occursIn "any_instance".toList link.method.toList

def stubMessage (c : MethodCall) : Except Error Tree :=
  match c.anchor? with
  | none => .error (.unknownStubShape (.noAnchor c.method))
  | some anchor =>
    match anchor.arguments with
    | message :: _ => .ok message
    | [] => .error (.unknownStubShape (.noMessage anchor.method))

/-- The arguments of the nearest link with the name. -/
def argumentsOf? (c : MethodCall) (method : String) : Option (List Tree) :=
  (c.find? [method]).map (·.arguments)

/-- The expected number of calls, as the outermost method says. -/
def statedCount (c : MethodCall) : Except Error (Option Int64) :=
  match c.method with
  | "expects" => .ok (some Stub.expectedByDefault)
  | "once" => .ok (some 1)
  | "never" => .ok (some 0)
  | "twice" => .ok (some 2)
  | "returns" =>
    match c.anchor? with
    | some anchor => .ok (if anchor.method = "expects" then some Stub.expectedByDefault else none)
    | none => .error (.unknownStubShape .returnsAlone)
  | _ => .ok none

/-- The expected number of calls; limits that cannot be expressed are refused anywhere in the
chain. -/
def stubCount (c : MethodCall) : Except Error (Option Int64) :=
  match c.find? unsupportedCounts with
  | some link => .error (.unsupportedCallCount link.method)
  | none => c.statedCount

def toStub (c : MethodCall) : Except Error Stub := do
  let message ← c.stubMessage
  let receiver ← c.stubReceiver
  let count ← c.stubCount
  return {
    receiver, message, count
    anyInstance := c.stubsAnyInstance
    withArgs := c.argumentsOf? "with"
    returns := c.argumentsOf? "returns"
    raises := c.argumentsOf? "raises" }

end MethodCall
end Minispec
