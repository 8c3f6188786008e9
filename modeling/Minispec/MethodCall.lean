import Minispec.Error

/-!
A call seen together with the calls that it is chained to. In `Foo.expects(:bar).returns(2)` the
outermost call is `returns`, and the others are reached through its receiver.
-/

namespace Minispec

structure MethodCall where
  receiver : Option Tree
  method : String
  arguments : List Tree

def Tree.methodCall? : Tree → Option MethodCall
  | .call receiver method arguments => some { receiver, method, arguments }
  | _ => none

/-- The receivers that are reached from a tree by following receivers, nearest first. -/
def Tree.receivers : Tree → List Tree
  | .call (some receiver) _ _ => receiver :: receiver.receivers
  | _ => []

namespace MethodCall

def ofTree (t : Tree) : Except Error MethodCall :=
  match t.methodCall? with
  | some c => .ok c
  | none => .error (.mismatch "call" t)

/-- The receivers behind a call, nearest first. -/
def receiverChain (c : MethodCall) : List Tree :=
  match c.receiver with
  | none => []
  | some receiver => receiver :: receiver.receivers

/-- The calls behind a call, nearest first. -/
def callsBehind (c : MethodCall) : List MethodCall :=
  c.receiverChain.filterMap Tree.methodCall?

/-- The call itself and the calls behind it. -/
def links (c : MethodCall) : List MethodCall :=
  c :: c.callsBehind

def isNamed (c : MethodCall) (methods : List String) : Bool :=
  methods.contains c.method

/-- The nearest call behind this one with one of the names. -/
def findBehind? (c : MethodCall) (methods : List String) : Option MethodCall :=
  c.callsBehind.find? (·.isNamed methods)

/-- The nearest link with one of the names. -/
def find? (c : MethodCall) (methods : List String) : Option MethodCall :=
  c.links.find? (·.isNamed methods)

/-- The methods of mocha that start a stub. -/
def mochaAnchors : List String :=
  ["expects", "stubs"]

/-- The methods of mocha that limit the number of calls and have no counterpart. -/
def unsupportedCounts : List String :=
  ["at_least", "at_least_once", "at_most", "at_most_once", "exactly"]

/-- The methods that may come last in a stub. -/
def mochaMethods : List String :=
  mochaAnchors ++ ["with", "returns", "raises", "once", "twice", "never"] ++ unsupportedCounts

/-- Whether the call ends a stub: it is a method of mocha, on an anchor or an anchor itself. -/
def isMochaStub (c : MethodCall) : Bool :=
  c.isNamed mochaMethods && (c.find? mochaAnchors).isSome

end MethodCall
end Minispec
