import Minispec.Lineage

/-!
A class declaration seen by its name, its parent and its statements, and the questions that
decide whether it is a test case, and of which kind.
-/

namespace Minispec

structure ClassDeclaration where
  nameTree : Tree
  parent : Option Tree
  statements : List Tree

namespace ClassDeclaration

/-- The names along the parent, if the parent is qualified by a scope. -/
def parentNames : Option Tree → Except Error (Option (List String))
  | some (.colon2 scope name) => return some (← ancestorNames (.colon2 scope name))
  | _ => .ok none

/-- A class whose parent is qualified by something other than names cannot be viewed. -/
def ofTree : Tree → Except Error ClassDeclaration
  | .classDecl nameTree parent statements => do
    let _ ← parentNames parent
    return { nameTree, parent, statements }
  | other => .error (.mismatch "class" other)

def ancestorChain? (c : ClassDeclaration) : Option (List String) :=
  match parentNames c.parent with
  | .ok names => names
  | .error _ => none

/-- Refuses module shorthand, as in `class Fruit::BananaTest`. -/
def requirePlainName (c : ClassDeclaration) : Except Error Unit :=
  match c.nameTree with
  | .sym _ => .ok ()
  | other => .error (.unsupportedNameForm other)

/-- The name of the class; shorthand is flattened to one name. -/
def name (c : ClassDeclaration) : Except Error String :=
  match c.nameTree with
  | .sym name => .ok name
  | .colon2 scope name => return String.intercalate "::" (← ancestorNames (.colon2 scope name))
  | .colon3 name => .ok name
  | other => .error (.unsupportedNameForm other)

/-- Whether the names along the parent are exactly those of the base. -/
def inherits (c : ClassDeclaration) (base : TestBase) : Bool :=
  c.ancestorChain? == some base.lineage

def testBase? (c : ClassDeclaration) : Option TestBase :=
  TestBase.all.find? c.inherits

def isTestCase (c : ClassDeclaration) : Bool :=
  c.testBase?.isSome

end ClassDeclaration
end Minispec
