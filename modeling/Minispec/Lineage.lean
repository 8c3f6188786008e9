import Minispec.Error

/-!
Lineages: the names along a qualified constant, outermost first, and the test base classes of
minitest and Rails that are known by theirs.
-/

namespace Minispec

/-- The names along a constant: `Fruit::Banana` gives `Fruit` and `Banana`. -/
def ancestorNames : Tree → Except Error (List String)
  | .sym name | .const name | .colon3 name => .ok [name]
  | .colon2 scope name => return (← ancestorNames scope) ++ [name]
  | other => .error (.mismatch "const or colon2" other)

inductive TestBase
  | activeSupport
  | actionController
  | actionMailer
  | actionView
  | activeJob
  | integration
  | testUnit
  | draper
deriving DecidableEq

namespace TestBase

def all : List TestBase :=
  [.activeSupport, .actionController, .actionMailer, .actionView, .activeJob, .integration,
    .testUnit, .draper]

def lineage : TestBase → List String
  | .activeSupport => ["ActiveSupport", "TestCase"]
  | .actionController => ["ActionController", "TestCase"]
  | .actionMailer => ["ActionMailer", "TestCase"]
  | .actionView => ["ActionView", "TestCase"]
  | .activeJob => ["ActiveJob", "TestCase"]
  | .integration => ["ActionDispatch", "IntegrationTest"]
  | .testUnit => ["Test", "Unit", "TestCase"]
  | .draper => ["Draper", "TestCase"]

/-- The constant by which a class names its base, like `ActiveSupport::TestCase`. -/
def qualifiedName (base : TestBase) : String :=
  String.intercalate "::" base.lineage

end TestBase
end Minispec
