import Minispec.ClassDeclaration
import Minispec.Engine.Rule

/-!
The rule for class declarations. A class that inherits from a known test base becomes a
`RSpec.describe` block; any other stays a class, under its flattened name. Either way the
statements of the class are converted.
-/

namespace Minispec.TestClass

/-- The `type:` metadata of describe blocks by test base; integration tests have none. The
first entry that applies counts. -/
def metadataTags : List (TestBase × Option String) :=
  [(.actionController, some "controller"), (.draper, some "decorator"),
    (.actionMailer, some "mailer"), (.actionView, some "view"), (.activeJob, some "job"),
    (.integration, none)]

def defaultTag : String := "model"

/-- The metadata for a class that inherits from the given bases. -/
def metadataTag (inherits : TestBase → Bool) : Option String :=
  match metadataTags.find? (fun entry => inherits entry.1) with
  | some (_, tag) => tag
  | none => some defaultTag

/-- The class that a test class is about: its name without `Test` at the end. -/
def describedName (name : String) : String :=
  let ending := "Test".toList
  if ending.isSuffixOf name.toList then
    String.ofList (name.toList.take (name.toList.length - ending.length))
  else name

/-- Described classes that are referred to as constants whatever their kind. -/
def constantSubjects : List String :=
  ["Graphql::PublishedFormCacheable"]

/-- Specs of helper modules include the module that they describe. -/
def isHelper (described : String) : Bool :=
  "Helper".toList.isSuffixOf described.toList

/-- What the describe block is about: controllers by their class, most others by name. -/
def subject (described : String) (tag : Option String) : Tree :=
  if tag = some "controller" ∨ described ∈ constantSubjects then .const described
  else .str described

def metadata (tag : String) : Tree :=
  .hash [.symbol "type", .symbol tag]

/-- The call to `RSpec.describe`. -/
def describeCall (options : Options) (described : String) (tag : Option String) : Tree :=
  let extra := if options.rails then tag.toList.map metadata else []
  .call (some (.const "RSpec")) "describe" (subject described tag :: extra)

/-- What remains of a class around its converted body. -/
inductive Heading
  | describe (call : Tree)
  | plain (name : String) (parent : Option Tree)

/-- One statement stands for itself, several become a block. -/
def joinBody : List Tree → Option Tree
  | [] => none
  | [t] => some t
  | ts => some (.block ts)

def Heading.close (heading : Heading) (results : List Tree) : Tree :=
  let body := joinBody results
  match heading with
  | .describe call => .blockCall call body
  | .plain name parent => .classDecl (.sym name) parent body.toList

/-- The heading for a class of the given name, and the statements to be converted. -/
def outline (options : Options) (c : ClassDeclaration) (name : String) : Heading × List Tree :=
  if c.isTestCase then
    let described := describedName name
    let included :=
      if isHelper described then [Tree.call none "include" [.const described]] else []
    (.describe (describeCall options described (metadataTag c.inherits)),
      included ++ c.statements)
  else (.plain name c.parent, c.statements)

/-- Views a class and checks its name. -/
def prepare (options : Options) (t : Tree) : Except Error (Heading × List Tree) := do
  let c ← ClassDeclaration.ofTree t
  if options.strictNames then c.requirePlainName
  let name ← c.name
  return outline options c name

def plan (context : Context) (t : Tree) : Plan :=
  match prepare context.options t with
  | .error e => .finish (.error e)
  | .ok (heading, statements) =>
    .descendAll statements fun results => .finish (.ok (heading.close results))

def claims : Tree → Bool
  | .classDecl _ _ _ => true
  | _ => false

def rule : Rule where
  name := "ClassDeclarationRule"
  description :=
    "Converts classes inheriting from minitest test bases into RSpec describe blocks"
  priority := 200
  claims _ t := claims t
  plan := plan

end Minispec.TestClass
