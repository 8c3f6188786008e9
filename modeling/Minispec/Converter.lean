import Minispec.Engine.Batch
import Minispec.Json.Writer
import Minispec.Notation.Reader
import Minispec.Rules.MochaStub
import Minispec.Rules.TestClass
import Minispec.Tree.Json

/-!
The converter from minitest to RSpec: an engine with the rules for test classes and mocha stubs,
under fixed options. Trees come in as they are, in notation or in JSON, and leave in the same
form.
-/

namespace Minispec

/-- The engine with the rules of the conversion. -/
def Engine.spec : Engine :=
  .ofRules [TestClass.rule, MochaStub.rule]

structure Converter where
  options : Options
  engine : Engine

namespace Converter

def new (options : Options) : Converter :=
  { options, engine := .spec }

/-- Converts a tree. -/
def process (c : Converter) (t : Tree) : Except Error Tree × Converter :=
  let (result, engine) := c.engine.transformTree c.options t
  (result, { c with engine })

/-- Converts the notation of a tree. -/
def convert (c : Converter) (source : String) : Except Error String × Converter :=
  match Notation.read c.options.maxDepth source with
  | .error e => (.error e, c)
  | .ok t =>
    let (result, c) := c.process t
    (result.map Tree.written, c)

/-- Converts the JSON form of a tree. -/
def convertJson (c : Converter) (source : String) : Except Error String × Converter :=
  match Tree.readJson? source with
  | none => (.error (.malformedNotation .notJsonTree), c)
  | some t =>
    let (result, c) := c.process t
    (result.map (·.toJson.pretty), c)

/-- Converts several named trees. -/
def processBatch (c : Converter) (inputs : List (String × Tree)) : Batch × Converter :=
  let (batch, engine) := c.engine.transformBatch c.options inputs
  (batch, { c with engine })

def ledger (c : Converter) : Ledger :=
  c.engine.ledger

end Converter

/-- Converts a tree with a converter of its own. -/
def process (options : Options) (t : Tree) : Except Error Tree :=
  ((Converter.new options).process t).1

end Minispec
