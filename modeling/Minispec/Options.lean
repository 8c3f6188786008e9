import Minispec.Error
import Minispec.Json.Number
import Minispec.Json.Reader
import Minispec.Json.Record

/-! The options of a conversion, and their JSON form. -/

namespace Minispec

structure Options where
  /-- Follow the conventions of rspec-rails: describe blocks carry `type:` metadata. -/
  rails : Bool := false
  /-- Convert mocha stubs and expectations. -/
  mocha : Bool := false
  /-- Refuse class names in module shorthand instead of flattening them. -/
  strictNames : Bool := false
  /-- How deep the input may be nested. -/
  maxDepth : Nat := 256
deriving DecidableEq, Inhabited

namespace Options

/-- A field that may be absent, but not of the wrong kind. -/
def field? {α : Type} (read : Json → Option α) (default : α) : Option Json → Option α
  | none => some default
  | some v => read v

def ofJson? (v : Json) : Option Options :=
  match v.optionalFields? ["rails", "mocha", "strict_names", "max_depth"] with
  | some [rails, mocha, strictNames, maxDepth] => do
    let defaults : Options := {}
    let rails ← field? Json.bool? defaults.rails rails
    let mocha ← field? Json.bool? defaults.mocha mocha
    let strictNames ← field? Json.bool? defaults.strictNames strictNames
    let maxDepth ← field? Json.unsigned64? defaults.maxDepth maxDepth
    return { rails, mocha, strictNames, maxDepth }
  | _ => none

def toJson (o : Options) : Json :=
  .record [("rails", .bool o.rails), ("mocha", .bool o.mocha),
    ("strict_names", .bool o.strictNames), ("max_depth", .nat o.maxDepth)]

/-- Reads options from JSON text; what is not given keeps its default. -/
def readJson (source : String) : Except Error Options :=
  match Json.read? source >>= ofJson? with
  | some o => .ok o
  | none => .error .invalidOptions

end Options
end Minispec
