import Minispec.Engine.Ledger
import Minispec.Engine.Rule

/-!
The engine: rules, the highest priority first, and the ledger of what they did.

A node goes to the first rule that claims it; a node that no rule claims is put together again
from its converted children. Each step down costs a level, and no level is left at the depth
bound, so that every run ends whatever the rules do.
-/

namespace Minispec

/-- Converts a tree with the given number of levels left. The ledger is kept up to date in runs
that fail, too. -/
def convertTree (rules : List Rule) : Nat → Context → Tree → StateM Ledger (Except Error Tree)
  | 0, context, _ => pure (.error (.nestingTooDeep context.options.maxDepth))
  | levels + 1, context, t =>
    let below := convertTree rules levels context.descend
    match rules.find? (·.claims context t) with
    | some rule => do
      let result ← (rule.plan context t).run below
      modify (·.record rule.name result)
      return result
    | none => (t.mapChildren fun child => ExceptT.mk (below child)).run

structure Engine where
  rules : List Rule := []
  ledger : Ledger := {}

namespace Engine

def ruleNames (e : Engine) : List String :=
  e.rules.map (·.name)

/-- Installs a rule. Its counts start afresh, also if a rule of that name was there before. -/
def addRule (e : Engine) (rule : Rule) : Engine :=
  { rules := rule.insertByPriority e.rules, ledger := e.ledger.enter rule.name }

def ofRules (rules : List Rule) : Engine :=
  rules.foldl addRule {}

/-- Converts a tree at the place that the context describes. -/
def transform (e : Engine) (context : Context) (t : Tree) : Except Error Tree × Engine :=
  let (result, ledger) := convertTree e.rules context.levels context t e.ledger
  (result, { e with ledger })

/-- Converts a whole tree. -/
def transformTree (e : Engine) (options : Options) (t : Tree) : Except Error Tree × Engine :=
  e.transform { options } t

/-- Carries out the plan of a rule for one node, whether or not it claims that node. -/
def applyRule (e : Engine) (rule : Rule) (context : Context) (t : Tree) :
    Except Error Tree × Engine :=
  let below := context.descend
  let (result, ledger) :=
    (rule.plan context t).run (convertTree e.rules below.levels below) e.ledger
  (result, { e with ledger })

def clearStats (e : Engine) : Engine :=
  { e with ledger := e.ledger.clear }

end Engine
end Minispec
