import Minispec.Options

/-! What a rule knows about the place it is applied at. -/

namespace Minispec

structure Context where
  options : Options
  /-- The name of the input, where it has one. -/
  sourceName : Option String := none
  depth : Nat := 0

namespace Context

/-- One level further down. -/
def descend (c : Context) : Context :=
  { c with depth := c.depth + 1 }

def atMaxDepth (c : Context) : Bool :=
  c.options.maxDepth ≤ c.depth

/-- How many levels are left, the current one included. -/
def levels (c : Context) : Nat :=
  c.options.maxDepth - c.depth

end Context
end Minispec
