/-! Inclusive ranges of code points, from which the character classes are made. -/

namespace Minispec.Text

structure CodeRange where
  first : Nat
  last : Nat

def CodeRange.contains (r : CodeRange) (c : Char) : Bool :=
  r.first ≤ c.toNat && c.toNat ≤ r.last

/-- Whether one of the ranges holds the character. -/
def inRanges (ranges : List CodeRange) (c : Char) : Bool :=
  ranges.any (·.contains c)

end Minispec.Text
