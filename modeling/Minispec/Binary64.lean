/-!
Binary floating point numbers of 64 bits, without the values that are not numbers.

A magnitude is given by its rank: the number of smaller magnitudes. Ranks grow with the values,
consecutive ranks are neighbours, and a magnitude is even exactly when its rank is, so rounding
to nearest, overflow included, is one search among ranks. No arithmetic here passes through the
machine's own floating point unit.
-/

namespace Minispec

/-- The rank at which the finite magnitudes end. -/
def Binary64.infinityRank : Nat := 0x7FF0000000000000

structure Binary64 where
  negative : Bool
  rank : Nat
  rank_le : rank ≤ Binary64.infinityRank
deriving DecidableEq

namespace Binary64

/-- Every finite magnitude is a multiple of 2 to the power -1074. -/
def unitDenominator : Nat := 1 <<< 1074

/-- How many magnitudes lie between a power of two and the next one. -/
def binade : Nat := 1 <<< 52

/-- The magnitude of a rank, counted in units of 2 to the power -1074. -/
def unitsAt (rank : Nat) : Nat :=
  if rank < binade then rank else (binade + rank % binade) <<< (rank / binade - 1)

def units (x : Binary64) : Nat :=
  unitsAt x.rank

def isFinite (x : Binary64) : Bool :=
  x.rank < infinityRank

def isZero (x : Binary64) : Bool :=
  x.rank == 0

def zero (negative : Bool) : Binary64 :=
  ⟨negative, 0, Nat.zero_le _⟩

def infinity (negative : Bool) : Binary64 :=
  ⟨negative, infinityRank, Nat.le_refl _⟩

/-- The greatest rank whose magnitude is at most the given number of units. -/
def rankBelow (u : Nat) : Nat :=
  let shift := u.log2 - 52
  shift * binade + u >>> shift

/-- The rank nearest to `num / den`; halfway between two, the even one. -/
def nearestRank (num den : Nat) : Nat :=
  let scaled := num * unitDenominator
  let low := rankBelow (scaled / den)
  let twice := 2 * scaled
  let middle := den * (unitsAt low + unitsAt (low + 1))
  if twice < middle then low
  else if middle < twice then low + 1
  else low + low % 2

/-- The quotient `num / den`, rounded to nearest, ties to even; infinite when it is too large. -/
def ofRatio (negative : Bool) (num den : Nat) : Binary64 :=
  ⟨negative, min (nearestRank num den) infinityRank, Nat.min_le_right _ _⟩

def ofNat (n : Nat) : Binary64 :=
  ofRatio false n 1

/-- The rounded value of `coefficient * 10 ^ power`. Powers beyond the range of the format are
not computed. -/
def ofDecimal (negative : Bool) (coefficient : Nat) (power : Int) : Binary64 :=
  match power with
  | .ofNat p =>
    if coefficient = 0 then zero negative
    else if 400 < p then infinity negative
    else ofRatio negative (coefficient * Nat.pow 10 p) 1
  | .negSucc p =>
    if coefficient.log2 + 1200 < 3 * p then zero negative
    else ofRatio negative coefficient (Nat.pow 10 (p + 1))

/-- The rounded product of two finite numbers. -/
def mul (x y : Binary64) : Binary64 :=
  ofRatio (x.negative != y.negative) (x.units * y.units) (unitDenominator * unitDenominator)

/-- The rounded quotient of two finite numbers, of which the second is not zero. -/
def div (x y : Binary64) : Binary64 :=
  ofRatio (x.negative != y.negative) x.units y.units

def withSign (negative : Bool) (x : Binary64) : Binary64 :=
  { x with negative }

/-- Equality of values: the two zeros are equal. -/
def sameValue (x y : Binary64) : Bool :=
  x.rank == y.rank && (x.negative == y.negative || x.rank == 0)

end Binary64
end Minispec
