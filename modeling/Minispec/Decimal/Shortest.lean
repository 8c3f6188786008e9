import Minispec.Decimal.Numeral

/-!
The shortest decimal that reads back as a given floating point number.

On the grid of decimals with a given number of significant digits only the two neighbours of the
value can be the best candidates. The first grid on which one of them reads back gives the
digits; if both do, the nearer one is taken, and `Tie` says which one at equal distance. Layouts
decide how these digits are written.
-/

namespace Minispec.Decimal

/-- The decimal `coefficient * 10 ^ power`. -/
structure Scientific where
  coefficient : Nat
  power : Int
deriving DecidableEq

inductive Tie
  | up
  | toEven
deriving DecidableEq

namespace Shortest

/-- The number of decimal places before the point of `num / den`: the least `k` such that the
quotient is below `10 ^ k`, for a quotient that is not a power of ten below one. -/
def pointOf (num den : Nat) : Int :=
  if den ≤ num then (Nat.toDigits 10 (num / den)).length
  else 1 - ((Nat.toDigits 10 (den / num)).length : Int)

/-- The quotient of `num / den` by a power of ten, as a ratio again. -/
def overPowerOfTen (num den : Nat) (power : Int) : Nat × Nat :=
  (num * Nat.pow 10 (-power).toNat, den * Nat.pow 10 power.toNat)

/-- The best decimal on the grid with the given step that reads back as `rank`. -/
def onGrid (tie : Tie) (rank : Nat) (power : Int) : Option Scientific :=
  let (num, den) := overPowerOfTen (Binary64.unitsAt rank) Binary64.unitDenominator power
  let low := num / den
  let readsBack (c : Nat) : Bool := (Binary64.ofDecimal false c power).rank == rank
  let takeUpper : Bool :=
    if 2 * num < (2 * low + 1) * den then false
    else if (2 * low + 1) * den < 2 * num then true
    else match tie with
      | .up => true
      | .toEven => low % 2 == 1
  match readsBack low, readsBack (low + 1) with
  | true, true => some ⟨if takeUpper then low + 1 else low, power⟩
  | true, false => some ⟨low, power⟩
  | false, true => some ⟨low + 1, power⟩
  | false, false => none

/-- All digits of the value, for when no grid is fine enough. -/
def exact (rank : Nat) : Scientific :=
  ⟨Binary64.unitsAt rank * Nat.pow 5 1074, -1074⟩

end Shortest

/-- The shortest decimal for a finite magnitude other than zero. -/
def shortest (tie : Tie) (rank : Nat) : Scientific :=
  let point := Shortest.pointOf (Binary64.unitsAt rank) Binary64.unitDenominator
  let grids := (List.range 17).map fun n => point - (n + 1 : Nat)
  (grids.findSome? (Shortest.onGrid tie rank)).getD (Shortest.exact rank)

/-- How the digits of a floating point number are laid out. -/
structure Layout where
  /-- Which of two equally near candidates is written. -/
  tie : Tie
  /-- Whether a value is written without an exponent, given the place of its decimal point
  relative to its first digit. -/
  positional : Int → Bool
  /-- Whether a whole value written without an exponent ends in `.0`. -/
  pointZero : Bool
  /-- The sign of an exponent that is not negative. -/
  plus : Option Sign

namespace Layout

def zeros (n : Nat) : List Char :=
  List.replicate n '0'

/-- Digits with the point `point` places after their beginning. -/
def placePoint (layout : Layout) (negative : Bool) (digits : List Char) (point : Int) : Numeral :=
  let lead := zeros (1 - point).toNat
  let trail := zeros (point - digits.length).toNat
  let padded := lead ++ digits ++ trail
  let split := max 1 point.toNat
  let fraction := padded.drop split
  { negative
    whole := padded.take split
    fraction := if fraction.isEmpty && layout.pointZero then ['0'] else fraction
    exponent := none }

/-- One digit before the point, and an exponent. -/
def withExponent (layout : Layout) (negative : Bool) (digits : List Char) (point : Int) :
    Numeral :=
  let e := point - 1
  { negative
    whole := digits.take 1
    fraction := digits.drop 1
    exponent := some
      { sign := if e < 0 then some .minus else layout.plus
        digits := Nat.toDigits 10 e.natAbs } }

/-- Significant digits without the zeros at their end. -/
def significant (coefficient : Nat) : List Char :=
  ((Nat.toDigits 10 coefficient).reverse.dropWhile (· == '0')).reverse

/-- The numeral of a finite number. -/
def numeral (layout : Layout) (x : Binary64) : Numeral :=
  if x.isZero then layout.placePoint x.negative ['0'] 1
  else
    let d := shortest layout.tie x.rank
    let point : Int := (Nat.toDigits 10 d.coefficient).length + d.power
    let digits := significant d.coefficient
    if layout.positional point then layout.placePoint x.negative digits point
    else layout.withExponent x.negative digits point

/-- The text of any number; infinity is named. -/
def text (layout : Layout) (x : Binary64) : List Char :=
  if x.isFinite then (layout.numeral x).render
  else (if x.negative then ['-'] else []) ++ "inf".toList

end Layout

/-- Values in trees and reports: positional from 0.0001 up to below 10 to the power 16. -/
def Layout.general : Layout where
  tie := .up
  positional point := -3 ≤ point && point ≤ 16
  pointZero := true
  plus := none

/-- Values in running text: all digits, never an exponent. -/
def Layout.plain : Layout where
  tie := .up
  positional _ := true
  pointZero := false
  plus := none

/-- Values in JSON: positional from 0.00001 up to below 10 to the power 16. -/
def Layout.json : Layout where
  tie := .toEven
  positional point := -4 ≤ point && point ≤ 16
  pointZero := true
  plus := some .plus

end Minispec.Decimal
