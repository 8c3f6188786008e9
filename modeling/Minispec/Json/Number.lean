import Minispec.Json

/-!
What the numerals of JSON are worth to a reader of integers or of floating point numbers.

Integers are those written without point and exponent; minus zero is not one of them. A floating
point number is taken from as many digits as fit into 64 bits: they are rounded once as an
integer, and the result is multiplied or divided by a power of ten with a second rounding, so the
last place can differ from the nearest number.
-/

namespace Minispec.Json

/-- The first number that does not fit into 64 bits. -/
def wordLimit : Nat := 0x10000000000000000

/-- A whole numeral below the limit, without a sign. -/
def unsigned64? : Json → Option Nat
  | .num n =>
    if n.isWhole && !n.negative && n.toInt < wordLimit then some n.toInt.toNat else none
  | _ => none

/-- A whole numeral that fits into 64 bits with a sign. -/
def int64? : Json → Option Int64
  | .num n => if n.isWhole && !(n.negative && n.toInt == 0) then n.toInt64? else none
  | _ => none

/-- Appends digits to a significand until one would take it beyond 64 bits; the digits that are
left over are returned with it. -/
def appendDigits (significand : Nat) : List Char → Nat × List Char
  | [] => (significand, [])
  | d :: ds =>
    let next := significand * 10 + (d.toNat - '0'.toNat)
    if next < wordLimit then appendDigits next ds else (significand, d :: ds)

/-- The significand of a numeral within 64 bits, and the power of ten that goes with it. -/
def significand (n : Decimal.Numeral) : Nat × Int :=
  let (whole, dropped) := appendDigits 0 n.whole
  let (all, ignored) := appendDigits whole n.fraction
  (all, dropped.length - (n.fraction.length - ignored.length : Nat))

/-- The greatest power of ten that is used as a factor. -/
def maxPower : Nat := 308

def powerOfTen (p : Nat) : Binary64 :=
  .ofDecimal false 1 p

/-- Divides by `10 ^ p`, in steps of the greatest factor. -/
def divPowerOfTen (x : Binary64) (p : Nat) : Binary64 :=
  if p ≤ maxPower then x.div (powerOfTen p)
  else if x.isZero then x
  else divPowerOfTen (x.div (powerOfTen maxPower)) (p - maxPower)
termination_by p
decreasing_by simp only [maxPower] at *; omega

/-- Multiplies by `10 ^ p`, unless that overflows. -/
def mulPowerOfTen? (x : Binary64) (p : Nat) : Option Binary64 :=
  if p ≤ maxPower then
    let y := x.mul (powerOfTen p)
    if y.isFinite then some y else none
  else if x.isZero then some x
  else none

/-- The floating point number that a numeral denotes in JSON; none if it is too large. -/
def numeralToBinary64? (n : Decimal.Numeral) : Option Binary64 :=
  let (digits, shift) := significand n
  let x := Binary64.ofNat digits
  let magnitude? :=
    match shift + (n.exponent.map (·.value)).getD 0 with
    | .ofNat p => mulPowerOfTen? x p
    | .negSucc p => some (divPowerOfTen x (p + 1))
  magnitude?.map (·.withSign n.negative)

def float? : Json → Option Binary64
  | .num n => numeralToBinary64? n
  | _ => none

end Minispec.Json
