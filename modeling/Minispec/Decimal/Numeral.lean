import Minispec.Binary64

/-!
Decimal numerals as they are written: a sign, digits, a fraction, an exponent. A numeral keeps
its digits, leading and trailing zeros included, so that scanning what was written gives the
same numeral back. What a numeral is worth is a separate question.
-/

namespace Minispec.Decimal

inductive Sign
  | plus
  | minus
deriving DecidableEq

def Sign.mark : Sign → Char
  | .plus => '+'
  | .minus => '-'

structure Exponent where
  sign : Option Sign
  digits : List Char
deriving DecidableEq

/-- An empty `fraction` stands for a numeral without a point. -/
structure Numeral where
  negative : Bool
  whole : List Char
  fraction : List Char
  exponent : Option Exponent
deriving DecidableEq

def digitsValue (digits : List Char) : Nat :=
  Nat.ofDigitChars 10 digits 0

def Exponent.value (e : Exponent) : Int :=
  match e.sign with
  | some .minus => -(digitsValue e.digits : Int)
  | _ => digitsValue e.digits

/-- The longest run of ASCII digits in front; there must be one. -/
def scanDigits (cs : List Char) : Option (List Char × List Char) :=
  match cs.takeWhile Char.isDigit with
  | [] => none
  | digits => some (digits, cs.dropWhile Char.isDigit)

def scanSign : List Char → Option Sign × List Char
  | '+' :: rest => (some .plus, rest)
  | '-' :: rest => (some .minus, rest)
  | cs => (none, cs)

/-- A point counts only with digits behind it. -/
def scanFraction (cs : List Char) : List Char × List Char :=
  match cs with
  | '.' :: rest => (scanDigits rest).getD ([], cs)
  | _ => ([], cs)

/-- The letter counts only with digits behind it, after an optional sign. -/
def scanExponent (cs : List Char) : Option Exponent × List Char :=
  match cs with
  | [] => (none, [])
  | c :: rest =>
    if c == 'e' || c == 'E' then
      let (sign, rest) := scanSign rest
      match scanDigits rest with
      | some (digits, rest) => (some { sign, digits }, rest)
      | none => (none, cs)
    else (none, cs)

namespace Numeral

/-- The longest numeral without a sign that stands in front. -/
def scanUnsigned (negative : Bool) (cs : List Char) : Option (Numeral × List Char) := do
  let (whole, rest) ← scanDigits cs
  let (fraction, rest) := scanFraction rest
  let (exponent, rest) := scanExponent rest
  return ({ negative, whole, fraction, exponent }, rest)

def scan : List Char → Option (Numeral × List Char)
  | '-' :: rest => scanUnsigned true rest
  | cs => scanUnsigned false cs

def render (n : Numeral) : List Char :=
  (if n.negative then ['-'] else []) ++ n.whole
    ++ (if n.fraction.isEmpty then [] else '.' :: n.fraction)
    ++ match n.exponent with
      | none => []
      | some e => 'e' :: (e.sign.toList.map Sign.mark ++ e.digits)

/-- Written without a point and without an exponent. -/
def isWhole (n : Numeral) : Bool :=
  n.fraction.isEmpty && n.exponent.isNone

/-- The integer that a whole numeral denotes. -/
def toInt (n : Numeral) : Int :=
  if n.negative then -(digitsValue n.whole : Int) else digitsValue n.whole

/-- The integer that a whole numeral denotes, if it fits into 64 bits. -/
def toInt64? (n : Numeral) : Option Int64 :=
  if Int64.minValue.toInt ≤ n.toInt ∧ n.toInt ≤ Int64.maxValue.toInt then
    some (Int64.ofInt n.toInt)
  else none

def ofNat (n : Nat) : Numeral :=
  { negative := false, whole := Nat.toDigits 10 n, fraction := [], exponent := none }

def ofInt (n : Int) : Numeral :=
  { ofNat n.natAbs with negative := n < 0 }

/-- The numeral is worth `coefficient * 10 ^ power`, up to its sign. -/
def coefficient (n : Numeral) : Nat :=
  digitsValue (n.whole ++ n.fraction)

def power (n : Numeral) : Int :=
  (n.exponent.map Exponent.value).getD 0 - n.fraction.length

/-- The floating point number nearest to the numeral. -/
def toBinary64 (n : Numeral) : Binary64 :=
  .ofDecimal n.negative n.coefficient n.power

end Numeral

/-! ### Scanning takes something away -/

theorem length_scanDigits {cs digits rest : List Char}
    (h : scanDigits cs = some (digits, rest)) : rest.length < cs.length := by
  unfold scanDigits at h
  split at h
  · cases h
  · next hsome =>
      cases h
      have hlength := congrArg List.length
        (List.takeWhile_append_dropWhile (p := Char.isDigit) (l := cs))
      have hpos : 0 < (cs.takeWhile Char.isDigit).length := List.length_pos_iff.2 hsome
      rw [List.length_append] at hlength
      omega

theorem length_scanFraction (cs : List Char) : (scanFraction cs).2.length ≤ cs.length := by
  unfold scanFraction
  split
  · next rest =>
      cases hdigits : scanDigits rest with
      | none => exact Nat.le_refl _
      | some p =>
          have hshorter := length_scanDigits hdigits
          simp only [Option.getD_some, List.length_cons]
          omega
  · exact Nat.le_refl _

theorem length_scanSign (cs : List Char) : (scanSign cs).2.length ≤ cs.length := by
  unfold scanSign
  split <;> simp

theorem length_scanExponent (cs : List Char) : (scanExponent cs).2.length ≤ cs.length := by
  unfold scanExponent
  split
  · exact Nat.le_refl _
  · next c rest =>
      have hsign := length_scanSign rest
      split
      · dsimp only
        split
        · next digits rest' hdigits =>
            have hshorter := length_scanDigits hdigits
            simp only [List.length_cons]
            omega
        · exact Nat.le_refl _
      · exact Nat.le_refl _

theorem Numeral.length_scanUnsigned {negative : Bool} {cs rest : List Char} {n : Numeral}
    (h : scanUnsigned negative cs = some (n, rest)) : rest.length < cs.length := by
  simp only [scanUnsigned, Option.bind_eq_bind, Option.bind_eq_some_iff, Prod.exists] at h
  obtain ⟨whole, after, hdigits, ⟨⟩⟩ := h
  have hwhole := length_scanDigits hdigits
  have hfraction := length_scanFraction after
  have hexponent := length_scanExponent (scanFraction after).2
  omega

theorem Numeral.length_scan {cs rest : List Char} {n : Numeral}
    (h : scan cs = some (n, rest)) : rest.length < cs.length := by
  unfold scan at h
  split at h
  · have hshorter := length_scanUnsigned h
    simp only [List.length_cons]
    omega
  · exact length_scanUnsigned h

end Minispec.Decimal
