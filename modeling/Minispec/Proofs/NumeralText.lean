import Minispec.Decimal.Numeral

/-!
Scanning a rendered numeral gives the numeral back, whatever follows, provided that it cannot
go on. Only the text is compared here; what a numeral is worth plays no part.
-/

namespace Minispec

/-- A run of characters of a class is split off exactly, if the next one is outside the class. -/
theorem Text.span_append {p : Char → Bool} {run rest : List Char}
    (hrun : ∀ c ∈ run, p c = true) (hrest : ∀ c ∈ rest.head?, p c = false) :
    (run ++ rest).takeWhile p = run ∧ (run ++ rest).dropWhile p = rest := by
  rw [List.takeWhile_append_of_pos hrun, List.dropWhile_append_of_pos hrun]
  cases rest with
  | nil => simp
  | cons c rest =>
      have hc : p c = false := hrest c rfl
      simp [hc]

namespace Decimal

/-- At least one digit, and nothing else. -/
def IsDigits (cs : List Char) : Prop :=
  cs ≠ [] ∧ ∀ c ∈ cs, c.isDigit = true

/-- No digit comes next. -/
def DigitsEnd (rest : List Char) : Prop :=
  ∀ c ∈ rest.head?, c.isDigit = false

/-- Nothing comes next that could belong to a numeral. -/
def NumeralEnds (rest : List Char) : Prop :=
  ∀ c ∈ rest.head?, c.isDigit = false ∧ c ≠ '.' ∧ c ≠ 'e' ∧ c ≠ 'E'

theorem digitsEnd_cons {c : Char} {rest : List Char} (h : c.isDigit = false) :
    DigitsEnd (c :: rest) := by
  intro d hd
  cases hd
  exact h

theorem NumeralEnds.digitsEnd {rest : List Char} (h : NumeralEnds rest) : DigitsEnd rest :=
  fun c hc => (h c hc).1

theorem isDigits_toDigits (n : Nat) : IsDigits (Nat.toDigits 10 n) :=
  ⟨Nat.toDigits_ne_nil, fun _ hc => Nat.isDigit_of_mem_toDigits (by decide) (by decide) hc⟩

theorem scanDigits_append {digits rest : List Char} (h : IsDigits digits) (hr : DigitsEnd rest) :
    scanDigits (digits ++ rest) = some (digits, rest) := by
  obtain ⟨htake, hdrop⟩ := Text.span_append h.2 hr
  simp only [scanDigits, htake, hdrop]
  cases digits with
  | nil => exact absurd rfl h.1
  | cons c cs => rfl

/-- A digit is not one of the marks that steer a scan. -/
theorem ne_of_isDigit {c d : Char} (h : c.isDigit = true) (hd : d.isDigit = false) : c ≠ d := by
  intro hcd
  rw [← hcd, h] at hd
  cases hd

theorem scanSign_digits {digits rest : List Char} (h : IsDigits digits) :
    scanSign (digits ++ rest) = (none, digits ++ rest) := by
  cases digits with
  | nil => exact absurd rfl h.1
  | cons c cs =>
      have hc := h.2 c List.mem_cons_self
      have hplus : c ≠ '+' := ne_of_isDigit hc rfl
      have hminus : c ≠ '-' := ne_of_isDigit hc rfl
      simp [scanSign, hplus, hminus]

namespace Numeral

/-- The digits of a numeral are digits, and they are there where they have to be. -/
structure Proper (n : Numeral) : Prop where
  whole : IsDigits n.whole
  fraction : ∀ c ∈ n.fraction, c.isDigit = true
  exponent : ∀ e ∈ n.exponent, IsDigits e.digits

def renderFraction (fraction : List Char) : List Char :=
  if fraction.isEmpty then [] else '.' :: fraction

def renderExponent : Option Exponent → List Char
  | none => []
  | some e => 'e' :: (e.sign.toList.map Sign.mark ++ e.digits)

theorem render_eq (n : Numeral) :
    n.render = (if n.negative then ['-'] else []) ++
      (n.whole ++ (renderFraction n.fraction ++ renderExponent n.exponent)) := by
  simp only [render, renderFraction, List.append_assoc]
  cases n.exponent <;> rfl

theorem scanExponent_render {exponent : Option Exponent} {rest : List Char}
    (h : ∀ e ∈ exponent, IsDigits e.digits) (hr : NumeralEnds rest) :
    scanExponent (renderExponent exponent ++ rest) = (exponent, rest) := by
  cases exponent with
  | none =>
      cases rest with
      | nil => rfl
      | cons c rest =>
          obtain ⟨-, -, he, hE⟩ := hr c rfl
          simp [renderExponent, scanExponent, he, hE]
  | some e =>
      obtain ⟨sign, digits⟩ := e
      have hd : IsDigits digits := h _ rfl
      have hscan := scanDigits_append hd hr.digitsEnd
      cases sign with
      | none => simp [renderExponent, scanExponent, scanSign_digits hd, hscan]
      | some sign =>
          cases sign <;> simp [renderExponent, scanExponent, scanSign, Sign.mark, hscan]

theorem digitsEnd_renderExponent {exponent : Option Exponent} {rest : List Char}
    (hr : DigitsEnd rest) : DigitsEnd (renderExponent exponent ++ rest) := by
  cases exponent with
  | none => exact hr
  | some e => exact digitsEnd_cons rfl

theorem scanFraction_render {fraction rest : List Char} (h : ∀ c ∈ fraction, c.isDigit = true)
    (hr : DigitsEnd rest) (hpoint : rest.head? ≠ some '.') :
    scanFraction (renderFraction fraction ++ rest) = (fraction, rest) := by
  cases fraction with
  | nil =>
      cases rest with
      | nil => rfl
      | cons c rest =>
          have hc : c ≠ '.' := fun e => hpoint (congrArg some e)
          simp [renderFraction, scanFraction, hc]
  | cons c cs =>
      have hd : IsDigits (c :: cs) := ⟨List.cons_ne_nil c cs, h⟩
      simpa [renderFraction, scanFraction] using
        congrArg (fun o => o.getD ([], '.' :: c :: (cs ++ rest))) (scanDigits_append hd hr)

theorem renderExponent_not_point {exponent : Option Exponent} {rest : List Char}
    (hr : NumeralEnds rest) : (renderExponent exponent ++ rest).head? ≠ some '.' := by
  cases exponent with
  | none =>
      intro h
      exact (hr '.' h).2.1 rfl
  | some e => simp [renderExponent]

theorem digitsEnd_renderFraction {fraction rest : List Char} (hr : DigitsEnd rest) :
    DigitsEnd (renderFraction fraction ++ rest) := by
  cases fraction with
  | nil => exact hr
  | cons c cs => exact digitsEnd_cons rfl

theorem scanUnsigned_render (negative : Bool) {n : Numeral} {rest : List Char}
    (h : n.Proper) (hr : NumeralEnds rest) :
    scanUnsigned negative
        (n.whole ++ (renderFraction n.fraction ++ (renderExponent n.exponent ++ rest))) =
      some ({ n with negative }, rest) := by
  have hafter : DigitsEnd (renderExponent n.exponent ++ rest) :=
    digitsEnd_renderExponent hr.digitsEnd
  simp only [scanUnsigned, Option.bind_eq_bind,
    scanDigits_append h.whole (digitsEnd_renderFraction hafter), Option.bind_some,
    scanFraction_render h.fraction hafter (renderExponent_not_point hr),
    scanExponent_render h.exponent hr]
  rfl

theorem scan_render {n : Numeral} {rest : List Char} (h : n.Proper) (hr : NumeralEnds rest) :
    scan (n.render ++ rest) = some (n, rest) := by
  rw [render_eq]
  cases hn : n.negative with
  | true =>
      simp only [if_true, List.append_assoc, List.cons_append, List.nil_append, scan,
        scanUnsigned_render true h hr]
      rw [← hn]
  | false =>
      have hscan := scanUnsigned_render false h hr
      obtain ⟨c, cs, hw⟩ := List.exists_cons_of_ne_nil h.whole.1
      have hc : c ≠ '-' := ne_of_isDigit (h.whole.2 c (by simp [hw])) rfl
      rw [hw] at hscan
      simp only [hw, Bool.false_eq_true, if_false, List.nil_append, List.append_assoc]
      rw [List.cons_append] at hscan ⊢
      rw [scan, hscan]
      · rw [← hn, ← hw]
      · intro _ hsign
        cases hsign
        exact hc rfl

theorem proper_ofInt (n : Int) : (ofInt n).Proper where
  whole := isDigits_toDigits n.natAbs
  fraction := by simp [ofInt, ofNat]
  exponent := by simp [ofInt, ofNat]

theorem toInt_ofInt (n : Int) : (ofInt n).toInt = n := by
  simp only [toInt, ofInt, ofNat, digitsValue, Nat.ofDigitChars_ten_toDigits, decide_eq_true_eq]
  split <;> omega

theorem toInt64_ofInt (n : Int64) : (ofInt n.toInt).toInt64? = some n := by
  have hmin : Int64.minValue.toInt ≤ n.toInt := Int64.le_iff_toInt_le.1 (Int64.minValue_le n)
  have hmax : n.toInt ≤ Int64.maxValue.toInt := Int64.le_iff_toInt_le.1 (Int64.le_maxValue n)
  simp only [toInt64?, toInt_ofInt, hmin, hmax, and_self, if_true, Int64.ofInt_toInt]

end Numeral
end Decimal
end Minispec
