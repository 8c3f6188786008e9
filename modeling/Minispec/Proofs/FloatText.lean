import Mathlib.Data.List.TakeWhile
import Minispec.Decimal.Shortest
import Minispec.Proofs.NumeralText
import Minispec.Proofs.Rounding

/-!
The text of a finite floating point number is a numeral that rounds to the number again. This
holds for every layout whose exponents carry an honest sign. That the digits are as few as
possible is not needed for it.
-/

namespace Minispec.Decimal

/-! ### Digits -/

theorem digitsValue_append_zeros (digits : List Char) (k : Nat) :
    digitsValue (digits ++ Layout.zeros k) = digitsValue digits * 10 ^ k := by
  simp only [digitsValue, Layout.zeros, Nat.ofDigitChars_append, Nat.ofDigitChars_replicate_zero]
  exact Nat.mul_comm _ _

theorem digitsValue_zeros_append (k : Nat) (digits : List Char) :
    digitsValue (Layout.zeros k ++ digits) = digitsValue digits := by
  simp only [digitsValue, Layout.zeros, Nat.ofDigitChars_append, Nat.ofDigitChars_replicate_zero,
    Nat.mul_zero]

theorem digitsValue_toDigits (n : Nat) : digitsValue (Nat.toDigits 10 n) = n :=
  Nat.ofDigitChars_ten_toDigits

namespace Layout

theorem length_zeros (k : Nat) : (zeros k).length = k := List.length_replicate

theorem isDigit_of_mem_zeros {k : Nat} {c : Char} (h : c ∈ zeros k) : c.isDigit = true := by
  cases List.eq_of_mem_replicate h
  rfl

/-- All digits are the significant ones and zeros behind them. -/
theorem exists_toDigits_eq (coefficient : Nat) :
    ∃ k, Nat.toDigits 10 coefficient = significant coefficient ++ zeros k := by
  generalize hd : Nat.toDigits 10 coefficient = digits
  refine ⟨(digits.reverse.takeWhile (· == '0')).length, ?_⟩
  have hzeros : (digits.reverse.takeWhile (· == '0')).reverse =
      zeros (digits.reverse.takeWhile (· == '0')).length := by
    refine List.eq_replicate_iff.2 ⟨List.length_reverse, ?_⟩
    intro c hc
    simpa using List.mem_takeWhile_imp (List.mem_reverse.1 hc)
  rw [← hzeros, significant, hd, ← List.reverse_append, List.takeWhile_append_dropWhile,
    List.reverse_reverse]

theorem isDigits_significant {coefficient : Nat} (h : coefficient ≠ 0) :
    IsDigits (significant coefficient) := by
  obtain ⟨k, hk⟩ := exists_toDigits_eq coefficient
  constructor
  · intro hnil
    have hvalue := digitsValue_toDigits coefficient
    rw [hk, hnil, digitsValue_append_zeros] at hvalue
    exact h (hvalue.symm.trans (Nat.zero_mul _))
  · intro c hc
    apply (isDigits_toDigits coefficient).2
    rw [hk]
    exact List.mem_append_left _ hc

/-! ### Layouts -/

/-- A sign for exponents that are not negative does not turn them round. -/
def Honest (layout : Layout) : Prop :=
  layout.plus ≠ some .minus

/-- Zeros put in front and behind do not change what the digits are worth. -/
theorem placePoint_toBinary64 (layout : Layout) (negative : Bool) (digits : List Char)
    (point : Int) :
    (layout.placePoint negative digits point).toBinary64 =
      .ofDecimal negative (digitsValue digits) (point - digits.length) := by
  obtain ⟨k, hdigits, hlength⟩ : ∃ k,
      (layout.placePoint negative digits point).whole ++
        (layout.placePoint negative digits point).fraction =
          zeros (1 - point).toNat ++
            (digits ++ zeros ((point - digits.length).toNat + k)) ∧
      (layout.placePoint negative digits point).fraction.length =
        (1 - point).toNat + digits.length + (point - digits.length).toNat -
          max 1 point.toNat + k := by
    generalize hpadded : zeros (1 - point).toNat ++ digits ++
      zeros (point - digits.length).toNat = padded
    have hlen : padded.length =
        (1 - point).toNat + digits.length + (point - digits.length).toNat := by
      simp only [← hpadded, List.length_append, length_zeros]
    simp only [placePoint, hpadded, ← hlen]
    split
    · next hempty =>
        -- a point is asked for, and there is nothing to stand behind it
        simp only [Bool.and_eq_true, List.isEmpty_iff] at hempty
        have hall : padded.take (max 1 point.toNat) = padded := by
          have := List.take_append_drop (max 1 point.toNat) padded
          rwa [hempty.1, List.append_nil] at this
        have hzero : padded.length - max 1 point.toNat = 0 := by
          rw [← List.length_drop, hempty.1, List.length_nil]
        refine ⟨1, ?_, by rw [hzero]; rfl⟩
        rw [hall, ← hpadded, zeros, zeros, zeros, List.replicate_succ']
        simp only [List.append_assoc]
    · refine ⟨0, ?_, List.length_drop⟩
      rw [List.take_append_drop, ← hpadded, List.append_assoc, Nat.add_zero]
  have hsign : (layout.placePoint negative digits point).negative = negative := rfl
  have hexp : (layout.placePoint negative digits point).exponent = none := rfl
  rw [Numeral.toBinary64, hsign, Numeral.coefficient, hdigits, digitsValue_zeros_append,
    digitsValue_append_zeros, Binary64.ofDecimal_shift, Numeral.power, hexp, hlength]
  congr 1
  simp only [Option.map_none, Option.getD_none]
  omega

theorem exponent_value {layout : Layout} (h : layout.Honest) (e : Int) :
    Exponent.value { sign := if e < 0 then some .minus else layout.plus,
                     digits := Nat.toDigits 10 e.natAbs } = e := by
  simp only [Exponent.value, digitsValue_toDigits]
  by_cases he : e < 0
  · simp only [he, if_true]
    omega
  · simp only [he, if_false]
    split
    · next hplus => exact absurd hplus h
    · omega

theorem withExponent_toBinary64 {layout : Layout} (h : layout.Honest) (negative : Bool)
    {digits : List Char} (hd : digits ≠ []) (point : Int) :
    (layout.withExponent negative digits point).toBinary64 =
      .ofDecimal negative (digitsValue digits) (point - digits.length) := by
  have hlen : 0 < digits.length := List.length_pos_iff.2 hd
  simp only [Numeral.toBinary64, Numeral.coefficient, Numeral.power, withExponent,
    List.take_append_drop, Option.map_some, Option.getD_some, exponent_value h, List.length_drop]
  congr 1
  omega

theorem placePoint_proper (layout : Layout) (negative : Bool) {digits : List Char}
    (hd : IsDigits digits) (point : Int) : (layout.placePoint negative digits point).Proper := by
  have hpadded : ∀ c ∈ zeros (1 - point).toNat ++ digits ++ zeros (point - digits.length).toNat,
      c.isDigit = true := by
    intro c hc
    obtain (hc | hc) | hc := (List.mem_append.1 hc).imp_left List.mem_append.1
    · exact isDigit_of_mem_zeros hc
    · exact hd.2 c hc
    · exact isDigit_of_mem_zeros hc
  refine ⟨⟨?_, fun c hc => hpadded c (List.mem_of_mem_take hc)⟩, ?_, fun e he => nomatch he⟩
  · intro hnil
    have hlen := congrArg List.length hnil
    have hpos : 0 < digits.length := List.length_pos_iff.2 hd.1
    simp only [placePoint, List.length_take, List.length_append, List.length_nil] at hlen
    omega
  · intro c hc
    simp only [placePoint] at hc
    split at hc
    · cases List.mem_singleton.1 hc
      rfl
    · exact hpadded c (List.mem_of_mem_drop hc)

theorem withExponent_proper (layout : Layout) (negative : Bool) {digits : List Char}
    (hd : IsDigits digits) (point : Int) :
    (layout.withExponent negative digits point).Proper := by
  refine ⟨⟨?_, fun c hc => hd.2 c (List.mem_of_mem_take hc)⟩,
    fun c hc => hd.2 c (List.mem_of_mem_drop hc), ?_⟩
  · intro hnil
    cases List.take_eq_nil_iff.1 hnil with
    | inl h => cases h
    | inr h => exact hd.1 h
  · intro e he
    cases he
    exact isDigits_toDigits _

end Layout

/-! ### The shortest digits -/

theorem Shortest.onGrid_reads_back {tie : Tie} {rank : Nat} {power : Int} {d : Scientific}
    (h : onGrid tie rank power = some d) :
    (Binary64.ofDecimal false d.coefficient d.power).rank = rank := by
  simp only [onGrid] at h
  split at h
  · next hlow hhigh =>
      cases h
      exact iteInduction (motive := fun c => (Binary64.ofDecimal false c power).rank = rank)
        (fun _ => eq_of_beq hhigh) (fun _ => eq_of_beq hlow)
  · next hlow _ =>
      cases h
      exact eq_of_beq hlow
  · next _ hhigh =>
      cases h
      exact eq_of_beq hhigh
  · cases h

theorem Shortest.exact_reads_back {rank : Nat} (h : rank < Binary64.infinityRank) :
    (Binary64.ofDecimal false (exact rank).coefficient (exact rank).power).rank = rank := by
  obtain ⟨e, he, hunit⟩ := Binary64.exists_unitDenominator_eq
  have hpower : (exact rank).power = -(e : Int) := by rw [he]; rfl
  have hcoefficient : (exact rank).coefficient = Binary64.unitsAt rank * Nat.pow 5 e := by
    simp only [exact]
    rw [← he]
  have hnearest : Binary64.nearestRank (Binary64.unitsAt rank * 5 ^ e) (10 ^ e) = rank := by
    apply Binary64.nearestRank_exact (Nat.pow_pos (by decide))
    rw [hunit, Nat.mul_assoc, ← Nat.mul_pow, Nat.mul_comm]
  have hneg : (-(e : Int)).toNat = 0 := by omega
  have hpos : (-(-(e : Int))).toNat = e := by omega
  rw [hpower, hcoefficient, Nat.pow_eq, Binary64.ofDecimal_eq_ofRatio, hneg, hpos, Nat.pow_zero,
    Nat.mul_one]
  simp only [Binary64.ofRatio, hnearest]
  exact Nat.min_eq_left h.le

theorem shortest_reads_back (tie : Tie) {rank : Nat} (h : rank < Binary64.infinityRank) :
    (Binary64.ofDecimal false (shortest tie rank).coefficient (shortest tie rank).power).rank =
      rank := by
  simp only [shortest]
  generalize hfind : List.findSome? _ _ = found
  cases found with
  | none => exact Shortest.exact_reads_back h
  | some d =>
      obtain ⟨power, _, hd⟩ := List.exists_of_findSome?_eq_some hfind
      exact Shortest.onGrid_reads_back hd

theorem shortest_coefficient_ne_zero (tie : Tie) {rank : Nat} (hzero : rank ≠ 0)
    (h : rank < Binary64.infinityRank) : (shortest tie rank).coefficient ≠ 0 := by
  intro hc
  have hback := shortest_reads_back tie h
  rw [hc, Binary64.ofDecimal_zero] at hback
  exact hzero hback.symm

/-! ### Numbers -/

namespace Layout

theorem numeral_toBinary64 {layout : Layout} (h : layout.Honest) {x : Binary64}
    (hx : x.isFinite = true) : (layout.numeral x).toBinary64 = x := by
  have hfinite : x.rank < Binary64.infinityRank := of_decide_eq_true hx
  simp only [numeral]
  split
  · next hzero =>
      have hrank : x.rank = 0 := eq_of_beq hzero
      rw [placePoint_toBinary64]
      apply Binary64.ofDecimal_withSign x.negative _ _ rfl
      rw [hrank]
      exact congrArg Binary64.rank (Binary64.ofDecimal_zero false _)
  · next hzero =>
      have hrank : x.rank ≠ 0 := fun h => hzero (beq_iff_eq.2 h)
      generalize hd : shortest layout.tie x.rank = d
      have hc : d.coefficient ≠ 0 := hd ▸ shortest_coefficient_ne_zero _ hrank hfinite
      have hback : Binary64.ofDecimal x.negative d.coefficient d.power = x :=
        Binary64.ofDecimal_withSign x.negative _ _ rfl
          (hd ▸ shortest_reads_back layout.tie hfinite)
      obtain ⟨k, hk⟩ := exists_toDigits_eq d.coefficient
      have hvalue : digitsValue (significant d.coefficient) * 10 ^ k = d.coefficient := by
        rw [← digitsValue_append_zeros, ← hk, digitsValue_toDigits]
      have hpower : ((Nat.toDigits 10 d.coefficient).length : Int) + d.power -
          (significant d.coefficient).length = d.power + k := by
        rw [hk, List.length_append, length_zeros]
        omega
      have hworth : Binary64.ofDecimal x.negative (digitsValue (significant d.coefficient))
          (((Nat.toDigits 10 d.coefficient).length : Int) + d.power -
            (significant d.coefficient).length) = x := by
        rw [hpower, ← Binary64.ofDecimal_shift, hvalue, hback]
      split
      · rw [placePoint_toBinary64, hworth]
      · rw [withExponent_toBinary64 h _ (isDigits_significant hc).1, hworth]

theorem numeral_proper (layout : Layout) {x : Binary64} (hx : x.isFinite = true) :
    (layout.numeral x).Proper := by
  have hfinite : x.rank < Binary64.infinityRank := of_decide_eq_true hx
  simp only [numeral]
  split
  · exact placePoint_proper layout _ ⟨by simp, by simp⟩ 1
  · next hzero =>
      have hrank : x.rank ≠ 0 := fun h => hzero (beq_iff_eq.2 h)
      have hd := isDigits_significant (shortest_coefficient_ne_zero layout.tie hrank hfinite)
      split
      · exact placePoint_proper layout _ hd _
      · exact withExponent_proper layout _ hd _

/-- A layout that always writes a point or an exponent never writes an integer. -/
theorem numeral_not_whole {layout : Layout} (h : layout.pointZero = true) (x : Binary64) :
    (layout.numeral x).isWhole = false := by
  have hpoint (negative : Bool) (digits : List Char) (point : Int) :
      (layout.placePoint negative digits point).isWhole = false := by
    simp only [Numeral.isWhole, placePoint, h, Bool.and_true]
    split
    · rfl
    · next hempty =>
        rw [Bool.eq_false_of_not_eq_true hempty]
        rfl
  simp only [numeral]
  split
  · exact hpoint _ _ _
  · split
    · exact hpoint _ _ _
    · simp [Numeral.isWhole, withExponent]

end Layout
end Minispec.Decimal
