import Mathlib.Algebra.Order.Ring.Nat
import Mathlib.Tactic.Ring
import Minispec.Binary64

/-!
Rounding to nearest, seen from its results: a magnitude rounds to itself, the rounded value
depends on the quotient alone, and the shortcuts for very large and very small decimals give
what the full computation would. Nothing is said about how near other values are to theirs.
-/

namespace Minispec.Binary64

theorem binade_eq : binade = 2 ^ 52 := Nat.one_shiftLeft 52

/-- The exponent is kept apart from the power, which is too large to be computed at each use. -/
theorem exists_unitDenominator_eq : ∃ e, e = 1074 ∧ unitDenominator = 2 ^ e := by
  refine ⟨_, rfl, ?_⟩
  generalize h : 1074 = e
  rw [← Nat.one_shiftLeft, ← h, unitDenominator]

theorem binade_pos : 0 < binade := by decide

theorem infinityRank_eq : infinityRank = 2047 * binade := by decide

/-! ### Ranks and magnitudes -/

theorem unitsAt_of_lt {rank : Nat} (h : rank < binade) : unitsAt rank = rank := by
  simp only [unitsAt, h, if_true]

/-- Above the smallest magnitudes a rank splits into a binade and a place in it. -/
theorem unitsAt_binade (q m : Nat) (h : m < binade) :
    unitsAt ((q + 1) * binade + m) = (binade + m) * 2 ^ q := by
  have hle : ¬ (q + 1) * binade + m < binade := by
    rw [Nat.succ_mul]
    omega
  have hdiv : ((q + 1) * binade + m) / binade = q + 1 := by
    rw [Nat.mul_comm, Nat.mul_add_div binade_pos, Nat.div_eq_of_lt h, Nat.add_zero]
  have hmod : ((q + 1) * binade + m) % binade = m := by
    rw [Nat.mul_comm, Nat.mul_add_mod, Nat.mod_eq_of_lt h]
  simp only [unitsAt, hle, if_false, hdiv, hmod, Nat.add_sub_cancel, Nat.shiftLeft_eq]

theorem exists_binade {rank : Nat} (h : binade ≤ rank) :
    ∃ q m, m < binade ∧ rank = (q + 1) * binade + m := by
  have hdiv : 1 ≤ rank / binade := (Nat.one_le_div_iff binade_pos).2 h
  refine ⟨rank / binade - 1, rank % binade, Nat.mod_lt _ binade_pos, ?_⟩
  rw [Nat.sub_add_cancel hdiv, Nat.div_add_mod']

theorem unitsAt_lt_succ (rank : Nat) : unitsAt rank < unitsAt (rank + 1) := by
  by_cases h : rank < binade
  · rw [unitsAt_of_lt h]
    by_cases hs : rank + 1 < binade
    · rw [unitsAt_of_lt hs]
      omega
    · have hr : rank + 1 = (0 + 1) * binade + 0 := by omega
      rw [hr, unitsAt_binade 0 0 binade_pos]
      omega
  · obtain ⟨q, m, hm, rfl⟩ := exists_binade (Nat.le_of_not_lt h)
    have hpow : 0 < 2 ^ q := Nat.two_pow_pos q
    rw [unitsAt_binade q m hm]
    by_cases hs : m + 1 < binade
    · rw [Nat.add_assoc, unitsAt_binade q (m + 1) hs]
      exact Nat.mul_lt_mul_of_pos_right (by omega) hpow
    · have hr : (q + 1) * binade + m + 1 = (q + 1 + 1) * binade + 0 := by
        rw [Nat.succ_mul (q + 1)]
        omega
      rw [hr, unitsAt_binade (q + 1) 0 binade_pos, Nat.pow_succ']
      calc (binade + m) * 2 ^ q < (2 * binade) * 2 ^ q :=
            Nat.mul_lt_mul_of_pos_right (by omega) hpow
        _ = (binade + 0) * (2 * 2 ^ q) := by ring

theorem log2_lt_of_lt_binade {u : Nat} (h : u < binade) : u.log2 < 52 := by
  by_cases hu : u = 0
  · subst hu
    decide
  · exact (Nat.log2_lt hu).2 (binade_eq ▸ h)

theorem rankBelow_unitsAt (rank : Nat) : rankBelow (unitsAt rank) = rank := by
  by_cases h : rank < binade
  · have hlog : rank.log2 - 52 = 0 := Nat.sub_eq_zero_of_le (log2_lt_of_lt_binade h).le
    simp only [unitsAt_of_lt h, rankBelow, hlog, Nat.zero_mul, Nat.zero_add, Nat.shiftRight_zero]
  · obtain ⟨q, m, hm, rfl⟩ := exists_binade (Nat.le_of_not_lt h)
    rw [unitsAt_binade q m hm]
    have hpos : (binade + m) * 2 ^ q ≠ 0 :=
      Nat.mul_ne_zero (by omega) (Nat.two_pow_pos q).ne'
    have hlog : ((binade + m) * 2 ^ q).log2 = q + 52 := by
      refine (Nat.log2_eq_iff hpos).2 ⟨?_, ?_⟩
      · calc 2 ^ (q + 52) = binade * 2 ^ q := by rw [binade_eq]; ring
          _ ≤ (binade + m) * 2 ^ q := Nat.mul_le_mul_right _ (by omega)
      · calc (binade + m) * 2 ^ q < (2 * binade) * 2 ^ q :=
              Nat.mul_lt_mul_of_pos_right (by omega) (Nat.two_pow_pos q)
          _ = 2 ^ (q + 52 + 1) := by rw [binade_eq]; ring
    simp only [rankBelow, hlog, Nat.add_sub_cancel, Nat.shiftRight_eq_div_pow,
      Nat.mul_div_cancel _ (Nat.two_pow_pos q)]
    ring

/-! ### Rounding a quotient -/

theorem rankBelow_le_nearestRank (num den : Nat) :
    rankBelow (num * unitDenominator / den) ≤ nearestRank num den := by
  simp only [nearestRank]
  split
  · exact Nat.le_refl _
  · split <;> omega

/-- A quotient that is a magnitude rounds to it. -/
theorem nearestRank_exact {num den rank : Nat} (hden : 0 < den)
    (h : num * unitDenominator = den * unitsAt rank) : nearestRank num den = rank := by
  have hlow : rankBelow (num * unitDenominator / den) = rank := by
    rw [h, Nat.mul_div_cancel_left _ hden, rankBelow_unitsAt]
  have hbelow : 2 * (num * unitDenominator) < den * (unitsAt rank + unitsAt (rank + 1)) := by
    have := Nat.mul_lt_mul_of_pos_left (unitsAt_lt_succ rank) hden
    rw [h, Nat.mul_add]
    omega
  simp only [nearestRank, hlow, hbelow, if_true]

theorem nearestRank_scale {k : Nat} (hk : 0 < k) (num den : Nat) :
    nearestRank (k * num) (k * den) = nearestRank num den := by
  have htwice : 2 * (k * (num * unitDenominator)) = k * (2 * (num * unitDenominator)) :=
    Nat.mul_left_comm _ _ _
  simp only [nearestRank, Nat.mul_assoc, Nat.mul_div_mul_left _ _ hk, htwice,
    Nat.mul_lt_mul_left hk]

/-- Rounding sees the quotient, not the ratio it is written as. -/
theorem nearestRank_congr {num den num' den' : Nat} (hden : 0 < den) (hden' : 0 < den')
    (h : num * den' = num' * den) : nearestRank num den = nearestRank num' den' := by
  rw [← nearestRank_scale hden' num den, ← nearestRank_scale hden num' den',
    Nat.mul_comm den' num, h, Nat.mul_comm den' den, Nat.mul_comm den num']

theorem nearestRank_overflow {num den k : Nat} (hden : 0 < den) (hk : 1024 ≤ k)
    (h : 2 ^ k * den ≤ num) : infinityRank ≤ nearestRank num den := by
  refine Nat.le_trans ?_ (rankBelow_le_nearestRank num den)
  obtain ⟨e, he, hunit⟩ := exists_unitDenominator_eq
  have hu : 2 ^ (k + e) ≤ num * unitDenominator / den := by
    rw [Nat.le_div_iff_mul_le hden, hunit]
    calc 2 ^ (k + e) * den = 2 ^ k * den * 2 ^ e := by ring
      _ ≤ num * 2 ^ e := Nat.mul_le_mul_right _ h
  generalize num * unitDenominator / den = u at hu
  have hpos : u ≠ 0 := (Nat.lt_of_lt_of_le (Nat.two_pow_pos _) hu).ne'
  have hlog : k + e ≤ u.log2 := (Nat.le_log2 hpos).2 hu
  have hshift : binade ≤ u >>> (u.log2 - 52) := by
    rw [Nat.shiftRight_eq_div_pow, Nat.le_div_iff_mul_le (Nat.two_pow_pos _), binade_eq,
      ← Nat.pow_add, Nat.add_sub_cancel' (by omega)]
    exact Nat.log2_self_le hpos
  have hmul : 2046 * binade ≤ (u.log2 - 52) * binade := Nat.mul_le_mul_right _ (by omega)
  simp only [rankBelow, infinityRank_eq]
  omega

theorem nearestRank_underflow {num den : Nat} (h : 2 * (num * unitDenominator) < den) :
    nearestRank num den = 0 := by
  have hdiv : num * unitDenominator / den = 0 := Nat.div_eq_of_lt (by omega)
  have hlow : rankBelow 0 = 0 := rankBelow_unitsAt 0
  have hzero : unitsAt 0 = 0 := unitsAt_of_lt binade_pos
  have hone : unitsAt (0 + 1) = 1 := unitsAt_of_lt (by decide)
  simp only [nearestRank, hdiv, hlow, hzero, hone, Nat.zero_add, Nat.mul_one, h, if_true]

/-! ### Decimals -/

theorem ofRatio_congr (negative : Bool) {num den num' den' : Nat}
    (h : nearestRank num den = nearestRank num' den') :
    ofRatio negative num den = ofRatio negative num' den' := by
  simp only [ofRatio, h]

theorem infinity_eq_ofRatio (negative : Bool) {num den k : Nat} (hden : 0 < den)
    (hk : 1024 ≤ k) (h : 2 ^ k * den ≤ num) :
    infinity negative = ofRatio negative num den := by
  simp only [infinity, ofRatio, Nat.min_eq_right (nearestRank_overflow hden hk h)]

theorem zero_eq_ofRatio (negative : Bool) {num den : Nat}
    (h : 2 * (num * unitDenominator) < den) : zero negative = ofRatio negative num den := by
  simp only [zero, ofRatio, nearestRank_underflow h, Nat.zero_min]

theorem two_pow_le_ten_pow (p : Nat) : 2 ^ (3 * p) ≤ 10 ^ p := by
  rw [Nat.pow_mul]
  exact Nat.pow_le_pow_left (by decide) p

/-- The powers that are not computed would not change the result. -/
theorem ofDecimal_eq_ofRatio (negative : Bool) (coefficient : Nat) (power : Int) :
    ofDecimal negative coefficient power =
      ofRatio negative (coefficient * 10 ^ power.toNat) (10 ^ (-power).toNat) := by
  cases power with
  | ofNat p =>
      have hneg : (-(Int.ofNat p)).toNat = 0 := Int.toNat_eq_zero.2 (by simp)
      have hpos : (Int.ofNat p).toNat = p := rfl
      simp only [ofDecimal, hneg, hpos, Nat.pow_zero, Nat.pow_eq]
      split
      · next hzero =>
          rw [hzero, Nat.zero_mul]
          exact zero_eq_ofRatio negative (by simp)
      · next hzero =>
          split
          · next hlarge =>
              have hk : 1024 ≤ 3 * p := by omega
              apply infinity_eq_ofRatio negative Nat.one_pos hk
              calc 2 ^ (3 * p) * 1 ≤ 10 ^ p * coefficient :=
                    Nat.mul_le_mul (two_pow_le_ten_pow p) (Nat.one_le_iff_ne_zero.2 hzero)
                _ = coefficient * 10 ^ p := Nat.mul_comm _ _
          · rfl
  | negSucc p =>
      have hpos : (Int.negSucc p).toNat = 0 := rfl
      have hneg : (-(Int.negSucc p)).toNat = p + 1 := rfl
      simp only [ofDecimal, hpos, hneg, Nat.pow_zero, Nat.mul_one, Nat.pow_eq]
      split
      · next hsmall =>
          obtain ⟨e, he, hunit⟩ := exists_unitDenominator_eq
          apply zero_eq_ofRatio negative
          calc 2 * (coefficient * unitDenominator)
              < 2 * (2 ^ (coefficient.log2 + 1) * 2 ^ e) := by
                rw [hunit]
                exact Nat.mul_lt_mul_of_pos_left
                  (Nat.mul_lt_mul_of_pos_right Nat.lt_log2_self (Nat.two_pow_pos _)) (by decide)
            _ = 2 ^ (coefficient.log2 + e + 2) := by ring
            _ ≤ 2 ^ (3 * (p + 1)) := Nat.pow_le_pow_right (by decide) (by omega)
            _ ≤ 10 ^ (p + 1) := two_pow_le_ten_pow (p + 1)
      · rfl

/-- Zeros at the end of a coefficient can be traded for the power. -/
theorem ofDecimal_shift (negative : Bool) (coefficient k : Nat) (power : Int) :
    ofDecimal negative (coefficient * 10 ^ k) power =
      ofDecimal negative coefficient (power + k) := by
  rw [ofDecimal_eq_ofRatio, ofDecimal_eq_ofRatio]
  apply ofRatio_congr
  apply nearestRank_congr (Nat.pow_pos (by decide)) (Nat.pow_pos (by decide))
  have hexp : k + power.toNat + (-(power + k)).toNat = (power + k).toNat + (-power).toNat := by
    omega
  rw [Nat.mul_assoc, Nat.mul_assoc, Nat.mul_assoc, ← Nat.mul_assoc (10 ^ k), ← Nat.pow_add,
    ← Nat.pow_add, ← Nat.pow_add, hexp]

theorem ofDecimal_withSign (negative : Bool) (coefficient : Nat) (power : Int) {x : Binary64}
    (hsign : x.negative = negative)
    (hrank : (ofDecimal false coefficient power).rank = x.rank) :
    ofDecimal negative coefficient power = x := by
  rw [ofDecimal_eq_ofRatio] at hrank ⊢
  cases x
  cases hsign
  simp only [ofRatio] at hrank ⊢
  simp only [hrank]

theorem ofDecimal_zero (negative : Bool) (power : Int) :
    ofDecimal negative 0 power = zero negative := by
  rw [ofDecimal_eq_ofRatio, Nat.zero_mul]
  exact (zero_eq_ofRatio negative (by simp)).symm

end Minispec.Binary64
