import TagTemplate.Double.Shortest
import TagTemplate.Proofs.Double.Grid

/-!
Decimals and the doubles they denote. The rank of a decimal depends on its value alone, and the
shortest decimal of a rank has this rank.
-/

namespace TagTemplate.Double

namespace Decimal

theorem two_pow_le_ten_pow {binary decimal : Nat} (coarse fine : Nat)
    (low : binary ≤ 93 * coarse + 3 * fine) (high : 28 * coarse + fine ≤ decimal) :
    2 ^ binary ≤ 10 ^ decimal := by
  have coarseStep : 2 ^ 93 ≤ 10 ^ 28 := by decide
  have fineStep : 2 ^ 3 ≤ 10 := by decide
  calc 2 ^ binary ≤ 2 ^ (93 * coarse + 3 * fine) := Nat.pow_le_pow_right (by decide) low
    _ = (2 ^ 93) ^ coarse * (2 ^ 3) ^ fine := by rw [Nat.pow_add, Nat.pow_mul, Nat.pow_mul]
    _ ≤ (10 ^ 28) ^ coarse * 10 ^ fine :=
        Nat.mul_le_mul (Nat.pow_le_pow_left coarseStep coarse) (Nat.pow_le_pow_left fineStep fine)
    _ = 10 ^ (28 * coarse + fine) := by rw [Nat.pow_add, Nat.pow_mul]
    _ ≤ 10 ^ decimal := Nat.pow_le_pow_right (by decide) high

theorem nearestRank_of_huge {coefficient : Nat} {exponent : Int} (nonzero : coefficient ≠ 0)
    (huge : 310 < exponent) :
    nearestRank (coefficient * 10 ^ exponent.toNat) (10 ^ (-exponent).toNat) = infinityRank := by
  have whole : (-exponent).toNat = 0 := by omega
  rw [whole, Nat.pow_zero]
  refine nearestRank_large (Nat.le_refl 1024) ?_
  calc 2 ^ 1024 ≤ 10 ^ exponent.toNat := two_pow_le_ten_pow 11 1 (by decide) (by omega)
    _ ≤ coefficient * 10 ^ exponent.toNat := Nat.le_mul_of_pos_left _ (Nat.pos_of_ne_zero nonzero)

theorem nearestRank_of_tiny {coefficient : Nat} {exponent : Int}
    (tiny : exponent + coefficient.log2 + 1 < -330) :
    nearestRank (coefficient * 10 ^ exponent.toNat) (10 ^ (-exponent).toNat) = 0 := by
  have fraction : exponent.toNat = 0 := by omega
  rw [fraction, Nat.pow_zero, Nat.mul_one]
  apply nearestRank_small
  have below : coefficient < 10 ^ (coefficient.log2 + 1) :=
    Nat.lt_of_lt_of_le Nat.lt_log2_self (Nat.pow_le_pow_left (by decide) _)
  have half : 2 ^ (unitPower + 1) ≤ 10 ^ ((-exponent).toNat - (coefficient.log2 + 1)) :=
    two_pow_le_ten_pow 11 18 (by decide) (by omega)
  calc 2 * (coefficient * 2 ^ unitPower) = coefficient * 2 ^ (unitPower + 1) := by
        rw [Nat.pow_succ, Nat.mul_comm 2, Nat.mul_assoc]
    _ < 10 ^ (coefficient.log2 + 1) * 10 ^ ((-exponent).toNat - (coefficient.log2 + 1)) :=
        Nat.mul_lt_mul_of_lt_of_le below half (Nat.pow_pos (by decide))
    _ = 10 ^ (-exponent).toNat := by
        rw [← Nat.pow_add, Nat.add_sub_cancel' (by omega)]

/-- The clamps of far exponents agree with rounding. -/
theorem rank_eq_nearestRank {decimal : Decimal} (nonzero : decimal.coefficient ≠ 0) :
    decimal.rank = nearestRank (decimal.coefficient * 10 ^ decimal.exponent.toNat)
      (10 ^ (-decimal.exponent).toNat) := by
  unfold rank
  rw [if_neg nonzero]
  split
  · rename_i huge
    exact (nearestRank_of_huge nonzero huge).symm
  · split
    · rename_i tiny
      exact (nearestRank_of_tiny tiny).symm
    · rfl

theorem rank_fraction {coefficient places : Nat} (nonzero : coefficient ≠ 0) :
    rank ⟨coefficient, -(places : Int)⟩ = nearestRank coefficient (10 ^ places) := by
  rw [rank_eq_nearestRank nonzero]
  simp

theorem rank_mul_ten_pow (coefficient zeros : Nat) (exponent : Int) :
    rank ⟨coefficient * 10 ^ zeros, exponent⟩ = rank ⟨coefficient, exponent + zeros⟩ := by
  by_cases zero : coefficient = 0
  · simp [rank, zero]
  · have nonzero : coefficient * 10 ^ zeros ≠ 0 :=
      Nat.mul_ne_zero zero (Nat.ne_of_gt (Nat.pow_pos (by decide)))
    rw [rank_eq_nearestRank nonzero, rank_eq_nearestRank zero]
    apply nearestRank_congr (Nat.pow_pos (by decide)) (Nat.pow_pos (by decide))
    simp only [Nat.mul_assoc, ← Nat.pow_add]
    congr 2
    omega

end Decimal

theorem rank_exactDecimal {rank : Nat} (positive : 0 < rank) (finite : rank < infinityRank) :
    (exactDecimal rank).rank = rank := by
  have nonzero : units rank ≠ 0 := by
    have previous := units_lt_succ (rank - 1)
    rw [Nat.sub_add_cancel positive] at previous
    omega
  have power : 0 < 5 ^ unitPower := Nat.pow_pos (by decide)
  have split : 10 ^ unitPower = 2 ^ unitPower * 5 ^ unitPower := by
    rw [← Nat.mul_pow]
  rw [exactDecimal, Nat.pow_eq,
    Decimal.rank_fraction (Nat.mul_ne_zero nonzero (Nat.ne_of_gt power)), split,
    nearestRank_mul_right _ _ power, nearestRank_units finite]

theorem rank_shortest {rank : Nat} (positive : 0 < rank) (finite : rank < infinityRank) :
    (shortest rank).rank = rank := by
  simp only [shortest]
  cases found : (List.range 17).findSome? fun (more : Nat) =>
    (neighbours rank (decimalOrder (units rank) - more)).find? fun decimal =>
      decimal.rank == rank with
  | none => exact rank_exactDecimal positive finite
  | some decimal =>
      obtain ⟨more, _, hit⟩ := List.exists_of_findSome?_eq_some found
      simpa using List.find?_some hit

end TagTemplate.Double
