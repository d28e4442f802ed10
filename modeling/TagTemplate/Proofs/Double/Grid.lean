import Mathlib
import TagTemplate.Double.Grid

/-!
The grid of doubles. The values of ranks increase strictly, every value is found back at its rank,
and the rank nearest to a ratio depends on the ratio alone.
-/

namespace TagTemplate.Double

theorem rank_cases (rank : Nat) :
    rank < octave ∨
      ∃ shift fraction, fraction < octave ∧ rank = (shift + 1) * octave + fraction := by
  by_cases low : rank < octave
  · exact Or.inl low
  · refine Or.inr ⟨rank / octave - 1, rank % octave, Nat.mod_lt _ (by decide), ?_⟩
    simp only [octave] at low ⊢
    omega

theorem units_of_lt {rank : Nat} (low : rank < octave) : units rank = rank := by
  simp [units, low]

theorem units_split {shift fraction : Nat} (bound : fraction < octave) :
    units ((shift + 1) * octave + fraction) = (octave + fraction) * 2 ^ shift := by
  have high : ¬(shift + 1) * octave + fraction < octave := by
    simp only [octave] at bound ⊢
    omega
  have quotient : ((shift + 1) * octave + fraction) / octave = shift + 1 := by
    simp only [octave] at bound ⊢
    omega
  have remainder : ((shift + 1) * octave + fraction) % octave = fraction := by
    simp only [octave] at bound ⊢
    omega
  rw [units, if_neg high, quotient, remainder, Nat.shiftLeft_eq, Nat.add_sub_cancel]

theorem units_lt_succ (rank : Nat) : units rank < units (rank + 1) := by
  rcases rank_cases rank with low | ⟨shift, fraction, bound, rfl⟩
  · rw [units_of_lt low]
    by_cases next : rank + 1 < octave
    · rw [units_of_lt next]
      omega
    · have edge : rank + 1 = (0 + 1) * octave + 0 := by omega
      rw [edge, units_split (by decide)]
      omega
  · rw [units_split bound]
    by_cases next : fraction + 1 < octave
    · rw [Nat.add_assoc, units_split next]
      exact Nat.mul_lt_mul_of_pos_right (by omega) (Nat.two_pow_pos shift)
    · have edge : (shift + 1) * octave + fraction + 1 = (shift + 1 + 1) * octave + 0 := by
        simp only [octave] at bound next ⊢
        omega
      rw [edge, units_split (by decide), Nat.pow_succ', ← Nat.mul_assoc]
      exact Nat.mul_lt_mul_of_pos_right (by omega) (Nat.two_pow_pos shift)

theorem log2_mul_two_pow (significand shift : Nat) (low : octave ≤ significand)
    (high : significand < 2 * octave) : (significand * 2 ^ shift).log2 = 52 + shift := by
  have positive := Nat.two_pow_pos shift
  have nonzero : significand * 2 ^ shift ≠ 0 := by
    have := Nat.mul_le_mul_right (2 ^ shift) low
    simp only [octave] at this
    omega
  rw [Nat.log2_eq_iff nonzero, Nat.add_right_comm, Nat.pow_add, Nat.pow_add]
  exact ⟨Nat.mul_le_mul_right _ low, Nat.mul_lt_mul_of_pos_right high positive⟩

theorem floorRank_units (rank : Nat) : floorRank (units rank) = rank := by
  rcases rank_cases rank with low | ⟨shift, fraction, bound, rfl⟩
  · rw [units_of_lt low, floorRank, if_pos (by omega)]
  · rw [units_split bound]
    cases shift with
    | zero =>
        rw [Nat.pow_zero, Nat.mul_one, floorRank, if_pos (by omega)]
        omega
    | succ shift =>
        have high : ¬(octave + fraction) * 2 ^ (shift + 1) < 2 * octave := by
          have := Nat.mul_le_mul_left (octave + fraction) (Nat.two_pow_pos shift)
          rw [Nat.pow_succ, ← Nat.mul_assoc]
          omega
        have size := log2_mul_two_pow (octave + fraction) (shift + 1) (by omega)
          (by omega)
        rw [floorRank, if_neg high]
        simp only [size, Nat.shiftRight_eq_div_pow, Nat.add_sub_cancel_left]
        rw [Nat.mul_div_cancel _ (Nat.two_pow_pos _), Nat.add_mul (shift + 1)]
        omega

theorem infinityRank_le_floorRank {amount power : Nat} (beyond : 1024 + unitPower ≤ power)
    (large : 2 ^ power ≤ amount) : infinityRank ≤ floorRank amount := by
  simp only [unitPower] at beyond
  have positive := Nat.two_pow_pos power
  have nonzero : amount ≠ 0 := by omega
  have size : power ≤ amount.log2 := (Nat.le_log2 nonzero).mpr large
  have high : ¬amount < 2 * octave := by
    have := Nat.pow_le_pow_right (n := 2) (by decide) (show 53 ≤ power by omega)
    simp only [octave]
    omega
  have significand : octave ≤ amount >>> (amount.log2 - 52) := by
    rw [Nat.shiftRight_eq_div_pow, Nat.le_div_iff_mul_le (Nat.two_pow_pos _),
      show octave = 2 ^ 52 from rfl, ← Nat.pow_add, Nat.add_sub_cancel' (by omega)]
    exact Nat.log2_self_le nonzero
  simp only [floorRank, high, if_false]
  simp only [infinityRank, octave] at significand ⊢
  omega

section Nearest

theorem compare_mul_right {factor : Nat} (positive : 0 < factor) (left right : Nat) :
    compare (left * factor) (right * factor) = compare left right := by
  simp only [Nat.compare_eq_ite_lt, Nat.mul_lt_mul_right positive]

theorem nearestRank_mul_right (numerator denominator : Nat) {factor : Nat}
    (positive : 0 < factor) :
    nearestRank (numerator * factor) (denominator * factor) =
      nearestRank numerator denominator := by
  have scaled : (numerator * factor) <<< unitPower = (numerator <<< unitPower) * factor := by
    rw [Nat.shiftLeft_eq, Nat.shiftLeft_eq, Nat.mul_right_comm]
  simp only [nearestRank, scaled, Nat.mul_div_mul_right _ _ positive, ← Nat.mul_assoc,
    compare_mul_right positive]

theorem nearestRank_congr {numerator denominator numerator' denominator' : Nat}
    (positive : 0 < denominator) (positive' : 0 < denominator')
    (equal : numerator * denominator' = numerator' * denominator) :
    nearestRank numerator denominator = nearestRank numerator' denominator' := by
  rw [← nearestRank_mul_right numerator denominator positive', equal,
    Nat.mul_comm denominator, nearestRank_mul_right numerator' denominator' positive]

theorem nearestRank_units {rank : Nat} (finite : rank < infinityRank) :
    nearestRank (units rank) (2 ^ unitPower) = rank := by
  have positive := Nat.two_pow_pos unitPower
  have whole : units rank <<< unitPower / 2 ^ unitPower = units rank := by
    rw [Nat.shiftLeft_eq, Nat.mul_div_cancel _ positive]
  have below : compare (2 * units rank <<< unitPower)
      ((units rank + units (rank + 1)) * 2 ^ unitPower) = .lt := by
    rw [Nat.shiftLeft_eq, ← Nat.mul_assoc, compare_mul_right positive, Nat.compare_eq_lt]
    have := units_lt_succ rank
    omega
  simp only [nearestRank, whole, floorRank_units, below]
  exact Nat.min_eq_left (Nat.le_of_lt finite)

theorem nearestRank_large {numerator power : Nat} (beyond : 1024 ≤ power)
    (large : 2 ^ power ≤ numerator) : nearestRank numerator 1 = infinityRank := by
  have amount : 2 ^ (power + unitPower) ≤ numerator <<< unitPower := by
    rw [Nat.shiftLeft_eq, Nat.pow_add]
    exact Nat.mul_le_mul_right _ large
  have below := infinityRank_le_floorRank (by omega) amount
  simp only [nearestRank, Nat.div_one]
  apply Nat.min_eq_right
  split
  · exact below
  · exact Nat.le_trans below (Nat.le_add_right _ _)
  · exact Nat.le_trans below (Nat.le_add_right _ _)

theorem nearestRank_small {numerator denominator : Nat}
    (small : 2 * (numerator * 2 ^ unitPower) < denominator) :
    nearestRank numerator denominator = 0 := by
  have half : 2 * numerator <<< unitPower < denominator := by
    rwa [Nat.shiftLeft_eq]
  have nothing : numerator <<< unitPower / denominator = 0 := by
    apply Nat.div_eq_of_lt
    omega
  have below : compare (2 * numerator <<< unitPower) ((units 0 + units (0 + 1)) * denominator) =
      .lt := by
    rw [Nat.compare_eq_lt]
    simpa [units, octave] using half
  simp only [nearestRank, nothing, show floorRank 0 = 0 from rfl, below]
  exact Nat.min_eq_left (Nat.zero_le _)

end Nearest

end TagTemplate.Double
