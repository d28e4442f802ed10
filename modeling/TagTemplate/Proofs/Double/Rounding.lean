import TagTemplate.Proofs.Double.Decimal

/-!
Rounding to doubles. The rank given to a ratio, to a decimal or to an integer is the nearest one: no
other value of the grid is closer to it, and of two that are equally close the even one is taken.
Rounding is therefore monotone, and leaves values of the grid as they are, among them every integer
up to `2 ^ 53`.
-/

namespace TagTemplate.Double

/-- The number at a rank. That of `infinityRank` takes part in rounding as the first power of two
out of range. -/
def valueAt (rank : Nat) : ℚ :=
  units rank / 2 ^ unitPower

/-- The rank that rounding gives to an amount. -/
structure Nearest (amount : ℚ) (rank : Nat) : Prop where
  within : rank ≤ infinityRank
  closest : ∀ other ≤ infinityRank, |valueAt rank - amount| ≤ |valueAt other - amount|
  even : ∀ other ≤ infinityRank, other ≠ rank →
    |valueAt rank - amount| = |valueAt other - amount| → rank % 2 = 0

theorem units_strictMono : StrictMono units :=
  strictMono_nat_of_lt_succ units_lt_succ

theorem valueAt_strictMono : StrictMono valueAt := by
  intro left right below
  have scale : (0 : ℚ) < 2 ^ unitPower := by positivity
  exact div_lt_div_of_pos_right (Nat.cast_lt.mpr (units_strictMono below)) scale

theorem valueAt_zero : valueAt 0 = 0 := by
  simp [valueAt, units, octave]

section Distance

variable {left right amount : ℚ}

theorem left_closer_iff (below : left < right) :
    |left - amount| ≤ |right - amount| ↔ 2 * amount ≤ left + right := by
  have gap : (right - amount) ^ 2 - (left - amount) ^ 2 =
      (right - left) * (left + right - 2 * amount) := by ring
  rw [← sq_le_sq, ← sub_nonneg, gap, mul_nonneg_iff_of_pos_left (sub_pos.mpr below), sub_nonneg]

theorem right_closer_iff (below : left < right) :
    |right - amount| ≤ |left - amount| ↔ left + right ≤ 2 * amount := by
  have gap : (left - amount) ^ 2 - (right - amount) ^ 2 =
      (right - left) * (2 * amount - (left + right)) := by ring
  rw [← sq_le_sq, ← sub_nonneg, gap, mul_nonneg_iff_of_pos_left (sub_pos.mpr below), sub_nonneg]

end Distance

/-- A rank is nearest if the amount is on its side of the middle to every other rank, or in this
middle if the rank is even. -/
theorem nearest_of_middles {amount : ℚ} {rank : Nat} (within : rank ≤ infinityRank)
    (above : ∀ other < rank, valueAt other + valueAt rank ≤ 2 * amount ∧
      (valueAt other + valueAt rank = 2 * amount → rank % 2 = 0))
    (below : ∀ other ≤ infinityRank, rank < other → 2 * amount ≤ valueAt rank + valueAt other ∧
      (2 * amount = valueAt rank + valueAt other → rank % 2 = 0)) :
    Nearest amount rank := by
  refine ⟨within, fun other bound => ?_, fun other bound different tie => ?_⟩
  · rcases Nat.lt_trichotomy other rank with lower | rfl | higher
    · exact (right_closer_iff (valueAt_strictMono lower)).mpr (above other lower).1
    · exact le_rfl
    · exact (left_closer_iff (valueAt_strictMono higher)).mpr (below other bound higher).1
  · rcases Nat.lt_or_gt_of_ne different with lower | higher
    · have other_closer := (left_closer_iff (valueAt_strictMono lower)).mp tie.ge
      exact (above other lower).2 (le_antisymm (above other lower).1 other_closer)
    · have other_closer := (right_closer_iff (valueAt_strictMono higher)).mp tie.ge
      exact (below other bound higher).2 (le_antisymm (below other bound higher).1 other_closer)

theorem nearest_valueAt {rank : Nat} (within : rank ≤ infinityRank) :
    Nearest (valueAt rank) rank := by
  apply nearest_of_middles within
  · intro other lower
    have less := valueAt_strictMono lower
    exact ⟨by linarith, fun tie => by linarith⟩
  · intro other _ higher
    have more := valueAt_strictMono higher
    exact ⟨by linarith, fun tie => by linarith⟩

theorem Nearest.mono {left right : ℚ} {leftRank rightRank : Nat}
    (nearestLeft : Nearest left leftRank) (nearestRight : Nearest right rightRank)
    (ordered : left ≤ right) : leftRank ≤ rightRank := by
  by_contra crossed
  have lower : rightRank < leftRank := by omega
  have less := valueAt_strictMono lower
  have aboveMiddle := (right_closer_iff less).mp (nearestLeft.closest _ nearestRight.within)
  have belowMiddle := (left_closer_iff less).mp (nearestRight.closest _ nearestLeft.within)
  -- Both amounts are in the middle between the two ranks, which are even and not neighbours.
  have leftEven := nearestLeft.even _ nearestRight.within (by omega)
    (le_antisymm (nearestLeft.closest _ nearestRight.within)
      ((left_closer_iff less).mpr (by linarith)))
  have rightEven := nearestRight.even _ nearestLeft.within (by omega)
    (le_antisymm (nearestRight.closest _ nearestLeft.within)
      ((right_closer_iff less).mpr (by linarith)))
  have between := valueAt_strictMono (show rightRank + 1 < leftRank by omega)
  have further := valueAt_strictMono (Nat.lt_succ_self rightRank)
  have closer := (right_closer_iff between).mp
    (nearestLeft.closest _ (by have := nearestLeft.within; omega))
  linarith

theorem Nearest.unique {amount : ℚ} {rank other : Nat} (nearest : Nearest amount rank)
    (nearestOther : Nearest amount other) : rank = other :=
  Nat.le_antisymm (nearest.mono nearestOther le_rfl) (nearestOther.mono nearest le_rfl)

theorem units_significand {shift significand : Nat} (low : octave ≤ significand)
    (high : significand ≤ 2 * octave) :
    units (shift * octave + significand) = significand * 2 ^ shift := by
  by_cases next : significand = 2 * octave
  · have edge : shift * octave + significand = (shift + 1 + 1) * octave + 0 := by
      rw [next]
      ring
    rw [edge, units_split (by decide), next, Nat.pow_succ]
    ring
  · have inside : shift * octave + significand = (shift + 1) * octave + (significand - octave) := by
      simp only [octave] at low high next ⊢
      omega
    rw [inside, units_split (by omega), Nat.add_sub_cancel' low]

theorem floorRank_brackets (amount : Nat) :
    units (floorRank amount) ≤ amount ∧ amount < units (floorRank amount + 1) := by
  by_cases small : amount < 2 * octave
  · have exact : units amount = amount := by
      by_cases low : amount < octave
      · exact units_of_lt low
      · have significand := @units_significand 0 amount (Nat.le_of_not_lt low) (by omega)
        simpa using significand
    have above := units_lt_succ amount
    rw [floorRank, if_pos small]
    omega
  · have nonzero : amount ≠ 0 := by
      simp only [octave] at small
      omega
    have size : 53 ≤ amount.log2 := (Nat.le_log2 nonzero).mpr (Nat.le_of_not_lt small)
    obtain ⟨shift, whole⟩ : ∃ shift, amount.log2 = 52 + shift := ⟨amount.log2 - 52, by omega⟩
    have positive := Nat.two_pow_pos shift
    have low : octave ≤ amount / 2 ^ shift := by
      rw [Nat.le_div_iff_mul_le positive, show octave = 2 ^ 52 from rfl, ← Nat.pow_add, ← whole]
      exact Nat.log2_self_le nonzero
    have high : amount / 2 ^ shift < 2 * octave := by
      rw [Nat.div_lt_iff_lt_mul positive, show 2 * octave = 2 ^ 53 from rfl, ← Nat.pow_add,
        show 53 + shift = amount.log2 + 1 by omega]
      exact Nat.lt_log2_self
    have floor : floorRank amount = shift * octave + amount / 2 ^ shift := by
      simp only [floorRank, if_neg small, whole, Nat.add_sub_cancel_left,
        Nat.shiftRight_eq_div_pow]
    rw [floor, Nat.add_assoc, units_significand low (by omega), units_significand (by omega) high]
    exact ⟨Nat.div_mul_le_self _ _, (Nat.div_lt_iff_lt_mul positive).mp (Nat.lt_succ_self _)⟩

section Ratio

variable {numerator denominator amount : Nat} (positive : 0 < denominator)
  (scaled : numerator <<< unitPower = amount)

include positive scaled

theorem middle_le_ratio_iff (left right : Nat) :
    valueAt left + valueAt right ≤ 2 * ((numerator : ℚ) / denominator) ↔
      (units left + units right) * denominator ≤ 2 * amount := by
  have scale : (0 : ℚ) < 2 ^ unitPower := by positivity
  have positiveRatio : (0 : ℚ) < denominator := Nat.cast_pos.mpr positive
  rw [valueAt, valueAt, ← add_div, ← mul_div_assoc, div_le_div_iff₀ scale positiveRatio,
    mul_assoc 2, ← scaled, Nat.shiftLeft_eq]
  exact_mod_cast Iff.rfl

theorem ratio_le_middle_iff (left right : Nat) :
    2 * ((numerator : ℚ) / denominator) ≤ valueAt left + valueAt right ↔
      2 * amount ≤ (units left + units right) * denominator := by
  have scale : (0 : ℚ) < 2 ^ unitPower := by positivity
  have positiveRatio : (0 : ℚ) < denominator := Nat.cast_pos.mpr positive
  rw [valueAt, valueAt, ← add_div, ← mul_div_assoc, div_le_div_iff₀ positiveRatio scale,
    mul_assoc 2, ← scaled, Nat.shiftLeft_eq]
  exact_mod_cast Iff.rfl

theorem nearest_ratio_of_middles {rank : Nat} (within : rank ≤ infinityRank)
    (above : ∀ other < rank, (units other + units rank) * denominator ≤ 2 * amount ∧
      ((units other + units rank) * denominator = 2 * amount → rank % 2 = 0))
    (below : ∀ other ≤ infinityRank, rank < other →
      2 * amount ≤ (units rank + units other) * denominator ∧
        (2 * amount = (units rank + units other) * denominator → rank % 2 = 0)) :
    Nearest ((numerator : ℚ) / denominator) rank := by
  have middleLe := middle_le_ratio_iff positive scaled
  have leMiddle := ratio_le_middle_iff positive scaled
  apply nearest_of_middles within
  · intro other lower
    refine ⟨(middleLe _ _).mpr (above other lower).1, fun tie => (above other lower).2 ?_⟩
    exact Nat.le_antisymm ((middleLe _ _).mp tie.le) ((leMiddle _ _).mp tie.ge)
  · intro other bound higher
    refine ⟨(leMiddle _ _).mpr (below other bound higher).1,
      fun tie => (below other bound higher).2 ?_⟩
    exact Nat.le_antisymm ((leMiddle _ _).mp tie.le) ((middleLe _ _).mp tie.ge)

omit positive in
theorem nearestRank_cases {bottom middle : Nat} (floor : floorRank (amount / denominator) = bottom)
    (centre : (units bottom + units (bottom + 1)) * denominator = middle) :
    nearestRank numerator denominator = min bottom infinityRank ∧ 2 * amount ≤ middle ∧
        (2 * amount = middle → bottom % 2 = 0) ∨
      nearestRank numerator denominator = min (bottom + 1) infinityRank ∧ middle ≤ 2 * amount ∧
        (middle = 2 * amount → (bottom + 1) % 2 = 0) := by
  simp only [nearestRank, scaled, floor, centre]
  split
  · rename_i less
    have below := Nat.compare_eq_lt.mp less
    exact Or.inl ⟨rfl, below.le, fun tie => absurd tie below.ne⟩
  · rename_i tie
    have reached := Nat.compare_eq_eq.mp tie
    rcases Nat.mod_two_eq_zero_or_one bottom with even | odd
    · exact Or.inl ⟨by rw [even, Nat.add_zero], reached.le, fun _ => even⟩
    · exact Or.inr ⟨by rw [odd], reached.ge, fun _ => by omega⟩
  · rename_i more
    have above := Nat.compare_eq_gt.mp more
    exact Or.inr ⟨rfl, above.le, fun tie => absurd tie above.ne⟩

theorem nearest_of_side {bottom rank : Nat} (bottomLe : units bottom * denominator ≤ amount)
    (ltTop : amount < units (bottom + 1) * denominator)
    (side :
      rank = bottom ∧ 2 * amount ≤ (units bottom + units (bottom + 1)) * denominator ∧
          (2 * amount = (units bottom + units (bottom + 1)) * denominator → bottom % 2 = 0) ∨
        rank = bottom + 1 ∧ (units bottom + units (bottom + 1)) * denominator ≤ 2 * amount ∧
          ((units bottom + units (bottom + 1)) * denominator = 2 * amount →
            (bottom + 1) % 2 = 0)) :
    Nearest ((numerator : ℚ) / denominator) (min rank infinityRank) := by
  have increases {left right : Nat} (lower : left < right) :
      units left * denominator < units right * denominator :=
    Nat.mul_lt_mul_of_pos_right (units_strictMono lower) positive
  have grows {left right : Nat} (lower : left ≤ right) :
      units left * denominator ≤ units right * denominator :=
    Nat.mul_le_mul_right _ (units_strictMono.monotone lower)
  simp only [Nat.add_mul] at side
  apply nearest_ratio_of_middles positive scaled (Nat.min_le_right _ _)
  · intro other lower
    rw [Nat.add_mul]
    rcases Nat.lt_or_ge infinityRank rank with beyond | finite
    · rw [Nat.min_eq_right beyond.le] at lower ⊢
      have := increases lower
      have := grows (show infinityRank ≤ bottom by omega)
      omega
    · rw [Nat.min_eq_left finite] at lower ⊢
      rcases side with ⟨rfl, -, -⟩ | ⟨rfl, reached, even⟩
      · have := increases lower
        omega
      · have := grows (Nat.le_of_lt_succ lower)
        omega
  · intro other bound higher
    rw [Nat.add_mul]
    have finite : rank ≤ infinityRank := by omega
    rw [Nat.min_eq_left finite] at higher ⊢
    rcases side with ⟨rfl, reached, even⟩ | ⟨rfl, -, -⟩
    · have := grows (show rank + 1 ≤ other from higher)
      omega
    · have := increases higher
      omega

omit scaled in
theorem nearest_nearestRank (numerator : Nat) :
    Nearest ((numerator : ℚ) / denominator) (nearestRank numerator denominator) := by
  obtain ⟨amount, scaled⟩ : ∃ amount, numerator <<< unitPower = amount := ⟨_, rfl⟩
  obtain ⟨lower, upper⟩ := floorRank_brackets (amount / denominator)
  have bottomLe := (Nat.le_div_iff_mul_le positive).mp lower
  have ltTop := (Nat.div_lt_iff_lt_mul positive).mp upper
  rcases nearestRank_cases scaled rfl rfl with ⟨shape, reached⟩ | ⟨shape, reached⟩
  · rw [shape]
    exact nearest_of_side positive scaled bottomLe ltTop (Or.inl ⟨rfl, reached⟩)
  · rw [shape]
    exact nearest_of_side positive scaled bottomLe ltTop (Or.inr ⟨rfl, reached⟩)

end Ratio

namespace Decimal

def amount (decimal : Decimal) : ℚ :=
  decimal.coefficient * 10 ^ decimal.exponent

theorem amount_eq_ratio (decimal : Decimal) :
    decimal.amount = ((decimal.coefficient * 10 ^ decimal.exponent.toNat : Nat) : ℚ) /
      ((10 ^ (-decimal.exponent).toNat : Nat) : ℚ) := by
  have power : (10 : ℚ) ^ decimal.exponent =
      10 ^ decimal.exponent.toNat / 10 ^ (-decimal.exponent).toNat := by
    rw [← zpow_natCast, ← zpow_natCast, ← zpow_sub₀ (by norm_num)]
    congr 1
    omega
  rw [amount, power]
  push_cast
  ring

theorem nearest_rank (decimal : Decimal) : Nearest decimal.amount decimal.rank := by
  by_cases zero : decimal.coefficient = 0
  · have nothing := nearest_valueAt (Nat.zero_le infinityRank)
    simpa [amount, rank, zero, valueAt_zero] using nothing
  · rw [rank_eq_nearestRank zero, amount_eq_ratio]
    exact nearest_nearestRank (Nat.pow_pos (by decide)) _

end Decimal

theorem nearest_natural (number : Nat) : Nearest (number : ℚ) (nearestRank number 1) := by
  simpa using nearest_nearestRank Nat.one_pos number

theorem nearestRank_le_infinityRank (number : Nat) : nearestRank number 1 ≤ infinityRank :=
  (nearest_natural number).within

theorem exists_significand {number : Nat} (positive : 0 < number) (small : number ≤ 2 ^ 53) :
    ∃ missing ≤ 52, octave ≤ number * 2 ^ missing ∧ number * 2 ^ missing ≤ 2 * octave := by
  have nonzero : number ≠ 0 := by omega
  by_cases greatest : number = 2 ^ 53
  · exact ⟨0, by decide, by rw [greatest]; decide, by rw [greatest]; decide⟩
  · have size : number.log2 < 53 := (Nat.log2_lt nonzero).mpr (by omega)
    refine ⟨52 - number.log2, Nat.sub_le _ _, ?_, ?_⟩
    · calc octave = 2 ^ number.log2 * 2 ^ (52 - number.log2) := by
            rw [← Nat.pow_add, Nat.add_sub_cancel' (by omega)]
            rfl
        _ ≤ number * 2 ^ (52 - number.log2) := Nat.mul_le_mul_right _ (Nat.log2_self_le nonzero)
    · calc number * 2 ^ (52 - number.log2) ≤ 2 ^ (number.log2 + 1) * 2 ^ (52 - number.log2) :=
            Nat.mul_le_mul_right _ Nat.lt_log2_self.le
        _ = 2 * octave := by
            rw [← Nat.pow_add, show number.log2 + 1 + (52 - number.log2) = 53 by omega]
            rfl

theorem exists_valueAt_eq {number : Nat} (small : number ≤ 2 ^ 53) :
    ∃ rank ≤ infinityRank, valueAt rank = number := by
  rcases Nat.eq_zero_or_pos number with rfl | positive
  · exact ⟨0, Nat.zero_le _, by rw [valueAt_zero, Nat.cast_zero]⟩
  · obtain ⟨missing, few, low, high⟩ := exists_significand positive small
    refine ⟨(unitPower - missing) * octave + number * 2 ^ missing, ?_, ?_⟩
    · calc (unitPower - missing) * octave + number * 2 ^ missing
          ≤ unitPower * octave + 2 * octave :=
            Nat.add_le_add (Nat.mul_le_mul_right _ (Nat.sub_le _ _)) high
        _ ≤ infinityRank := by decide
    · have power : missing + (unitPower - missing) = unitPower := by
        simp only [unitPower]
        omega
      rw [valueAt, units_significand low high, Nat.mul_assoc, ← Nat.pow_add, power]
      push_cast
      rw [mul_div_assoc, div_self (by positivity), mul_one]

theorem valueAt_nearestRank {number : Nat} (small : number ≤ 2 ^ 53) :
    valueAt (nearestRank number 1) = number := by
  obtain ⟨rank, within, exact⟩ := exists_valueAt_eq small
  have nearest := nearest_natural number
  rw [← exact] at nearest ⊢
  rw [nearest.unique (nearest_valueAt within)]

theorem nearestRank_mono {left right : Nat} (ordered : left ≤ right) :
    nearestRank left 1 ≤ nearestRank right 1 :=
  (nearest_natural left).mono (nearest_natural right) (Nat.cast_le.mpr ordered)

theorem nearestRank_lt {left right : Nat} (below : left < right) (small : right ≤ 2 ^ 53) :
    nearestRank left 1 < nearestRank right 1 := by
  -- Both integers are values of the grid.
  rw [← valueAt_strictMono.lt_iff_lt, valueAt_nearestRank (by omega), valueAt_nearestRank small]
  exact Nat.cast_lt.mpr below

end TagTemplate.Double
