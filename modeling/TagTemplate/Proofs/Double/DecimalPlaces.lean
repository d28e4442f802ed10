import TagTemplate.Double.Rounded
import TagTemplate.Proofs.Double.Rounding
import TagTemplate.Proofs.Numeral

/-!
Doubles rounded to decimal places. The digits are those of the whole number that is nearest to the
exact value in units of the last place, and of two that are equally near those of the even one.
-/

namespace TagTemplate.Double

/-- A whole number nearest to an amount, and even if another one is as near. -/
structure RoundsToEven (amount : ℚ) (number : Nat) : Prop where
  nearest : |(number : ℚ) - amount| ≤ 1 / 2
  even : |(number : ℚ) - amount| = 1 / 2 → number % 2 = 0

section Fraction

variable {below : Nat} {fraction : ℚ}

theorem distance_below (nonnegative : 0 ≤ fraction) :
    |(below : ℚ) - (below + fraction)| = fraction := by
  rw [sub_add_cancel_left, abs_neg, abs_of_nonneg nonnegative]

theorem distance_above (atMostOne : fraction ≤ 1) :
    |((below + 1 : Nat) : ℚ) - (below + fraction)| = 1 - fraction := by
  rw [Nat.cast_add_one, add_sub_add_left_eq_sub, abs_of_nonneg (sub_nonneg.mpr atMostOne)]

theorem roundsToEven_of_le_half (nonnegative : 0 ≤ fraction) (atMostHalf : fraction ≤ 1 / 2)
    (even : fraction = 1 / 2 → below % 2 = 0) : RoundsToEven (below + fraction) below := by
  constructor
  · rw [distance_below nonnegative]
    exact atMostHalf
  · rw [distance_below nonnegative]
    exact even

theorem roundsToEven_of_half_le (atLeastHalf : 1 / 2 ≤ fraction) (atMostOne : fraction ≤ 1)
    (even : fraction = 1 / 2 → (below + 1) % 2 = 0) :
    RoundsToEven (below + fraction) (below + 1) := by
  constructor
  · rw [distance_above atMostOne]
    linarith
  · rw [distance_above atMostOne]
    exact fun tie => even (by linarith)

end Fraction

theorem roundsToEven_roundRatio {denominator : Nat} (positive : 0 < denominator)
    (numerator : Nat) :
    RoundsToEven ((numerator : ℚ) / denominator) (roundRatio numerator denominator) := by
  have divisor : (0 : ℚ) < denominator := Nat.cast_pos.mpr positive
  obtain ⟨below, quotient⟩ : ∃ below, numerator / denominator = below := ⟨_, rfl⟩
  obtain ⟨rest, remainder⟩ : ∃ rest, numerator % denominator = rest := ⟨_, rfl⟩
  have restLt : rest < denominator := remainder ▸ Nat.mod_lt _ positive
  have amount : (numerator : ℚ) / denominator = below + rest / denominator := by
    have whole := Nat.div_add_mod numerator denominator
    rw [quotient, remainder] at whole
    rw [← whole]
    push_cast
    field_simp
  have nonnegative : (0 : ℚ) ≤ rest / denominator := by positivity
  have atMostOne : (rest : ℚ) / denominator ≤ 1 := by
    rw [div_le_one divisor]
    exact_mod_cast restLt.le
  rw [amount]
  simp only [roundRatio, quotient, remainder]
  split
  · rename_i less
    have half : (rest : ℚ) / denominator < 1 / 2 := by
      rw [div_lt_div_iff₀ divisor two_pos, mul_comm, one_mul]
      exact_mod_cast Nat.compare_eq_lt.mp less
    exact roundsToEven_of_le_half nonnegative half.le fun tie => absurd tie half.ne
  · rename_i tie
    have half : (rest : ℚ) / denominator = 1 / 2 := by
      rw [div_eq_div_iff divisor.ne' two_ne_zero, mul_comm, one_mul]
      exact_mod_cast Nat.compare_eq_eq.mp tie
    rcases Nat.mod_two_eq_zero_or_one below with even | odd
    · rw [even]
      exact roundsToEven_of_le_half nonnegative half.le fun _ => even
    · rw [odd]
      exact roundsToEven_of_half_le half.ge atMostOne fun _ => by omega
  · rename_i more
    have half : 1 / 2 < (rest : ℚ) / denominator := by
      rw [div_lt_div_iff₀ two_pos divisor, mul_comm (rest : ℚ), one_mul]
      exact_mod_cast Nat.compare_eq_gt.mp more
    exact roundsToEven_of_half_le half.le atMostOne fun tie => absurd tie half.ne'

theorem value_padLeft (length : Nat) (digits : List Char) :
    Digits.value (padLeft length digits) = Digits.value digits :=
  Digits.value_zeros_append _ digits

theorem length_padLeft (length : Nat) (digits : List Char) :
    (padLeft length digits).length = max length digits.length := by
  rw [padLeft, List.length_append, List.length_replicate]
  omega

theorem isDigit_of_mem_padLeft {length : Nat} {digits : List Char}
    (allDigits : ∀ digit ∈ digits, digit.isDigit = true) :
    ∀ digit ∈ padLeft length digits, digit.isDigit = true := by
  intro digit member
  rcases List.mem_append.mp member with zero | member
  · rw [List.eq_of_mem_replicate zero]
    rfl
  · exact allDigits digit member

theorem exists_rounded (rank places : Nat) :
    ∃ whole fraction number, rounded rank places = (whole, fraction) ∧
      fraction.length = places ∧ (∀ digit ∈ whole ++ fraction, digit.isDigit = true) ∧
      Digits.value (whole ++ fraction) = number ∧
      RoundsToEven (valueAt rank * 10 ^ places) number := by
  have amount : valueAt rank * 10 ^ places =
      ((units rank * Nat.pow 10 places : Nat) : ℚ) / ((1 <<< unitPower : Nat) : ℚ) := by
    rw [valueAt, Nat.one_shiftLeft, Nat.pow_eq]
    push_cast
    ring
  have positive : 0 < 1 <<< unitPower := by
    rw [Nat.one_shiftLeft]
    exact Nat.two_pow_pos _
  have nearest := roundsToEven_roundRatio positive (units rank * Nat.pow 10 places)
  rw [← amount] at nearest
  refine ⟨_, _, _, by rw [rounded, List.splitAt_eq], ?_, ?_, ?_, nearest⟩
  · rw [List.length_drop, length_padLeft]
    omega
  · rw [List.take_append_drop]
    exact isDigit_of_mem_padLeft fun _ => Digits.isDigit_of_mem_text
  · rw [List.take_append_drop, value_padLeft, Digits.value_text]

end TagTemplate.Double
