import TagTemplate.Proofs.Double.Bits
import TagTemplate.Proofs.Double.Rounding

/-!
The exact values of doubles. A finite double is a rational number, made of its sign, its significand
and its exponent. Its magnitude is the value at its rank, and a double is less than zero exactly if
the number is.
-/

namespace TagTemplate.Double

open Float.Model Float.Model.UnpackedFloat

/-- The number that a finite double is. The others count as zero. -/
def exactValue (number : Double) : ℚ :=
  match number.toFloat.toModel.unpack with
  | .finite sign significand exponent _ => (sign.apply (significand : Int) : ℚ) * 2 ^ exponent
  | _ => 0

def HasMagnitude (unpacked : UnpackedFloat) (magnitude : ℚ) : Prop :=
  match unpacked with
  | .zero _ => magnitude = 0
  | .finite _ significand exponent _ => magnitude = significand * 2 ^ exponent
  | .infinity _ | .notANumber => False

theorem valueAt_of_lt {rank : Nat} (low : rank < octave) :
    valueAt rank = rank * 2 ^ (-unitPower : ℤ) := by
  rw [valueAt, units_of_lt low, zpow_neg, zpow_natCast, div_eq_mul_inv]

theorem valueAt_split {shift fraction : Nat} (bound : fraction < octave) :
    valueAt ((shift + 1) * octave + fraction) =
      (octave + fraction : Nat) * 2 ^ ((shift + 1 : Nat) - 1075 : ℤ) := by
  have power : (2 : ℚ) ^ ((shift + 1 : Nat) - 1075 : ℤ) = 2 ^ shift / 2 ^ unitPower := by
    rw [← zpow_natCast, ← zpow_natCast, ← zpow_sub₀ (by norm_num)]
    congr 1
    simp only [unitPower]
    omega
  rw [valueAt, units_split bound, power]
  push_cast
  ring

theorem hasMagnitude_unpack {bits : BitVec Format.binary64.numBits}
    (finite : bits.toNat % signBit < infinityRank) :
    HasMagnitude (UnpackedFloat.unpack Format.binary64 bits) (valueAt (bits.toNat % signBit)) := by
  have exponent := toNat_unpackExponent bits
  have mantissa := toNat_unpackMantissa bits
  simp only [UnpackedFloat.unpack]
  split
  · rename_i full
    rw [full] at exponent
    change 2047 = _ at exponent
    simp only [signBit, infinityRank] at finite
    omega
  · split
    · rename_i zero
      rw [zero] at exponent
      change 0 = _ at exponent
      have low : bits.toNat % signBit = bits.toNat % 2 ^ 52 := by
        simp only [signBit] at exponent ⊢
        omega
      split
      · rename_i empty
        rw [empty] at mantissa
        change 0 = _ at mantissa
        rw [HasMagnitude, low, ← mantissa, valueAt_zero]
      · have exponentValue : ((BitVec.ofNat Format.binary64.exponentBits 0).toNat : ℤ) -
            (Format.binary64.exponentBias + Format.binary64.mantissaBitsWithoutImplicit) + 1 =
            -unitPower := by decide
        have bound : bits.toNat % 2 ^ 52 < octave := Nat.mod_lt _ (by decide)
        rw [HasMagnitude, low, valueAt_of_lt bound, mantissa, zero, exponentValue]
    · rename_i nonzero
      have positive : bits.toNat / 2 ^ 52 % 2 ^ 11 ≠ 0 := by
        rw [← exponent]
        exact fun zero => nonzero (BitVec.eq_of_toNat_eq zero)
      have split : bits.toNat % signBit =
          (bits.toNat / 2 ^ 52 % 2 ^ 11 - 1 + 1) * octave + bits.toNat % 2 ^ 52 := by
        simp only [signBit, octave]
        omega
      have significand : (1#1 ++ @unpackMantissa Format.binary64 bits).toNat =
          octave + bits.toNat % 2 ^ 52 := by
        rw [BitVec.toNat_append, ← Nat.shiftLeft_add_eq_or_of_lt (BitVec.isLt _), mantissa]
        rfl
      have exponentValue : ((@unpackExponent Format.binary64 bits).toNat : ℤ) -
          (Format.binary64.exponentBias + Format.binary64.mantissaBitsWithoutImplicit) =
          (bits.toNat / 2 ^ 52 % 2 ^ 11 - 1 + 1 : Nat) - 1075 := by
        rw [exponent, Nat.sub_add_cancel (Nat.pos_of_ne_zero positive)]
        rfl
      have bound : bits.toNat % 2 ^ 52 < octave := Nat.mod_lt _ (by decide)
      rw [HasMagnitude, split, valueAt_split bound, significand, exponentValue]

variable {number : Double}

theorem isFinite_hasMagnitude (finite : number.isFinite = true) :
    HasMagnitude number.toFloat.toModel.unpack (valueAt (rank number)) := by
  have below := (isFinite_iff number).mp finite
  have unpacked : number.toFloat.toModel.unpack =
      UnpackedFloat.unpack Format.binary64 number.bits.toBitVec :=
    congrArg (fun bits : UInt64 => UnpackedFloat.unpack Format.binary64 bits.toBitVec)
      (toBits_toFloat below.le)
  rw [unpacked]
  exact hasMagnitude_unpack below

theorem abs_exactValue (finite : number.isFinite = true) :
    |exactValue number| = valueAt (rank number) := by
  have magnitude := isFinite_hasMagnitude finite
  rw [exactValue]
  cases unpacked : number.toFloat.toModel.unpack with
  | zero sign =>
      rw [unpacked, HasMagnitude] at magnitude
      rw [magnitude, abs_zero]
  | finite sign significand exponent positive =>
      rw [unpacked, HasMagnitude] at magnitude
      rw [magnitude]
      cases sign <;> simp [Sign.apply, abs_mul]
  | infinity _ => simp [unpacked, HasMagnitude] at magnitude
  | notANumber => simp [unpacked, HasMagnitude] at magnitude

theorem isBelowZero_iff (finite : number.isFinite = true) :
    number.isBelowZero = true ↔ exactValue number < 0 := by
  have magnitude := isFinite_hasMagnitude finite
  have compared : number.isBelowZero = true ↔
      number.toFloat.toModel.unpack.compare (.zero .positive) = some .lt := by
    rw [isBelowZero, decide_eq_true_iff]
    change decide (number.toFloat.toModel < (0.0 : Float).toModel) = true ↔ _
    rw [decide_eq_true_eq]
    change (number.toFloat.toModel.unpack.compare (.zero .positive) == some .lt) = true ↔ _
    exact beq_iff_eq
  rw [compared, exactValue]
  cases unpacked : number.toFloat.toModel.unpack with
  | zero sign => simp [UnpackedFloat.compare]
  | finite sign significand exponent positive =>
      have power : (0 : ℚ) < significand * 2 ^ exponent := by positivity
      cases sign with
      | negative => simpa [UnpackedFloat.compare, Sign.apply] using power
      | positive => simpa [UnpackedFloat.compare, Sign.apply] using power.le
  | infinity _ => simp [unpacked, HasMagnitude] at magnitude
  | notANumber => simp [unpacked, HasMagnitude] at magnitude

end TagTemplate.Double
