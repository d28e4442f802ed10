import Mathlib
import TagTemplate.Double.Arithmetic

/-!
Bit patterns of doubles. A double is made of its sign and its rank, and it is finite if its rank
is below that of infinity.
-/

namespace TagTemplate.Double

open Float.Model Float.Model.UnpackedFloat

section Fields

variable (bits : BitVec Format.binary64.numBits)

theorem toNat_unpackExponent :
    (@unpackExponent Format.binary64 bits).toNat = bits.toNat / 2 ^ 52 % 2 ^ 11 := by
  simp [unpackExponent, Nat.shiftRight_eq_div_pow]

theorem toNat_unpackMantissa :
    (@unpackMantissa Format.binary64 bits).toNat = bits.toNat % 2 ^ 52 := by
  simp [unpackMantissa]

theorem toNat_unpackSign :
    (@unpackSign Format.binary64 bits).toNat = bits.toNat / 2 ^ 63 := by
  have bound : bits.toNat < 2 ^ 64 := bits.isLt
  simp [unpackSign, Nat.shiftRight_eq_div_pow]
  omega

theorem toBitVec_ofBitVec (bit : BitVec 1) : (Sign.ofBitVec bit).toBitVec = bit := by
  revert bit
  decide

theorem pack_fields :
    packComponents Format.binary64 (Sign.ofBitVec (unpackSign bits)) (unpackExponent bits)
      (unpackMantissa bits) = bits := by
  have bound : bits.toNat < 2 ^ 64 := bits.isLt
  have exponent := toNat_unpackExponent bits
  have mantissa := toNat_unpackMantissa bits
  apply BitVec.eq_of_toNat_eq
  rw [packComponents, toBitVec_ofBitVec, BitVec.toNat_append, BitVec.toNat_append,
    ← Nat.shiftLeft_add_eq_or_of_lt (BitVec.isLt _),
    ← Nat.shiftLeft_add_eq_or_of_lt (BitVec.isLt _), exponent, mantissa, toNat_unpackSign]
  simp only [Nat.shiftLeft_eq]
  omega

theorem pack_subnormal {sign : Sign} {exponent : Int} {mantissa : BitVec 52}
    (least : exponent = -1074) (positive : 0 < mantissa.toNat) :
    UnpackedFloat.pack Format.binary64 (.finite sign mantissa.toNat exponent positive) =
      packComponents Format.binary64 sign 0 mantissa := by
  have short : mantissa.toNat.log2 < 52 := (Nat.log2_lt (Nat.ne_of_gt positive)).mpr mantissa.isLt
  have narrow : ¬mantissa.toNat.log2 + 1 = Format.binary64.mantissaBits := by
    change ¬mantissa.toNat.log2 + 1 = 53
    omega
  simp only [UnpackedFloat.pack, narrow, if_false]
  simp [Format.exponentBias, least]

theorem pack_normal {sign : Sign} {exponent : BitVec 11} {mantissa : BitVec 52}
    (notFull : exponent ≠ -1#11) (positive : 0 < (1#1 ++ mantissa).toNat) :
    UnpackedFloat.pack Format.binary64
        (.finite sign (1#1 ++ mantissa).toNat (exponent.toNat - 1075) positive) =
      packComponents Format.binary64 sign exponent mantissa := by
  have below : exponent.toNat + 1 < 2 ^ 11 := by
    have bound := exponent.isLt
    have notLast : exponent.toNat ≠ 2 ^ 11 - 1 := fun last =>
      notFull (BitVec.eq_of_toNat_eq (by simp [last]))
    omega
  have value : (1#1 ++ mantissa).toNat = 2 ^ 52 + mantissa.toNat := by
    rw [BitVec.toNat_append, ← Nat.shiftLeft_add_eq_or_of_lt mantissa.isLt]
    simp [Nat.shiftLeft_eq]
  have size : (1#1 ++ mantissa).toNat.log2 = 52 := by
    rw [value, Nat.log2_eq_iff (by omega)]
    have bound := mantissa.isLt
    omega
  have biased : ((exponent.toNat : Int) - 1075 + Format.binary64.exponentBias +
      Format.binary64.mantissaBitsWithoutImplicit).toNat = exponent.toNat := by
    simp [Format.exponentBias]
    omega
  simp only [UnpackedFloat.pack, size, biased]
  rw [if_neg (by omega), if_pos (show 52 + 1 = Format.binary64.mantissaBits from rfl), value]
  congr 1
  · simp
  · apply BitVec.eq_of_toNat_eq
    simpa using mantissa.isLt

theorem pack_unpack (valid : Format.binary64.Valid bits) :
    UnpackedFloat.pack Format.binary64 (UnpackedFloat.unpack Format.binary64 bits) = bits := by
  have whole := pack_fields bits
  simp only [UnpackedFloat.unpack]
  split
  · rename_i full
    split
    · rename_i empty
      rw [full, empty] at whole
      exact whole
    · rename_i payload
      exact (valid.eq_packedNaN full payload).symm
  · rename_i notFull
    split
    · rename_i zero
      split
      · rename_i empty
        rw [zero, empty] at whole
        exact whole
      · rename_i payload
        rw [zero] at whole
        refine (pack_subnormal ?_ _).trans whole
        simp [zero, Format.exponentBias]
    · exact (pack_normal notFull _).trans whole

end Fields

variable {number : Double}

theorem valid_of_rank_le {bits : BitVec Format.binary64.numBits}
    (within : bits.toNat % signBit ≤ infinityRank) : Format.binary64.Valid bits := by
  constructor
  intro full payload
  have exponent := congrArg BitVec.toNat full
  rw [toNat_unpackExponent] at exponent
  change _ = 2047 at exponent
  have mantissa : bits.toNat % 2 ^ 52 ≠ 0 := by
    rw [← toNat_unpackMantissa]
    exact fun empty => payload (BitVec.eq_of_toNat_eq empty)
  simp only [signBit, infinityRank] at within
  omega

theorem isFinite_iff (number : Double) : number.isFinite = true ↔ rank number < infinityRank :=
  decide_eq_true_iff

theorem isNan_iff (number : Double) : number.isNan = true ↔ infinityRank < rank number :=
  decide_eq_true_iff

theorem toBits_toFloat (within : rank number ≤ infinityRank) :
    number.toFloat.toBits = number.bits :=
  UInt64.toBitVec_inj.mp (pack_unpack _ (valid_of_rank_le within))

theorem isFinite_toFloat (finite : number.isFinite = true) : number.toFloat.isFinite = true := by
  have below := (isFinite_iff number).mp finite
  have bits := congrArg UInt64.toBitVec (toBits_toFloat below.le)
  have exponent : @unpackExponent Format.binary64 number.toFloat.toBits.toBitVec ≠ -1#11 := by
    intro full
    rw [bits] at full
    have exponent := congrArg BitVec.toNat full
    rw [toNat_unpackExponent] at exponent
    change number.bits.toNat / 2 ^ 52 % 2 ^ 11 = 2047 at exponent
    simp only [rank, signBit, infinityRank] at below
    omega
  simp only [Float.isFinite, Float.Model.isFinite, Float.Model.unpack, UnpackedFloat.unpack]
  split
  · rename_i full
    exact absurd full exponent
  · split
    · split <;> rfl
    · rfl

theorem ofRank_rank (number : Double) : ofRank (isNegative number) (rank number) = number := by
  have bound := number.bits.toNat_lt
  have bits : (if isNegative number then signBit + rank number else rank number) =
      number.bits.toNat := by
    by_cases negative : signBit ≤ number.bits.toNat
    · simp only [isNegative, rank, negative, decide_true, if_true]
      simp only [signBit] at negative ⊢
      omega
    · simp only [isNegative, rank, negative, decide_false, Bool.false_eq_true, if_false]
      simp only [signBit] at negative ⊢
      omega
  rw [ofRank, bits, UInt64.ofNat_toNat]

theorem toNat_bits_ofRank {negative : Bool} {rank : Nat} (within : rank ≤ infinityRank) :
    (ofRank negative rank).bits.toNat = if negative then signBit + rank else rank := by
  refine Nat.mod_eq_of_lt ?_
  simp only [signBit, infinityRank] at within ⊢
  split <;> omega

theorem rank_ofRank {negative : Bool} {rank : Nat} (within : rank ≤ infinityRank) :
    Double.rank (ofRank negative rank) = rank := by
  rw [Double.rank, toNat_bits_ofRank within]
  simp only [signBit, infinityRank] at within ⊢
  split <;> omega

theorem isNegative_ofRank {negative : Bool} {rank : Nat} (within : rank ≤ infinityRank) :
    isNegative (ofRank negative rank) = negative := by
  rw [isNegative, toNat_bits_ofRank within]
  cases negative <;> simp [signBit, infinityRank] at within ⊢
  omega

theorem beq_self_of_isFinite (finite : number.isFinite = true) : (number == number) = true := by
  have finite := isFinite_toFloat finite
  change number.toFloat.toModel.unpack.compare number.toFloat.toModel.unpack == some .eq
  simp only [Float.isFinite, Float.Model.isFinite] at finite
  cases kind : number.toFloat.toModel.unpack with
  | zero _ => rfl
  | finite sign _ _ _ => cases sign <;> simp [UnpackedFloat.compare]
  | infinity _ => simp [kind, UnpackedFloat.isFinite] at finite
  | notANumber => simp [kind, UnpackedFloat.isFinite] at finite

end TagTemplate.Double
