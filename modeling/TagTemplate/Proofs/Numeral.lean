import TagTemplate.Number
import TagTemplate.Double.Text
import TagTemplate.Proofs.Double.Bits
import TagTemplate.Proofs.Double.Decimal

/-!
Numbers as literals. The text of an integer or of a finite double is a literal that reads back as
the same number.
-/

namespace TagTemplate

theorem toNat_of_isDigit {character : Char} (digit : character.isDigit = true) :
    '0'.toNat ≤ character.toNat ∧ character.toNat ≤ '9'.toNat := by
  simp only [Char.isDigit, Bool.and_eq_true, decide_eq_true_eq] at digit
  exact digit

namespace Digits

theorem value_append_zeros (digits : List Char) (zeros : Nat) :
    value (digits ++ List.replicate zeros '0') = value digits * 10 ^ zeros := by
  rw [value, Nat.ofDigitChars_append, Nat.ofDigitChars_replicate_zero, Nat.mul_comm]
  rfl

theorem value_zeros_append (zeros : Nat) (digits : List Char) :
    value (List.replicate zeros '0' ++ digits) = value digits := by
  rw [value, Nat.ofDigitChars_append, Nat.ofDigitChars_replicate_zero]
  rfl

theorem read?_eq_none {characters : List Char} {character : Char} (member : character ∈ characters)
    (noDigit : character.isDigit = false) : read? characters = none := by
  have mixed : characters.all Char.isDigit = false :=
    List.all_eq_false.mpr ⟨character, member, by simp [noDigit]⟩
  simp [read?, mixed]

theorem text_eq_cons (number : Nat) :
    ∃ first others, text number = first :: others ∧ first.isDigit = true := by
  obtain ⟨first, others, shape⟩ := List.exists_cons_of_ne_nil (text_ne_nil number)
  have member : first ∈ text number := by simp [shape]
  exact ⟨first, others, shape, isDigit_of_mem_text member⟩

end Digits

theorem Integer.toList_toString (number : Int) :
    (toString number).toList =
      if number < 0 then '-' :: Digits.text number.natAbs else Digits.text number.natAbs := by
  rw [Int.toString_eq_repr, Int.repr_eq_if]
  by_cases negative : number < 0
  · rw [if_neg (by omega), if_pos negative, String.toList_append, Nat.toList_repr,
      show (-number).toNat = number.natAbs by omega]
    rfl
  · rw [if_pos (by omega), if_neg negative, Nat.toList_repr,
      show number.toNat = number.natAbs by omega]
    rfl

theorem Integer.read?_of_digit {first : Char} {others : List Char} (digit : first.isDigit = true) :
    read? (first :: others) =
      (Digits.read? (first :: others)).bind fun number => ofInt? number := by
  unfold read?
  split
  · rename_i shape
    cases shape
    simp at digit
  · rename_i shape
    cases shape
    simp at digit
  · rfl

theorem Integer.read?_eq_none {characters : List Char} (point : '.' ∈ characters) :
    read? characters = none := by
  unfold read?
  split
  · simp [Digits.read?_eq_none (List.mem_of_ne_of_mem (by decide) point) rfl]
  · simp [Digits.read?_eq_none (List.mem_of_ne_of_mem (by decide) point) rfl]
  · simp [Digits.read?_eq_none point rfl]

theorem Integer.ofInt?_toInt (number : Int64) : ofInt? number.toInt = some number := by
  rw [ofInt?, if_pos ⟨number.minValue_le_toInt, number.toInt_le⟩, Int64.ofInt_toInt]

theorem Integer.read?_text (number : Int64) : read? (text number).toList = some number := by
  rw [text, toList_toString]
  split
  · rename_i negative
    simp only [read?, Digits.read?_text, Option.bind_some]
    rw [show -(number.toInt.natAbs : Int) = number.toInt by omega, ofInt?_toInt]
  · rename_i nonnegative
    obtain ⟨first, others, shape, digit⟩ := Digits.text_eq_cons number.toInt.natAbs
    rw [shape, read?_of_digit digit, ← shape, Digits.read?_text, Option.bind_some,
      show (number.toInt.natAbs : Int) = number.toInt by omega, ofInt?_toInt]

namespace Double

theorem dropTrailingZeros_append (digits : List Char) :
    ∃ zeros, digits = dropTrailingZeros digits ++ List.replicate zeros '0' := by
  have zeros : ∀ character ∈ digits.reverse.takeWhile (· == '0'), character = '0' := by
    simpa using List.all_eq_true.mp (List.all_takeWhile (p := (· == '0')) (l := digits.reverse))
  have dropped : (digits.reverse.takeWhile (· == '0')).reverse =
      List.replicate (digits.reverse.takeWhile (· == '0')).length '0' :=
    List.eq_replicate_iff.mpr ⟨List.length_reverse, by simpa using zeros⟩
  have whole := congrArg List.reverse
    (List.takeWhile_append_dropWhile (p := (· == '0')) (l := digits.reverse))
  rw [List.reverse_append, List.reverse_reverse, dropped] at whole
  exact ⟨_, whole.symm⟩

theorem positional_split {digits : List Char} (allDigits : ∀ digit ∈ digits, digit.isDigit = true)
    (point : Int) :
    ∃ first whole fraction, ∃ zeros : Nat,
      positional digits point = first :: whole ++ '.' :: fraction ∧
      (∀ digit ∈ first :: whole ++ fraction, digit.isDigit = true) ∧
      Digits.value (first :: whole ++ fraction) = Digits.value digits * 10 ^ zeros ∧
      (zeros : Int) - fraction.length = point - digits.length := by
  unfold positional
  split
  · rename_i small
    refine ⟨'0', [], List.replicate (-point).toNat '0' ++ digits, 0, by simp, ?_, ?_, ?_⟩
    · intro digit member
      simp only [List.cons_append, List.nil_append, List.mem_cons, List.mem_append,
        List.mem_replicate] at member
      rcases member with rfl | ⟨_, rfl⟩ | member
      · rfl
      · rfl
      · exact allDigits digit member
    · have padded := Digits.value_zeros_append ((-point).toNat + 1) digits
      simpa [List.replicate_succ] using padded
    · simp
      omega
  · rename_i large
    split
    · rename_i short
      obtain ⟨first, whole, shape⟩ : ∃ first whole,
          digits ++ List.replicate (point.toNat - digits.length) '0' = first :: whole := by
        apply List.exists_cons_of_length_pos
        rw [List.length_append, List.length_replicate]
        omega
      have padded := Digits.value_append_zeros digits (point.toNat - digits.length + 1)
      refine ⟨first, whole, ['0'], point.toNat - digits.length + 1, ?_, ?_, ?_, ?_⟩
      · rw [← shape]
      · rw [← shape]
        intro digit member
        simp only [List.mem_append, List.mem_replicate, List.mem_singleton] at member
        rcases member with (member | ⟨_, rfl⟩) | rfl
        · exact allDigits digit member
        · rfl
        · rfl
      · rw [← shape, List.append_assoc, ← List.replicate_succ', padded]
      · simp
        omega
    · rename_i long
      obtain ⟨first, whole, shape⟩ : ∃ first whole, digits.take point.toNat = first :: whole := by
        apply List.exists_cons_of_length_pos
        rw [List.length_take]
        omega
      refine ⟨first, whole, digits.drop point.toNat, 0, ?_, ?_, ?_, ?_⟩
      · rw [← shape]
      · rw [← shape, List.take_append_drop]
        exact allDigits
      · rw [← shape, List.take_append_drop]
        simp
      · simp
        omega

namespace Decimal

theorem readExponent?_toString (exponent : Int) :
    readExponent? ('E' :: (toString exponent).toList) = some exponent := by
  rw [Integer.toList_toString]
  split
  · rename_i negative
    have magnitude : -Int.ofNat exponent.natAbs = exponent := by
      rw [Int.ofNat_eq_natCast]
      omega
    rw [readExponent?, if_pos (Or.inr rfl)]
    simp only [Digits.read?_text, Option.map_some, magnitude]
  · rename_i nonnegative
    obtain ⟨first, others, shape, digit⟩ := Digits.text_eq_cons exponent.natAbs
    have read := Digits.read?_text exponent.natAbs
    rw [shape] at read ⊢
    have unsigned : first ≠ '+' ∧ first ≠ '-' := by
      constructor <;> rintro rfl <;> simp at digit
    simp [readExponent?, unsigned, read]
    omega

theorem read?_numeral {first : Char} {whole fraction : List Char} (tail : List Char)
    {exponent : Int} (digits : ∀ digit ∈ first :: whole ++ fraction, digit.isDigit = true)
    (ended : ∀ character ∈ tail.head?, character.isDigit = false)
    (scaled : readExponent? tail = some exponent) :
    read? (first :: whole ++ '.' :: (fraction ++ tail)) =
      some ⟨Digits.value (first :: whole ++ fraction), exponent - fraction.length⟩ := by
  obtain ⟨wholeDigits, fractionDigits⟩ := List.forall_mem_append.mp digits
  have noDigits : tail.takeWhile Char.isDigit = [] ∧ tail.dropWhile Char.isDigit = tail := by
    cases tail with
    | nil => simp
    | cons character others =>
        have stop := ended character rfl
        simp [stop]
  have before : (first :: whole ++ '.' :: (fraction ++ tail)).takeWhile Char.isDigit =
      first :: whole := by
    rw [List.takeWhile_append_of_pos wholeDigits]
    simp
  have behind : (first :: whole ++ '.' :: (fraction ++ tail)).dropWhile Char.isDigit =
      '.' :: (fraction ++ tail) := by
    rw [List.dropWhile_append_of_pos wholeDigits]
    simp
  have split : splitFraction ('.' :: (fraction ++ tail)) = (fraction, tail) := by
    simp only [splitFraction]
    rw [List.takeWhile_append_of_pos fractionDigits, List.dropWhile_append_of_pos fractionDigits,
      noDigits.1, noDigits.2, List.append_nil]
  simp only [read?, before, behind, split, scaled]
  simp

end Decimal

theorem rank_dropTrailingZeros (decimal : Decimal) :
    Decimal.rank ⟨Digits.value (dropTrailingZeros (Digits.text decimal.coefficient)),
      (Digits.text decimal.coefficient).length + decimal.exponent -
        (dropTrailingZeros (Digits.text decimal.coefficient)).length⟩ = decimal.rank := by
  obtain ⟨coefficient, exponent⟩ := decimal
  obtain ⟨zeros, whole⟩ := dropTrailingZeros_append (Digits.text coefficient)
  have value := congrArg Digits.value whole
  have length := congrArg List.length whole
  rw [Digits.value_text, Digits.value_append_zeros] at value
  simp only [List.length_append, List.length_replicate] at length
  have moved : (Digits.text coefficient).length + exponent -
      (dropTrailingZeros (Digits.text coefficient)).length = exponent + zeros := by omega
  rw [moved, ← Decimal.rank_mul_ten_pow, ← value]

theorem isDigit_of_mem_dropTrailingZeros {number : Nat} {character : Char}
    (member : character ∈ dropTrailingZeros (Digits.text number)) : character.isDigit = true := by
  obtain ⟨zeros, whole⟩ := dropTrailingZeros_append (Digits.text number)
  exact Digits.isDigit_of_mem_text (by rw [whole]; exact List.mem_append_left _ member)

/-- The text of a magnitude is a numeral that denotes its rank. -/
theorem read?_magnitudeText {rank : Nat} (positive : 0 < rank) (finite : rank < infinityRank) :
    ∃ decimal, Decimal.read? (magnitudeText rank) = some decimal ∧ decimal.rank = rank := by
  have denoted := (rank_dropTrailingZeros (shortest rank)).trans (rank_shortest positive finite)
  have allDigits : ∀ digit ∈ dropTrailingZeros (Digits.text (shortest rank).coefficient),
      digit.isDigit = true := fun _ => isDigit_of_mem_dropTrailingZeros
  simp only [magnitudeText]
  generalize dropTrailingZeros (Digits.text (shortest rank).coefficient) = digits at *
  generalize ((Digits.text (shortest rank).coefficient).length : Int) + (shortest rank).exponent =
    point at *
  split
  · obtain ⟨first, whole, fraction, zeros, shape, areDigits, value, places⟩ :=
      positional_split allDigits point
    have read := Decimal.read?_numeral [] areDigits (by simp) rfl
    rw [List.append_nil] at read
    refine ⟨_, by rw [shape]; exact read, ?_⟩
    rw [value, Decimal.rank_mul_ten_pow, show 0 - (fraction.length : Int) + zeros =
      point - digits.length by omega, denoted]
  · obtain ⟨first, whole, fraction, zeros, shape, areDigits, value, places⟩ :=
      positional_split allDigits 1
    have read := Decimal.read?_numeral ('E' :: (toString (point - 1)).toList) areDigits
      (by simp) (Decimal.readExponent?_toString (point - 1))
    refine ⟨_, by rw [scientific, shape, List.append_assoc]; exact read, ?_⟩
    rw [value, Decimal.rank_mul_ten_pow, show point - 1 - (fraction.length : Int) + zeros =
      point - digits.length by omega, denoted]

def isNumeralCharacter (character : Char) : Bool :=
  character.isDigit || character = '.' || character = 'E' || character = '-'

structure Numeral (characters : List Char) : Prop where
  digit : ∃ first others, characters = first :: others ∧ first.isDigit = true
  point : '.' ∈ characters
  plain : ∀ character ∈ characters, isNumeralCharacter character = true

theorem isNumeralCharacter_of_isDigit {character : Char} (digit : character.isDigit = true) :
    isNumeralCharacter character = true := by
  simp [isNumeralCharacter, digit]

theorem numeral_positional {digits : List Char} (tail : List Char)
    (allDigits : ∀ digit ∈ digits, digit.isDigit = true) (point : Int)
    (plain : ∀ character ∈ tail, isNumeralCharacter character = true) :
    Numeral (positional digits point ++ tail) := by
  obtain ⟨first, whole, fraction, zeros, shape, areDigits, _, _⟩ := positional_split allDigits point
  rw [shape]
  refine ⟨⟨first, _, rfl, areDigits first (by simp)⟩, by simp, ?_⟩
  intro character member
  simp only [List.cons_append, List.mem_cons, List.mem_append] at member areDigits
  rcases member with same | (member | rfl | member) | member
  · exact isNumeralCharacter_of_isDigit (areDigits character (Or.inl same))
  · exact isNumeralCharacter_of_isDigit (areDigits character (Or.inr (Or.inl member)))
  · rfl
  · exact isNumeralCharacter_of_isDigit (areDigits character (Or.inr (Or.inr member)))
  · exact plain character member

theorem numeral_magnitudeText (rank : Nat) : Numeral (magnitudeText rank) := by
  have allDigits : ∀ digit ∈ dropTrailingZeros (Digits.text (shortest rank).coefficient),
      digit.isDigit = true := fun _ => isDigit_of_mem_dropTrailingZeros
  simp only [magnitudeText]
  split
  · simpa using numeral_positional [] allDigits _ (by simp)
  · refine numeral_positional _ allDigits 1 ?_
    intro character member
    rcases List.mem_cons.mp member with rfl | member
    · rfl
    · rw [Integer.toList_toString] at member
      split at member
      · rcases List.mem_cons.mp member with rfl | member
        · rfl
        · exact isNumeralCharacter_of_isDigit (Digits.isDigit_of_mem_text member)
      · exact isNumeralCharacter_of_isDigit (Digits.isDigit_of_mem_text member)

theorem text_of_isFinite {number : Double} (finite : number.isFinite = true) :
    ∃ body decimal, (text number).toList = (if isNegative number then '-' :: body else body) ∧
      Numeral body ∧ Decimal.read? body = some decimal ∧ decimal.rank = rank number := by
  have below := (isFinite_iff number).mp finite
  have signed : ∀ body : String, ((if isNegative number then "-" else "") ++ body).toList =
      if isNegative number then '-' :: body.toList else body.toList := by
    intro body
    split <;> simp
  unfold text
  simp only
  rw [if_neg (by omega), if_neg (by omega)]
  split
  · rename_i zero
    have plain : "0.0".toList.all isNumeralCharacter = true := by decide
    refine ⟨"0.0".toList, ⟨0, -1⟩, signed "0.0",
      ⟨⟨'0', ['.', '0'], rfl, rfl⟩, by decide, List.all_eq_true.mp plain⟩, by decide, ?_⟩
    rw [zero]
    rfl
  · rename_i nonzero
    obtain ⟨decimal, read, denotes⟩ := read?_magnitudeText (Nat.pos_of_ne_zero nonzero) below
    refine ⟨magnitudeText (rank number), decimal, ?_, numeral_magnitudeText _, read, denotes⟩
    rw [signed, String.toList_ofList]

end Double

namespace Number

theorem ofLiteral?_integerText (number : Int64) :
    ofLiteral? (Integer.text number).toList = some (.integer number) := by
  simp [ofLiteral?, Integer.read?_text]

theorem ofLiteral?_doubleText {number : Double} (finite : number.isFinite = true) :
    ofLiteral? (Double.text number).toList = some (.double number) := by
  obtain ⟨body, decimal, shape, numeral, read, denotes⟩ := Double.text_of_isFinite finite
  obtain ⟨first, others, rfl, digit⟩ := numeral.digit
  have unsigned : first ≠ '-' := by
    rintro rfl
    simp at digit
  have restored := Double.ofRank_rank number
  rw [shape]
  cases negative : Double.isNegative number with
  | true =>
      rw [negative] at restored
      have notInteger : Integer.read? ('-' :: first :: others) = none :=
        Integer.read?_eq_none (List.mem_cons_of_mem _ numeral.point)
      simp [ofLiteral?, notInteger, readDouble?, read, denotes, restored]
  | false =>
      rw [negative] at restored
      have notInteger := Integer.read?_eq_none numeral.point
      simp [ofLiteral?, notInteger, readDouble?, read, denotes, restored, unsigned]

end Number

end TagTemplate
