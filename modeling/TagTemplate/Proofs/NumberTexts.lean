import TagTemplate.Value
import TagTemplate.Proofs.NumberGrammar
import TagTemplate.Proofs.OperandText

/-!
The texts that denote numbers. A text operand is an integer if it is an optional sign and digits in
range, exactly as it stands. Otherwise what is left between its margins may spell a double: a sign,
then `NaN`, `Infinity` or a numeral with perhaps an exponent and a type letter, whose value is
rounded to the nearest double. Every other text is rejected.
-/

namespace TagTemplate

open Number (IsPlain)

inductive SpellsType : List Char → Prop
  | absent : SpellsType []
  | letter {character} : character ∈ ['d', 'D', 'f', 'F'] → SpellsType [character]

inductive SpellsMagnitude (negative : Bool) : List Char → Double → Prop
  | nan : SpellsMagnitude negative "NaN".toList Double.nan
  | infinity : SpellsMagnitude negative "Infinity".toList
      (Double.ofRank negative Double.infinityRank)
  | numeral {digits type decimal rank} : SpellsDecimal digits decimal → SpellsType type →
      Double.Nearest decimal.amount rank →
      SpellsMagnitude negative (digits ++ type) (Double.ofRank negative rank)

inductive SpellsDouble : List Char → Double → Prop
  | signed {sign negative unsigned number} : SpellsSign sign negative →
      SpellsMagnitude negative unsigned number → SpellsDouble (sign ++ unsigned) number

/-- What is left of some characters without those up to the space at both ends. -/
def Strips (characters core : List Char) : Prop :=
  ∃ before after, characters = before ++ core ++ after ∧
    (∀ character ∈ before ++ after, character ≤ ' ') ∧
    (∀ character ∈ core.head?, ' ' < character) ∧ ∀ character ∈ core.getLast?, ' ' < character

/-- A text is a double only if it is no integer, and only a double may stand between margins. -/
inductive SpellsNumber (characters : List Char) : Number → Prop
  | integer {number : Int64} : SpellsInteger characters number.toInt →
      SpellsNumber characters (.integer number)
  | double {core number} : (∀ number : Int64, ¬SpellsInteger characters number.toInt) →
      Strips characters core → SpellsDouble core number → SpellsNumber characters (.double number)

theorem SpellsDigits.plain {characters : List Char} (spells : SpellsDigits characters) :
    ∀ character ∈ characters, IsPlain character :=
  fun character member => Or.inl (spells.2 character member)

theorem SpellsSign.plain {sign : List Char} {negative : Bool} (spells : SpellsSign sign negative) :
    ∀ character ∈ sign, IsPlain character := by
  cases spells <;> simp [IsPlain]

theorem SpellsMantissa.plain {characters whole fraction : List Char}
    (spells : SpellsMantissa characters whole fraction) :
    ∀ character ∈ characters, IsPlain character := by
  have point : IsPlain '.' := Or.inr (by decide)
  cases spells with
  | whole digits => exact digits.plain
  | pointed digits more =>
      refine List.forall_mem_append.mpr ⟨digits.plain, List.forall_mem_cons.mpr ⟨point, ?_⟩⟩
      exact fun character member => Or.inl (more character member)
  | fraction digits => exact List.forall_mem_cons.mpr ⟨point, digits.plain⟩

theorem SpellsInteger.plain {characters : List Char} {number : Int}
    (spells : SpellsInteger characters number) : ∀ character ∈ characters, IsPlain character := by
  cases spells with
  | signed signed digits => exact List.forall_mem_append.mpr ⟨signed.plain, digits.plain⟩

theorem SpellsExponent.plain {characters : List Char} {exponent : Int}
    (spells : SpellsExponent characters exponent) :
    ∀ character ∈ characters, IsPlain character := by
  cases spells with
  | absent => simp
  | present isMarker integer =>
      refine List.forall_mem_cons.mpr ⟨Or.inr ?_, integer.plain⟩
      rcases isMarker with rfl | rfl <;> decide

theorem SpellsDecimal.plain {characters : List Char} {decimal : Double.Decimal}
    (spells : SpellsDecimal characters decimal) : ∀ character ∈ characters, IsPlain character := by
  cases spells with
  | scaled mantissa scaled => exact List.forall_mem_append.mpr ⟨mantissa.plain, scaled.plain⟩

theorem SpellsDecimal.head {characters : List Char} {decimal : Double.Decimal}
    (spells : SpellsDecimal characters decimal) :
    ∃ first others, characters = first :: others ∧ (first.isDigit = true ∨ first = '.') := by
  have starts {digits : List Char} (spelled : SpellsDigits digits) :
      ∃ first others, digits = first :: others ∧ (first.isDigit = true ∨ first = '.') := by
    obtain ⟨first, others, rfl⟩ := List.exists_cons_of_ne_nil spelled.1
    exact ⟨first, others, rfl, Or.inl (spelled.2 first List.mem_cons_self)⟩
  cases spells with
  | scaled mantissa scaled =>
      cases mantissa with
      | whole digits =>
          obtain ⟨first, others, rfl, start⟩ := starts digits
          exact ⟨first, _, rfl, start⟩
      | pointed digits more =>
          obtain ⟨first, others, rfl, start⟩ := starts digits
          exact ⟨first, _, rfl, start⟩
      | fraction digits => exact ⟨'.', _, rfl, Or.inr rfl⟩

theorem SpellsMagnitude.unsigned {negative : Bool} {characters : List Char} {number : Double}
    (spells : SpellsMagnitude negative characters number) :
    ∀ first ∈ characters.head?, first ≠ '+' ∧ first ≠ '-' := by
  cases spells with
  | nan =>
      rintro _ ⟨⟩
      decide
  | infinity =>
      rintro _ ⟨⟩
      decide
  | numeral spelled =>
      obtain ⟨first, others, rfl, start⟩ := spelled.head
      rintro _ ⟨⟩
      constructor <;> rintro rfl <;> revert start <;> decide

theorem isMargin_iff {character : Char} : Number.isMargin character = true ↔ character ≤ ' ' := by
  rw [Number.isMargin, decide_eq_true_iff]
  exact Iff.rfl

theorem isMargin_eq_false_iff {character : Char} :
    Number.isMargin character = false ↔ ' ' < character := by
  rw [Bool.eq_false_iff, ne_eq, isMargin_iff, Char.not_le]

theorem strips_trimMargins (characters : List Char) :
    Strips characters (Number.trimMargins characters) := by
  obtain ⟨before, inner, rfl, leading, starts⟩ := exists_span Number.isMargin characters
  obtain ⟨after, core, shape, trailing, ends⟩ := exists_span Number.isMargin inner.reverse
  have whole : inner = core.reverse ++ after.reverse := by
    rw [← List.reverse_append, ← shape, List.reverse_reverse]
  have trimmed : Number.trimMargins (before ++ inner) = core.reverse := by
    rw [Number.trimMargins, (span_append _ _ _ leading starts).2, shape,
      (span_append _ _ _ trailing ends).2]
  rw [trimmed]
  refine ⟨before, after.reverse, by rw [whole, List.append_assoc], ?_, ?_, ?_⟩
  · intro character member
    rw [List.mem_append, List.mem_reverse] at member
    exact isMargin_iff.mp (member.elim (leading character) (trailing character))
  · intro first ahead
    obtain ⟨others, shape⟩ := List.head?_eq_some_iff.mp ahead
    exact isMargin_eq_false_iff.mp (starts first (by rw [whole, shape]; rfl))
  · intro last behind
    rw [List.getLast?_reverse] at behind
    exact isMargin_eq_false_iff.mp (ends last behind)

theorem Strips.trimMargins_eq {characters core : List Char} (strips : Strips characters core) :
    Number.trimMargins characters = core := by
  obtain ⟨before, after, rfl, margins, starts, ends⟩ := strips
  obtain ⟨leading, trailing⟩ := List.forall_mem_append.mp margins
  have leading : ∀ character ∈ before, Number.isMargin character = true :=
    fun character member => isMargin_iff.mpr (leading character member)
  have trailing : ∀ character ∈ after.reverse, Number.isMargin character = true :=
    fun character member => isMargin_iff.mpr (trailing character (List.mem_reverse.mp member))
  have ends : StopsAt Number.isMargin core.reverse := fun last behind =>
    isMargin_eq_false_iff.mpr (ends last (by rwa [List.head?_reverse] at behind))
  rw [Number.trimMargins, List.append_assoc, List.dropWhile_append_of_pos leading]
  cases core with
  | nil =>
      have trailing : ∀ character ∈ after, Number.isMargin character = true :=
        fun character member => trailing character (List.mem_reverse.mpr member)
      rw [List.nil_append, List.dropWhile_eq_nil_iff.mpr trailing]
      rfl
  | cons first others =>
      have solid : Number.isMargin first = false := isMargin_eq_false_iff.mpr (starts first rfl)
      rw [List.cons_append, List.dropWhile_cons_of_neg (by simp [solid]), ← List.cons_append,
        List.reverse_append, (span_append _ _ _ trailing ends).2, List.reverse_reverse]

namespace Number

theorem isTypeSuffix_iff {character : Char} :
    isTypeSuffix character = true ↔ character ∈ ['d', 'D', 'f', 'F'] := by
  simp [isTypeSuffix, or_assoc]

theorem dropTypeSuffix_append {digits type : List Char}
    (plain : ∀ character ∈ digits, IsPlain character) (spells : SpellsType type) :
    dropTypeSuffix (digits ++ type) = digits := by
  cases spells with
  | absent =>
      rw [List.append_nil]
      exact dropTypeSuffix_eq_self fun character member =>
        isTypeSuffix_of_isPlain (plain character member)
  | letter isType => simp [dropTypeSuffix, isTypeSuffix_iff.mpr isType]

theorem exists_type (characters : List Char) :
    ∃ type, SpellsType type ∧ characters = dropTypeSuffix characters ++ type := by
  cases ending : characters.getLast? with
  | none => exact ⟨[], .absent, by simp [dropTypeSuffix, ending]⟩
  | some last =>
      by_cases suffixed : isTypeSuffix last = true
      · refine ⟨[last], .letter (isTypeSuffix_iff.mp suffixed), ?_⟩
        rw [dropTypeSuffix, ending, Option.any_some, if_pos suffixed]
        exact (List.dropLast_append_getLast? last ending).symm
      · exact ⟨[], .absent, by simp [dropTypeSuffix, ending, suffixed]⟩

theorem magnitudeOfText?_eq_some_iff {negative : Bool} {characters : List Char} {number : Double} :
    magnitudeOfText? negative characters = some number ↔
      SpellsMagnitude negative characters number := by
  constructor
  · intro found
    unfold magnitudeOfText? at found
    split at found
    · rename_i word
      obtain rfl := Option.some.inj found
      exact word ▸ .nan
    split at found
    · rename_i word
      obtain rfl := Option.some.inj found
      exact word ▸ .infinity
    · obtain ⟨type, typed, shape⟩ := exists_type characters
      obtain ⟨decimal, read, rfl⟩ := Option.map_eq_some_iff.mp found
      rw [shape]
      exact .numeral (Double.Decimal.read?_eq_some_iff.mp read) typed decimal.nearest_rank
  · intro spells
    cases spells with
    | nan => rfl
    | infinity => rfl
    | @numeral digits type decimal rank spelled typed nearest =>
        have noWord : digits ++ type ≠ "NaN".toList ∧ digits ++ type ≠ "Infinity".toList := by
          obtain ⟨first, others, rfl, start⟩ := spelled.head
          constructor <;> intro word <;> obtain ⟨rfl, -⟩ := List.cons.inj word <;>
            revert start <;> decide
        rw [magnitudeOfText?, if_neg noWord.1, if_neg noWord.2,
          dropTypeSuffix_append spelled.plain typed, readDouble?,
          Double.Decimal.read?_of_spells spelled, Option.map_some,
          decimal.nearest_rank.unique nearest]

theorem magnitudeOfText?_sign (others : List Char) :
    magnitudeOfText? false ('+' :: others) = none ∧
      magnitudeOfText? false ('-' :: others) = none := by
  constructor <;> refine Option.eq_none_iff_forall_ne_some.mpr fun number found => ?_
  · exact ((magnitudeOfText?_eq_some_iff.mp found).unsigned _ rfl).1 rfl
  · exact ((magnitudeOfText?_eq_some_iff.mp found).unsigned _ rfl).2 rfl

theorem doubleOfText?_eq_readSigned (characters : List Char) :
    doubleOfText? characters = readSigned magnitudeOfText? (trimMargins characters) := by
  unfold doubleOfText?
  split
  · rename_i shape
    rw [shape]
    rfl
  · rename_i shape
    rw [shape]
    rfl
  · rename_i noMinus noPlus
    rw [readSigned_of_unsigned _ noPlus noMinus]

theorem doubleOfText?_eq_some_iff {characters : List Char} {number : Double} :
    doubleOfText? characters = some number ↔ SpellsDouble (trimMargins characters) number := by
  rw [doubleOfText?_eq_readSigned, readSigned_eq_some_iff magnitudeOfText?_sign]
  constructor
  · rintro ⟨sign, negative, unsigned, signed, shape, found⟩
    rw [shape]
    exact .signed signed (magnitudeOfText?_eq_some_iff.mp found)
  · intro spells
    generalize trimMargins characters = core at spells
    cases spells with
    | signed signed magnitude =>
        exact ⟨_, _, _, signed, rfl, magnitudeOfText?_eq_some_iff.mpr magnitude⟩

theorem ofText?_eq_some_iff {text : String} {number : Number} :
    ofText? text = some number ↔ SpellsNumber text.toList number := by
  constructor
  · intro found
    unfold ofText? at found
    split at found
    · rename_i read
      obtain rfl := Option.some.inj found
      exact .integer (Integer.read?_eq_some_iff.mp read)
    · rename_i unread
      obtain ⟨double, read, rfl⟩ := Option.map_eq_some_iff.mp found
      have unspelled := Integer.read?_eq_none_iff.mp unread
      exact .double unspelled (strips_trimMargins _) (doubleOfText?_eq_some_iff.mp read)
  · intro spells
    cases spells with
    | integer spelled => rw [ofText?, Integer.read?_eq_some_iff.mpr spelled]
    | double unspelled strips spelled =>
        rw [← strips.trimMargins_eq] at spelled
        rw [ofText?, Integer.read?_eq_none_iff.mpr unspelled, doubleOfText?_eq_some_iff.mpr spelled]
        rfl

end Number

/-- A text stands for the number that it spells. A text that spells none is no operand, and the
error names it unchanged. -/
theorem Value.toNumber_string (text : String) :
    (∀ number, (string text).toNumber = .ok number ↔ SpellsNumber text.toList number) ∧
      ∀ error, (string text).toNumber = .error error ↔
        error = .notANumber text ∧ ∀ number, ¬SpellsNumber text.toList number := by
  simp only [← Number.ofText?_eq_some_iff, toNumber]
  cases Number.ofText? text with
  | none => simp [eq_comm]
  | some number => simp

/-- One letter is dropped, and the other is no digit. -/
example : (Value.string "1df").toNumber = .error (.notANumber "1df") := by
  rfl

end TagTemplate
