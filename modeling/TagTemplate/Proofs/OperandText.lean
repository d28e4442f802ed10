import TagTemplate.Value
import TagTemplate.Proofs.Numeral

/-!
Numbers as operands. The text of a number, taken as an operand, is the same number again: integers
stay integers, doubles stay doubles with all their bits, and no operator or comparison tells a
number from its text. A NaN alone stays no more than a NaN.
-/

namespace TagTemplate

namespace Number

def IsPlain (character : Char) : Prop :=
  character.isDigit = true ∨ character ∈ ['.', 'e', 'E', '+', '-']

theorem isPlain_of_isNumeralCharacter {character : Char}
    (numeral : Double.isNumeralCharacter character = true) : IsPlain character := by
  simp only [Double.isNumeralCharacter, Bool.or_eq_true, decide_eq_true_eq] at numeral
  rcases numeral with ((digit | rfl) | rfl) | rfl
  · exact Or.inl digit
  all_goals exact Or.inr (by decide)

theorem isMargin_of_isPlain {character : Char} (plain : IsPlain character) :
    isMargin character = false := by
  rcases plain with digit | mark
  · have above := (toNat_of_isDigit digit).1
    have : ' '.toNat < '0'.toNat := by decide
    simp only [isMargin, decide_eq_false_iff_not]
    omega
  · simp only [List.mem_cons, List.not_mem_nil, or_false] at mark
    rcases mark with rfl | rfl | rfl | rfl | rfl <;> rfl

theorem isTypeSuffix_of_isPlain {character : Char} (plain : IsPlain character) :
    isTypeSuffix character = false := by
  rw [Bool.eq_false_iff]
  intro suffix
  simp only [isTypeSuffix, Bool.or_eq_true, decide_eq_true_eq] at suffix
  rcases suffix with ((rfl | rfl) | rfl) | rfl <;> revert plain <;> simp [IsPlain]

theorem trimMargins_eq_self {characters : List Char}
    (solid : ∀ character ∈ characters, isMargin character = false) :
    trimMargins characters = characters := by
  have still (run : List Char) (solid : ∀ character ∈ run, isMargin character = false) :
      run.dropWhile isMargin = run := by
    cases run with
    | nil => rfl
    | cons first others =>
        exact List.dropWhile_cons_of_neg (by simp [solid first List.mem_cons_self])
  rw [trimMargins, still characters solid, still characters.reverse, List.reverse_reverse]
  simpa using solid

theorem dropTypeSuffix_eq_self {characters : List Char}
    (untyped : ∀ character ∈ characters, isTypeSuffix character = false) :
    dropTypeSuffix characters = characters := by
  have noSuffix : characters.getLast?.any isTypeSuffix = false := by
    cases ending : characters.getLast? with
    | none => rfl
    | some last => exact untyped last (List.mem_of_getLast? ending)
  rw [dropTypeSuffix, noSuffix]
  rfl

theorem magnitudeOfText?_numeral {characters : List Char} (numeral : Double.Numeral characters)
    (negative : Bool) :
    magnitudeOfText? negative characters = readDouble? negative characters := by
  obtain ⟨first, others, shape, digit⟩ := numeral.digit
  have noWord : characters ≠ "NaN".toList ∧ characters ≠ "Infinity".toList := by
    constructor <;> rintro rfl <;> cases shape <;> exact absurd digit (by decide)
  have untyped := dropTypeSuffix_eq_self fun character member =>
    isTypeSuffix_of_isPlain (isPlain_of_isNumeralCharacter (numeral.plain character member))
  rw [magnitudeOfText?, if_neg noWord.1, if_neg noWord.2, untyped]

theorem doubleOfText?_numeral {characters : List Char} (numeral : Double.Numeral characters)
    (negative : Bool) :
    doubleOfText? (if negative then '-' :: characters else characters) =
      readDouble? negative characters := by
  have plain : ∀ character ∈ (if negative then '-' :: characters else characters),
      Double.isNumeralCharacter character = true := by
    cases negative with
    | false => exact numeral.plain
    | true => exact List.forall_mem_cons.mpr ⟨rfl, numeral.plain⟩
  have solid := trimMargins_eq_self fun character member =>
    isMargin_of_isPlain (isPlain_of_isNumeralCharacter (plain character member))
  rw [doubleOfText?, solid, ← magnitudeOfText?_numeral numeral negative]
  cases negative with
  | true => rfl
  | false =>
      obtain ⟨first, others, rfl, digit⟩ := numeral.digit
      have unsigned : first ≠ '-' ∧ first ≠ '+' := by
        constructor <;> rintro rfl <;> exact absurd digit (by decide)
      simp [unsigned]

theorem ofText?_doubleText_of_isFinite {number : Double} (finite : number.isFinite = true) :
    ofText? (Double.text number) = some (.double number) := by
  obtain ⟨body, decimal, shape, numeral, read, denotes⟩ := Double.text_of_isFinite finite
  have noInteger : Integer.read? (Double.text number).toList = none := by
    rw [shape]
    apply Integer.read?_eq_none
    split
    · exact List.mem_cons_of_mem '-' numeral.point
    · exact numeral.point
  rw [ofText?, noInteger, shape, doubleOfText?_numeral numeral, readDouble?, read]
  simp only [Option.map_some, denotes, Double.ofRank_rank]

theorem ofText?_infinityText (negative : Bool) :
    ofText? ((if negative then "-" else "") ++ "Infinity") =
      some (.double (Double.ofRank negative Double.infinityRank)) := by
  cases negative <;> rfl

theorem ofText?_doubleText {number : Double} (isNumber : number.isNan = false) :
    ofText? (Double.text number) = some (.double number) := by
  by_cases finite : number.isFinite = true
  · exact ofText?_doubleText_of_isFinite finite
  · have infinite : Double.rank number = Double.infinityRank := by
      rw [Double.isFinite_iff] at finite
      rw [← Bool.not_eq_true, Double.isNan_iff] at isNumber
      omega
    have restored := Double.ofRank_rank number
    rw [infinite] at restored
    rw [Double.text, infinite, if_neg (Nat.lt_irrefl _), if_pos rfl, ofText?_infinityText,
      restored]

theorem ofText?_nanText {number : Double} (isNan : number.isNan = true) :
    ofText? (Double.text number) = some (.double Double.nan) := by
  rw [Double.text, if_pos ((Double.isNan_iff number).mp isNan)]
  rfl

theorem ofText?_integerText (number : Int64) :
    ofText? (Integer.text number) = some (.integer number) := by
  rw [ofText?, Integer.read?_text]

def isNan : Number → Bool
  | .integer _ => false
  | .double number => number.isNan

/-- What the text of a number is read as. There are many NaN, but a single text for them. -/
def reread (number : Number) : Number :=
  if number.isNan then .double Double.nan else number

theorem reread_of_isNan {number : Number} (isNan : number.isNan = true) :
    number.reread = .double Double.nan :=
  if_pos isNan

theorem reread_of_not_isNan {number : Number} (isNumber : number.isNan = false) :
    number.reread = number :=
  if_neg (Bool.not_eq_true _ ▸ isNumber)

end Number

namespace Value

def ofNumberAs (asText : Bool) (number : Number) : Value :=
  if asText then .string (ofNumber number).text else ofNumber number

theorem toNumber_ofNumber (number : Number) : (ofNumber number).toNumber = .ok number := by
  cases number <;> rfl

theorem toNumber_text (number : Number) :
    (string (ofNumber number).text).toNumber = .ok number.reread := by
  cases number with
  | integer number =>
      change (string (Integer.text number)).toNumber = _
      rw [toNumber, Number.ofText?_integerText]
      rfl
  | double number =>
      change (string (Double.text number)).toNumber = _
      cases isNan : number.isNan with
      | false =>
          have kept : (Number.double number).reread = .double number :=
            Number.reread_of_not_isNan isNan
          rw [toNumber, Number.ofText?_doubleText isNan, kept]
      | true =>
          have changed : (Number.double number).reread = .double Double.nan :=
            Number.reread_of_isNan isNan
          rw [toNumber, Number.ofText?_nanText isNan, changed]

theorem toNumber_ofNumberAs (asText : Bool) {number : Number} (kept : number.reread = number) :
    (ofNumberAs asText number).toNumber = (ofNumber number).toNumber := by
  cases asText with
  | false => rfl
  | true =>
      rw [toNumber_ofNumber]
      exact (toNumber_text number).trans (congrArg Except.ok kept)

end Value

theorem Operator.apply_congr (symbol : Operator) {left right otherLeft otherRight : Value}
    (lefts : left.toNumber = otherLeft.toNumber) (rights : right.toNumber = otherRight.toNumber) :
    symbol.apply left right = symbol.apply otherLeft otherRight := by
  simp only [apply, lefts, rights]

theorem Value.compare_congr {left right otherLeft otherRight : Value}
    (lefts : left.toNumber = otherLeft.toNumber) (rights : right.toNumber = otherRight.toNumber) :
    left.compare right = otherLeft.compare otherRight := by
  simp only [compare, lefts, rights]

namespace Number

/-- The text of a number is the same number as an operand, a NaN up to its bits. In place of a
number that it gives back as it was, it changes no result of an operator and no comparison. -/
theorem text_survives :
    (∀ number, (Value.string (Value.ofNumber number).text).toNumber = .ok number.reread) ∧
      (∀ number : Number, number.isNan = false → number.reread = number) ∧
      (∀ number : Number, number.isNan = true → number.reread = .double Double.nan) ∧
      ∀ left right : Number, left.reread = left → right.reread = right →
        ∀ leftAsText rightAsText,
          (∀ symbol : Operator,
            symbol.apply (.ofNumberAs leftAsText left) (.ofNumberAs rightAsText right) =
              symbol.apply (.ofNumber left) (.ofNumber right)) ∧
          Value.compare (.ofNumberAs leftAsText left) (.ofNumberAs rightAsText right) =
            Value.compare (.ofNumber left) (.ofNumber right) := by
  refine ⟨Value.toNumber_text, fun _ => reread_of_not_isNan, fun _ => reread_of_isNan, ?_⟩
  intro left right leftKept rightKept leftAsText rightAsText
  have lefts := Value.toNumber_ofNumberAs leftAsText leftKept
  have rights := Value.toNumber_ofNumberAs rightAsText rightKept
  exact ⟨fun symbol => symbol.apply_congr lefts rights, Value.compare_congr lefts rights⟩

theorem text_survives_negativeZero :
    isNan (.double (Double.ofRank true 0)) = false ∧
      isNan (.integer (-9223372036854775808)) = false ∧
      Value.compare (.string "-9223372036854775808") (.string "-0.0") =
        Value.compare (.integer (-9223372036854775808)) (.double (Double.ofRank true 0)) := by
  obtain ⟨-, kept, -, survives⟩ := text_survives
  have zero : isNan (.double (Double.ofRank true 0)) = false := rfl
  have least : isNan (.integer (-9223372036854775808)) = false := rfl
  exact ⟨zero, least, (survives _ _ (kept _ least) (kept _ zero) true true).2⟩

end Number

end TagTemplate
