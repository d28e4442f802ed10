import TagTemplate.Proofs.Double.Rounding
import TagTemplate.Proofs.Lexemes

/-!
The grammar of numerals. An integer is an optional sign and digits. A decimal is a mantissa with a
digit in front of its point or behind it, and perhaps an exponent. The readers accept exactly these,
and give the number that is spelled.
-/

namespace TagTemplate

inductive SpellsSign : List Char → Bool → Prop
  | absent : SpellsSign [] false
  | plus : SpellsSign ['+'] false
  | minus : SpellsSign ['-'] true

def SpellsDigits (characters : List Char) : Prop :=
  characters ≠ [] ∧ ∀ character ∈ characters, character.isDigit = true

inductive SpellsInteger : List Char → Int → Prop
  | signed {sign negative digits} : SpellsSign sign negative → SpellsDigits digits →
      SpellsInteger (sign ++ digits)
        (if negative then -(Digits.value digits : Int) else Digits.value digits)

inductive SpellsMantissa : List Char → List Char → List Char → Prop
  | whole {digits} : SpellsDigits digits → SpellsMantissa digits digits []
  | pointed {whole fraction} : SpellsDigits whole →
      (∀ character ∈ fraction, character.isDigit = true) →
      SpellsMantissa (whole ++ '.' :: fraction) whole fraction
  | fraction {digits} : SpellsDigits digits → SpellsMantissa ('.' :: digits) [] digits

inductive SpellsExponent : List Char → Int → Prop
  | absent : SpellsExponent [] 0
  | present {marker integer exponent} : marker = 'e' ∨ marker = 'E' →
      SpellsInteger integer exponent → SpellsExponent (marker :: integer) exponent

/-- A mantissa and an exponent, and the decimal that they denote. -/
inductive SpellsDecimal : List Char → Double.Decimal → Prop
  | scaled {mantissa whole fraction scale exponent} : SpellsMantissa mantissa whole fraction →
      SpellsExponent scale exponent →
      SpellsDecimal (mantissa ++ scale)
        ⟨Digits.value (whole ++ fraction), exponent - fraction.length⟩

theorem exists_span (test : Char → Bool) (characters : List Char) :
    ∃ run rest, characters = run ++ rest ∧ (∀ character ∈ run, test character = true) ∧
      StopsAt test rest := by
  have whole := List.takeWhile_append_dropWhile (p := test) (l := characters)
  refine ⟨_, _, whole.symm, takeWhile_eq_left_iff.mp ?_⟩
  rw [whole]

theorem Digits.read?_eq_some_iff {characters : List Char} {number : Nat} :
    read? characters = some number ↔ SpellsDigits characters ∧ value characters = number := by
  simp [read?, SpellsDigits]

theorem Integer.ofInt?_eq_some_iff {number : Int} {result : Int64} :
    ofInt? number = some result ↔ number = result.toInt := by
  constructor
  · intro found
    rw [ofInt?] at found
    split at found
    · rename_i bounds
      obtain rfl := Option.some.inj found
      exact (Int64.toInt_ofInt_of_le bounds.1 (Int.lt_add_one_of_le bounds.2)).symm
    · contradiction
  · rintro rfl
    exact ofInt?_toInt result

def readSigned {α : Type} (read : Bool → List Char → Option α) : List Char → Option α
  | '+' :: others => read false others
  | '-' :: others => read true others
  | unsigned => read false unsigned

theorem readSigned_of_unsigned {α : Type} (read : Bool → List Char → Option α)
    {characters : List Char} (noPlus : ∀ others, characters ≠ '+' :: others)
    (noMinus : ∀ others, characters ≠ '-' :: others) :
    readSigned read characters = read false characters :=
  readSigned.eq_3 read characters noPlus noMinus

theorem readSigned_eq_some_iff {α : Type} {read : Bool → List Char → Option α}
    (unsigned : ∀ others, read false ('+' :: others) = none ∧ read false ('-' :: others) = none)
    {characters : List Char} {result : α} :
    readSigned read characters = some result ↔ ∃ sign negative others,
      SpellsSign sign negative ∧ characters = sign ++ others ∧
        read negative others = some result := by
  constructor
  · intro found
    unfold readSigned at found
    split at found
    · exact ⟨_, _, _, .plus, rfl, found⟩
    · exact ⟨_, _, _, .minus, rfl, found⟩
    · exact ⟨_, _, _, .absent, rfl, found⟩
  · rintro ⟨sign, negative, others, spells, rfl, found⟩
    cases spells with
    | plus => exact found
    | minus => exact found
    | absent =>
        rw [List.nil_append, readSigned_of_unsigned]
        · exact found
        · rintro more rfl
          simp [(unsigned more).1] at found
        · rintro more rfl
          simp [(unsigned more).2] at found

theorem Digits.read?_sign (others : List Char) :
    read? ('+' :: others) = none ∧ read? ('-' :: others) = none :=
  ⟨read?_eq_none List.mem_cons_self rfl, read?_eq_none List.mem_cons_self rfl⟩

def readInteger? : List Char → Option Int :=
  readSigned fun negative digits => (Digits.read? digits).map fun (number : Nat) =>
    if negative then -(number : Int) else number

theorem readInteger?_eq_some_iff {characters : List Char} {number : Int} :
    readInteger? characters = some number ↔ SpellsInteger characters number := by
  rw [readInteger?, readSigned_eq_some_iff fun others => by simp [Digits.read?_sign]]
  constructor
  · rintro ⟨sign, negative, digits, signed, rfl, found⟩
    obtain ⟨magnitude, read, rfl⟩ := Option.map_eq_some_iff.mp found
    obtain ⟨spelled, rfl⟩ := Digits.read?_eq_some_iff.mp read
    exact .signed signed spelled
  · intro spells
    cases spells with
    | signed signed spelled =>
        refine ⟨_, _, _, signed, rfl, ?_⟩
        rw [Digits.read?_eq_some_iff.mpr ⟨spelled, rfl⟩, Option.map_some]

theorem Integer.read?_eq_bind (characters : List Char) :
    read? characters = (readInteger? characters).bind ofInt? := by
  have bounded (sign : Nat → Int) (digits : List Char) :
      ((Digits.read? digits).bind fun number => ofInt? (sign number)) =
        ((Digits.read? digits).map sign).bind ofInt? := by
    rw [Option.bind_map, Function.comp_def]
  unfold read?
  split
  · exact bounded _ _
  · exact bounded _ _
  · rename_i noPlus noMinus
    rw [readInteger?, readSigned_of_unsigned _ noPlus noMinus]
    exact bounded _ _

theorem Integer.read?_eq_some_iff {characters : List Char} {number : Int64} :
    read? characters = some number ↔ SpellsInteger characters number.toInt := by
  simp only [read?_eq_bind, Option.bind_eq_some_iff, ofInt?_eq_some_iff, readInteger?_eq_some_iff,
    exists_eq_right]

theorem Integer.read?_eq_none_iff {characters : List Char} :
    read? characters = none ↔ ∀ number : Int64, ¬SpellsInteger characters number.toInt := by
  simp only [Option.eq_none_iff_forall_ne_some, ne_eq, read?_eq_some_iff]

theorem SpellsExponent.head {characters : List Char} {exponent : Int}
    (spells : SpellsExponent characters exponent) :
    ∀ first ∈ characters.head?, first = 'e' ∨ first = 'E' := by
  intro first ahead
  cases spells with
  | absent => contradiction
  | present isMarker _ =>
      obtain rfl := Option.some.inj ahead
      exact isMarker

theorem SpellsExponent.stopsAt_isDigit {characters : List Char} {exponent : Int}
    (spells : SpellsExponent characters exponent) : StopsAt Char.isDigit characters := by
  intro first ahead
  rcases spells.head first ahead with rfl | rfl <;> rfl

namespace Double.Decimal

theorem readExponent?_cons {marker : Char} (others : List Char)
    (isMarker : marker = 'e' ∨ marker = 'E') :
    readExponent? (marker :: others) = readInteger? others := by
  unfold readExponent?
  simp only [isMarker, if_true]
  split
  · rfl
  · rfl
  · rename_i noPlus noMinus
    rw [readInteger?, readSigned_of_unsigned _ noPlus noMinus]
    rfl

theorem readExponent?_eq_some_iff {characters : List Char} {exponent : Int} :
    readExponent? characters = some exponent ↔ SpellsExponent characters exponent := by
  constructor
  · intro found
    cases characters with
    | nil =>
        obtain rfl := Option.some.inj found
        exact .absent
    | cons marker others =>
        by_cases isMarker : marker = 'e' ∨ marker = 'E'
        · rw [readExponent?_cons _ isMarker] at found
          exact .present isMarker (readInteger?_eq_some_iff.mp found)
        · simp only [readExponent?, if_neg isMarker] at found
          contradiction
  · intro spells
    cases spells with
    | absent => rfl
    | present isMarker spelled =>
        rw [readExponent?_cons _ isMarker]
        exact readInteger?_eq_some_iff.mpr spelled

theorem splitFraction_point {fraction rest : List Char}
    (digits : ∀ character ∈ fraction, character.isDigit = true)
    (stops : StopsAt Char.isDigit rest) :
    splitFraction ('.' :: (fraction ++ rest)) = (fraction, rest) := by
  obtain ⟨taken, dropped⟩ := span_append Char.isDigit fraction rest digits stops
  rw [splitFraction, taken, dropped]

theorem splitFraction_eq_self {characters : List Char}
    (noPoint : ∀ others, characters ≠ '.' :: others) :
    splitFraction characters = ([], characters) :=
  splitFraction.eq_2 characters noPoint

theorem read?_append {whole rest fraction scale : List Char}
    (digits : ∀ character ∈ whole, character.isDigit = true) (stops : StopsAt Char.isDigit rest)
    (split : splitFraction rest = (fraction, scale)) :
    read? (whole ++ rest) = if whole = [] ∧ fraction = [] then none
      else (readExponent? scale).map fun exponent =>
        ⟨Digits.value (whole ++ fraction), exponent - fraction.length⟩ := by
  obtain ⟨taken, dropped⟩ := span_append Char.isDigit whole rest digits stops
  simp only [read?, taken, dropped, split, Bool.and_eq_true, List.isEmpty_iff]

theorem read?_of_spells {characters : List Char} {decimal : Decimal}
    (spells : SpellsDecimal characters decimal) : read? characters = some decimal := by
  cases spells with
  | @scaled _ _ _ scale _ mantissa scaled =>
      have stops := scaled.stopsAt_isDigit
      have read := readExponent?_eq_some_iff.mpr scaled
      cases mantissa with
      | whole digits =>
          have noPoint : ∀ others, scale ≠ '.' :: others := by
            rintro others rfl
            rcases scaled.head _ rfl with marker | marker <;> contradiction
          rw [read?_append digits.2 stops (splitFraction_eq_self noPoint),
            if_neg fun nothing => digits.1 nothing.1, read]
          rfl
      | pointed digits more =>
          rw [List.append_assoc, List.cons_append,
            read?_append digits.2 (by simp [StopsAt]) (splitFraction_point more stops),
            if_neg fun nothing => digits.1 nothing.1, read]
          rfl
      | fraction digits =>
          rw [← List.nil_append ('.' :: _), List.append_assoc, List.cons_append,
            read?_append (by simp) (by simp [StopsAt]) (splitFraction_point digits.2 stops),
            if_neg fun nothing => digits.1 nothing.2, read]
          rfl

theorem spells_of_read? {characters : List Char} {decimal : Decimal}
    (found : read? characters = some decimal) : SpellsDecimal characters decimal := by
  obtain ⟨whole, rest, rfl, digits, stops⟩ := exists_span Char.isDigit characters
  by_cases pointed : ∃ others, rest = '.' :: others
  · obtain ⟨others, rfl⟩ := pointed
    obtain ⟨fraction, scale, rfl, more, ends⟩ := exists_span Char.isDigit others
    rw [read?_append digits stops (splitFraction_point more ends)] at found
    split at found
    · contradiction
    · rename_i some
      obtain ⟨exponent, read, rfl⟩ := Option.map_eq_some_iff.mp found
      have scaled := readExponent?_eq_some_iff.mp read
      by_cases nothing : whole = []
      · subst nothing
        have fractionDigits : SpellsDigits fraction := ⟨fun empty => some ⟨rfl, empty⟩, more⟩
        have spelled := SpellsDecimal.scaled (.fraction fractionDigits) scaled
        exact spelled
      · rw [← List.cons_append, ← List.append_assoc]
        exact .scaled (.pointed ⟨nothing, digits⟩ more) scaled
  · have noPoint : ∀ others, rest ≠ '.' :: others := fun others shape => pointed ⟨others, shape⟩
    rw [read?_append digits stops (splitFraction_eq_self noPoint)] at found
    split at found
    · contradiction
    · rename_i some
      obtain ⟨exponent, read, rfl⟩ := Option.map_eq_some_iff.mp found
      have wholeDigits : SpellsDigits whole := ⟨fun empty => some ⟨empty, rfl⟩, digits⟩
      exact .scaled (.whole wholeDigits) (readExponent?_eq_some_iff.mp read)

theorem read?_eq_some_iff {characters : List Char} {decimal : Decimal} :
    read? characters = some decimal ↔ SpellsDecimal characters decimal :=
  ⟨spells_of_read?, read?_of_spells⟩

end Double.Decimal

end TagTemplate
