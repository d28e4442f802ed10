import TagTemplate.Proofs.Double.DecimalPlaces
import TagTemplate.Proofs.Double.ExactValue
import TagTemplate.Proofs.PatternGrammar

/-!
Numbers written by a pattern. The digits that show are those of the exact value, rounded to the
places that the pattern has. Leading and trailing zeros show only where the pattern asks for a
digit, and commas stand in front of every full group of digits that has a digit before it.
-/

namespace TagTemplate.DecimalPattern

theorem head?_dropWhile_zeros (digits : List Char) :
    (digits.dropWhile (· == '0')).head? ≠ some '0' := by
  have closing := List.head?_dropWhile_not (· == '0') digits
  intro zero
  rw [zero] at closing
  contradiction

section Fraction

variable (minimum : Nat) (digits : List Char)

theorem trimFraction_eq :
    trimFraction minimum digits =
      digits.take minimum ++ Double.dropTrailingZeros (digits.drop minimum) :=
  rfl

theorem trimFraction_append :
    ∃ zeros, digits = trimFraction minimum digits ++ List.replicate zeros '0' := by
  obtain ⟨zeros, shape⟩ := Double.dropTrailingZeros_append (digits.drop minimum)
  refine ⟨zeros, ?_⟩
  rw [trimFraction_eq, List.append_assoc, ← shape, List.take_append_drop]

theorem le_length_trimFraction (enough : minimum ≤ digits.length) :
    minimum ≤ (trimFraction minimum digits).length := by
  rw [trimFraction_eq, List.length_append, List.length_take]
  omega

theorem getLast?_dropTrailingZeros :
    (Double.dropTrailingZeros digits).getLast? ≠ some '0' := by
  rw [Double.dropTrailingZeros, List.getLast?_reverse]
  exact head?_dropWhile_zeros _

theorem getLast?_trimFraction (more : minimum < (trimFraction minimum digits).length) :
    (trimFraction minimum digits).getLast? ≠ some '0' := by
  have kept : Double.dropTrailingZeros (digits.drop minimum) ≠ [] := by
    intro nothing
    rw [trimFraction_eq, nothing, List.append_nil, List.length_take] at more
    omega
  rw [trimFraction_eq, List.getLast?_append_of_ne_nil _ kept]
  exact getLast?_dropTrailingZeros _

end Fraction

section Integer

variable (minimum : Nat) (digits : List Char)

theorem dropWhile_zeros_append :
    ∃ zeros, digits = List.replicate zeros '0' ++ digits.dropWhile (· == '0') := by
  have whole := List.takeWhile_append_dropWhile (p := (· == '0')) (l := digits)
  have zeros : digits.takeWhile (· == '0') =
      List.replicate (digits.takeWhile (· == '0')).length '0' :=
    List.eq_replicate_iff.mpr ⟨rfl, fun digit member =>
      beq_iff_eq.mp (passes_of_mem_takeWhile digit member)⟩
  rw [zeros] at whole
  exact ⟨_, whole.symm⟩

theorem value_padInteger_append (fraction : List Char) :
    Digits.value (padInteger minimum digits ++ fraction) = Digits.value (digits ++ fraction) := by
  obtain ⟨zeros, shape⟩ := dropWhile_zeros_append digits
  have right := Digits.value_zeros_append zeros (digits.dropWhile (· == '0') ++ fraction)
  rw [← List.append_assoc, ← shape] at right
  rw [padInteger, Double.padLeft, List.append_assoc, Digits.value_zeros_append, right]

theorem le_length_padInteger : minimum ≤ (padInteger minimum digits).length := by
  rw [padInteger, Double.length_padLeft]
  omega

theorem head?_padInteger (more : minimum < (padInteger minimum digits).length) :
    (padInteger minimum digits).head? ≠ some '0' := by
  rw [padInteger, Double.length_padLeft] at more
  have unpadded : minimum - (digits.dropWhile (· == '0')).length = 0 := by omega
  rw [padInteger, Double.padLeft, unpadded, List.replicate_zero, List.nil_append]
  exact head?_dropWhile_zeros digits

theorem isDigit_of_mem_padInteger (allDigits : ∀ digit ∈ digits, digit.isDigit = true) :
    ∀ digit ∈ padInteger minimum digits, digit.isDigit = true :=
  Double.isDigit_of_mem_padLeft fun digit member =>
    allDigits digit ((List.dropWhile_sublist _).subset member)

end Integer

section Grouping

def digitCount (text : List Char) : Nat :=
  text.countP (· ≠ ',')

def EndsInDigit (text : List Char) : Prop :=
  ∃ digit ∈ text.getLast?, digit ≠ ','

/-- The digits of a number with commas between them. At each place of it a comma follows exactly if
a digit stands in front and a positive multiple of the group size is left. -/
structure IsGrouping (size : Option Nat) (integer grouped : List Char) : Prop where
  digits : grouped.filter (· ≠ ',') = integer
  commas : ∀ left right, grouped = left ++ right →
    (right.head? = some ',' ↔
      EndsInDigit left ∧ ∃ count ∈ size, 0 < digitCount right ∧ count ∣ digitCount right)

theorem not_endsInDigit_nil : ¬EndsInDigit [] := by
  rintro ⟨digit, member, -⟩
  contradiction

theorem endsInDigit_singleton {character : Char} :
    EndsInDigit [character] ↔ character ≠ ',' := by
  simp [EndsInDigit]

theorem endsInDigit_cons_cons (first second : Char) (others : List Char) :
    EndsInDigit (first :: second :: others) ↔ EndsInDigit (second :: others) := by
  rw [EndsInDigit, EndsInDigit, List.getLast?_cons_cons]

variable {size : Nat} {digits : List Char}

theorem endsInDigit_comma_cons (others : List Char) :
    EndsInDigit (',' :: others) ↔ EndsInDigit others := by
  cases others with
  | nil => simp [endsInDigit_singleton, not_endsInDigit_nil]
  | cons first others => exact endsInDigit_cons_cons ',' first others

theorem filter_group (noComma : ',' ∉ digits) :
    (group size digits).filter (· ≠ ',') = digits := by
  induction digits with
  | nil => rfl
  | cons digit others ih =>
      obtain ⟨isDigit, noComma⟩ := List.ne_and_not_mem_of_not_mem_cons noComma
      have passes : decide (digit ≠ ',') = true := decide_eq_true isDigit.symm
      rw [group]
      split
      · rw [List.filter_cons, if_pos passes, List.filter_cons_of_neg (by simp), ih noComma]
      · rw [List.filter_cons, if_pos passes, ih noComma]

theorem digitCount_comma_cons (others : List Char) :
    digitCount (',' :: others) = digitCount others :=
  List.countP_cons_of_neg (by simp)

theorem digitCount_group (noComma : ',' ∉ digits) :
    digitCount (group size digits) = digits.length := by
  rw [digitCount, List.countP_eq_length_filter, filter_group noComma]

theorem head?_group : (group size digits).head? = digits.head? := by
  cases digits with
  | nil => rfl
  | cons digit others =>
      rw [group]
      split <;> rfl

theorem commas_group (noComma : ',' ∉ digits) :
    ∀ left right, group size digits = left ++ right →
      (right.head? = some ',' ↔
        EndsInDigit left ∧ 0 < digitCount right ∧ size ∣ digitCount right) := by
  induction digits with
  | nil =>
      intro left right shape
      obtain ⟨rfl, rfl⟩ := List.append_eq_nil_iff.mp shape.symm
      simp [not_endsInDigit_nil]
  | cons digit others ih =>
      obtain ⟨isDigit, noComma⟩ := List.ne_and_not_mem_of_not_mem_cons noComma
      have later := ih noComma
      have count : digitCount (group size others) = others.length := digitCount_group noComma
      intro left right shape
      -- The place is in front of the first digit, right behind it, behind its comma, or later.
      cases left with
      | nil =>
          have first : right.head? = some digit := by
            rw [← List.nil_append right, ← shape, head?_group, List.head?_cons]
          simp [first, isDigit.symm, not_endsInDigit_nil]
      | cons head left =>
          rw [group] at shape
          split at shape
          · rename_i ends
            obtain ⟨rfl, tail⟩ := List.cons_eq_cons.mp shape
            rcases List.cons_eq_append_iff.mp tail with ⟨rfl, rfl⟩ | ⟨left, rfl, rest⟩
            · rw [digitCount_comma_cons, count, endsInDigit_singleton, List.head?_cons]
              exact iff_of_true rfl ⟨isDigit.symm, Nat.pos_of_ne_zero ends.1,
                Nat.dvd_of_mod_eq_zero ends.2⟩
            · rw [endsInDigit_cons_cons, endsInDigit_comma_cons]
              exact later left right rest
          · rename_i continues
            obtain ⟨rfl, rest⟩ := List.cons_eq_cons.mp shape
            cases left with
            | nil =>
                obtain rfl : group size others = right := rest
                rw [head?_group, count]
                exact iff_of_false (fun comma => noComma (List.mem_of_head? comma)) fun full =>
                  continues ⟨full.2.1.ne', Nat.mod_eq_zero_of_dvd full.2.2⟩
            | cons next left =>
                rw [endsInDigit_cons_cons]
                exact later (next :: left) right rest

theorem isGrouping {size : Option Nat} (noComma : ',' ∉ digits) :
    IsGrouping size digits (match size with
      | some size => group size digits
      | none => digits) := by
  cases size with
  | some size =>
      constructor
      · exact filter_group noComma
      · simpa using commas_group noComma
  | none =>
      constructor
      · exact List.filter_eq_self.mpr fun digit member =>
          decide_eq_true fun comma => noComma (comma ▸ member)
      · rintro left right rfl
        have noEnd : right.head? ≠ some ',' := fun comma =>
          noComma (List.mem_append_right left (List.mem_of_head? comma))
        simp [noEnd]

end Grouping

section Digits

def decimalValue (integer fraction : List Char) : ℚ :=
  Digits.value (integer ++ fraction) / 10 ^ fraction.length

/-- The digits by which a pattern writes an amount. A zero that the pattern does not ask for shows
at neither end, unless there is no other digit. -/
structure Shows (pattern : DecimalPattern) (amount : ℚ) (integer fraction : List Char) : Prop where
  digits : ∀ digit ∈ integer ++ fraction, digit.isDigit = true
  value : ∃ steps, Double.RoundsToEven (amount * 10 ^ pattern.maxFraction) steps ∧
    decimalValue integer fraction = steps / 10 ^ pattern.maxFraction
  minFraction : pattern.minFraction ≤ fraction.length
  maxFraction : fraction.length ≤ pattern.maxFraction
  trailing : pattern.minFraction < fraction.length → fraction.getLast? ≠ some '0'
  minInteger : pattern.minInteger ≤ integer.length
  leading : pattern.minInteger < integer.length →
    integer.head? ≠ some '0' ∨ pattern.minInteger = 0 ∧ integer = ['0'] ∧ fraction = []
  nonempty : integer ≠ [] ∨ fraction ≠ []

theorem decimalValue_zeros (integer fraction : List Char) (zeros : Nat) :
    decimalValue integer (fraction ++ List.replicate zeros '0') =
      decimalValue integer fraction := by
  have power : (10 : ℚ) ^ zeros ≠ 0 := by positivity
  rw [decimalValue, decimalValue, ← List.append_assoc, Digits.value_append_zeros,
    List.length_append, List.length_replicate, pow_add]
  push_cast
  exact mul_div_mul_right _ _ power

theorem decimalValue_trimFraction (minimum : Nat) (integer fraction : List Char) :
    decimalValue integer (trimFraction minimum fraction) = decimalValue integer fraction := by
  obtain ⟨zeros, shape⟩ := trimFraction_append minimum fraction
  conv_rhs => rw [shape]
  rw [decimalValue_zeros]

theorem decimalValue_padInteger (minimum : Nat) (integer fraction : List Char) :
    decimalValue (padInteger minimum integer) fraction = decimalValue integer fraction := by
  rw [decimalValue, value_padInteger_append, decimalValue]

theorem isDigit_of_mem_trimFraction {minimum : Nat} {digits : List Char}
    (allDigits : ∀ digit ∈ digits, digit.isDigit = true) :
    ∀ digit ∈ trimFraction minimum digits, digit.isDigit = true := by
  obtain ⟨zeros, shape⟩ := trimFraction_append minimum digits
  intro digit member
  exact allDigits digit (shape ▸ List.mem_append_left _ member)

variable {pattern : DecimalPattern} {amount : ℚ} {whole places : List Char}

theorem shows_padded (minimum : pattern.minFraction ≤ pattern.maxFraction)
    (length : places.length = pattern.maxFraction)
    (allDigits : ∀ digit ∈ whole ++ places, digit.isDigit = true)
    (nearest : Double.RoundsToEven (amount * 10 ^ pattern.maxFraction)
      (Digits.value (whole ++ places))) :
    let padded := padInteger pattern.minInteger whole
    let fraction := trimFraction pattern.minFraction places
    Shows pattern amount (if padded.isEmpty && fraction.isEmpty then ['0'] else padded)
      fraction := by
  intro padded fraction
  have digits : ∀ digit ∈ padded ++ fraction, digit.isDigit = true := by
    rw [List.forall_mem_append] at allDigits ⊢
    exact ⟨isDigit_of_mem_padInteger _ _ allDigits.1, isDigit_of_mem_trimFraction allDigits.2⟩
  have value : decimalValue padded fraction =
      Digits.value (whole ++ places) / 10 ^ pattern.maxFraction := by
    rw [decimalValue_padInteger, decimalValue_trimFraction, decimalValue, length]
  have within : fraction.length ≤ pattern.maxFraction := by
    obtain ⟨zeros, shape⟩ := trimFraction_append pattern.minFraction places
    rw [← length, shape, List.length_append]
    exact Nat.le_add_right _ _
  have atLeast : pattern.minFraction ≤ fraction.length :=
    le_length_trimFraction _ _ (length ▸ minimum)
  have trailing := getLast?_trimFraction pattern.minFraction places
  have integer := le_length_padInteger pattern.minInteger whole
  split
  · rename_i nothing
    obtain ⟨noInteger, noFraction⟩ : padded = [] ∧ fraction = [] := by simpa using nothing
    have optional : pattern.minInteger = 0 := by simpa [padded, noInteger] using integer
    rw [noInteger, noFraction] at value
    exact
      { digits := by simp [noFraction]
        value := ⟨_, nearest, by rw [noFraction, ← value]; rfl⟩
        minFraction := atLeast
        maxFraction := within
        trailing
        minInteger := by simp [optional]
        leading := fun _ => Or.inr ⟨optional, rfl, noFraction⟩
        nonempty := Or.inl (List.cons_ne_nil _ _) }
  · rename_i something
    exact
      { digits
        value := ⟨_, nearest, value⟩
        minFraction := atLeast
        maxFraction := within
        trailing
        minInteger := integer
        leading := fun more => Or.inl (head?_padInteger _ _ more)
        nonempty := or_iff_not_imp_left.mpr (by simpa using something) }

theorem ne_comma_of_isDigit {digit : Char} (isDigit : digit.isDigit = true) : digit ≠ ',' := by
  rintro rfl
  contradiction

theorem exists_digits (minimum : pattern.minFraction ≤ pattern.maxFraction) (rank : Nat) :
    ∃ integer fraction grouped, Shows pattern (Double.valueAt rank) integer fraction ∧
      IsGrouping pattern.groupSize integer grouped ∧
      pattern.digits rank = grouped ++ if fraction = [] then [] else '.' :: fraction := by
  obtain ⟨whole, places, _, rounded, length, allDigits, rfl, nearest⟩ :=
    Double.exists_rounded rank pattern.maxFraction
  have shows := shows_padded minimum length allDigits nearest
  rw [digits, rounded]
  dsimp only at shows ⊢
  generalize trimFraction pattern.minFraction places = fraction at shows ⊢
  refine ⟨_, fraction, _, shows, isGrouping fun comma => ?_, ?_⟩
  · exact ne_comma_of_isDigit (shows.digits ',' (List.mem_append_left _ comma)) rfl
  · cases fraction with
    | nil => exact (List.append_nil _).symm
    | cons first others => rfl

end Digits

section Format

variable (pattern : DecimalPattern) (number : Double)

def scaled : Double :=
  if pattern.percent then number.multiply (.ofInt 100) else number

variable {pattern number}

theorem format_of_isFinite (finite : (pattern.scaled number).isFinite = true) :
    pattern.format number = String.ofList
      ((if Double.exactValue (pattern.scaled number) < 0 then ['-'] else []) ++ pattern.before ++
        pattern.digits (Double.rank (pattern.scaled number)) ++ pattern.behind) := by
  have within := (Double.isFinite_iff _).mp finite
  have negative := Double.isBelowZero_iff finite
  rw [scaled] at within negative ⊢
  simp only [format, negative, if_neg within.not_gt, if_neg within.ne]

theorem Parts.Describes.minFraction_le {parts : Parts} (describes : parts.Describes pattern) :
    pattern.minFraction ≤ pattern.maxFraction := by
  rw [describes.minFraction, describes.maxFraction]
  exact List.count_le_length

theorem Parts.WellFormed.groupSize_pos {parts : Parts} (wellFormed : parts.WellFormed)
    (describes : parts.Describes pattern) : ∀ size ∈ pattern.groupSize, 0 < size := by
  intro size member
  rcases Nat.eq_zero_or_pos size with rfl | positive
  · have groups := placesBehindComma_eq_iff.mpr describes.groupSize
    rw [Option.mem_def.mp member, placesBehindComma_eq_some_zero_iff] at groups
    exact absurd groups wellFormed.grouped
  · exact positive

end Format

/-- An accepted pattern writes a number by the digits of its exact value, with a sign in front if
that is less than zero. -/
theorem formatDecimal?_exact {pattern : String} {parsed : DecimalPattern} {number : Double}
    (accepted : ofChars? pattern.toList = some parsed)
    (finite : (parsed.scaled number).isFinite = true) :
    (∀ size ∈ parsed.groupSize, 0 < size) ∧
      ∃ integer fraction grouped,
        Shows parsed |Double.exactValue (parsed.scaled number)| integer fraction ∧
        IsGrouping parsed.groupSize integer grouped ∧
        formatDecimal? pattern number = some (String.ofList
          ((if Double.exactValue (parsed.scaled number) < 0 then ['-'] else []) ++
            parsed.before ++ (grouped ++ if fraction = [] then [] else '.' :: fraction) ++
            parsed.behind)) := by
  obtain ⟨parts, -, wellFormed, describes⟩ := ofChars?_eq_some_iff.mp accepted
  obtain ⟨integer, fraction, grouped, shows, grouping, digits⟩ :=
    exists_digits describes.minFraction_le (Double.rank (parsed.scaled number))
  rw [← Double.abs_exactValue finite] at shows
  refine ⟨wellFormed.groupSize_pos describes, integer, fraction, grouped, shows, grouping, ?_⟩
  rw [formatDecimal?, accepted, Option.map_some, format_of_isFinite finite, digits]

def minusNineEighths : Double :=
  .ofRank true 0x3FF2000000000000

theorem formatDecimal?_exact_tie :
    ∃ parsed, ofChars? "#,#0%".toList = some parsed ∧
      (parsed.scaled minusNineEighths).isFinite = true ∧
      formatDecimal? "#,#0%" minusNineEighths = some "-1,12%" ∧
      ∃ integer fraction grouped,
        Shows parsed |Double.exactValue (parsed.scaled minusNineEighths)| integer fraction ∧
        IsGrouping parsed.groupSize integer grouped ∧
        formatDecimal? "#,#0%" minusNineEighths = some (String.ofList
          ((if Double.exactValue (parsed.scaled minusNineEighths) < 0 then ['-'] else []) ++
            parsed.before ++ (grouped ++ if fraction = [] then [] else '.' :: fraction) ++
            parsed.behind)) := by
  have read : ofChars? "#,#0%".toList = some ⟨[], ['%'], 1, some 2, 0, 0, true⟩ := by decide
  have finite : (scaled ⟨[], ['%'], 1, some 2, 0, 0, true⟩ minusNineEighths).isFinite = true := by
    decide +kernel
  exact ⟨_, read, finite, by decide +kernel, (formatDecimal?_exact read finite).2⟩

end TagTemplate.DecimalPattern
