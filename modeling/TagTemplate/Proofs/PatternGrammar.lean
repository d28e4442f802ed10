import TagTemplate.Builtin
import TagTemplate.Proofs.Lexemes

/-!
The grammar of decimal patterns. A pattern consists of a text, the places in front of the point,
perhaps a point with places behind it, and another text. Exactly the patterns of this form are
accepted, and each of them in one way only, so that the counts of places that are read off a pattern
are those of its parts.
-/

namespace TagTemplate

namespace DecimalPattern

/-- The texts around the places of a pattern, the places in front of the point, and those behind it
if there is a point. -/
structure Parts where
  before : List Char
  integer : List Char
  fraction : Option (List Char)
  behind : List Char

namespace Parts

def places (parts : Parts) : List Char :=
  parts.fraction.getD []

def body (parts : Parts) : List Char :=
  match parts.fraction with
  | none => parts.integer
  | some places => parts.integer ++ '.' :: places

def text (parts : Parts) : List Char :=
  parts.before ++ (parts.body ++ parts.behind)

structure WellFormed (parts : Parts) : Prop where
  literal : ∀ character ∈ parts.before ++ parts.behind,
    character ∉ ['0', '#', ',', '.', ';', '\'', 'E']
  integer : ∀ character ∈ parts.integer, character ∈ ['0', '#', ',']
  grouped : parts.integer.getLast? ≠ some ','
  fraction : ∀ character ∈ parts.places, character ∈ ['0', '#']
  placed : ∃ character ∈ parts.integer ++ parts.places, character ∈ ['0', '#']

inductive Groups : List Char → Option Nat → Prop
  | whole {integer} : ',' ∉ integer → Groups integer none
  | grouped {front group} : ',' ∉ group → Groups (front ++ ',' :: group) (some group.length)

structure Describes (parts : Parts) (pattern : DecimalPattern) : Prop where
  before : pattern.before = parts.before
  behind : pattern.behind = parts.behind
  minInteger : pattern.minInteger = parts.integer.count '0'
  groupSize : Groups parts.integer pattern.groupSize
  minFraction : pattern.minFraction = parts.places.count '0'
  maxFraction : pattern.maxFraction = parts.places.length
  percent : pattern.percent = true ↔ '%' ∈ parts.before ∨ '%' ∈ parts.behind

def ofChars (pattern : List Char) : Parts :=
  let others := pattern.dropWhile (!isPatternCharacter ·)
  let body := others.takeWhile isPatternCharacter
  { before := pattern.takeWhile (!isPatternCharacter ·)
    integer := body.takeWhile (· ≠ '.')
    fraction := (body.dropWhile (· ≠ '.')).tail?
    behind := others.dropWhile isPatternCharacter }

end Parts

theorem isPlaceholder_iff {character : Char} :
    isPlaceholder character = true ↔ character ∈ ['0', '#'] := by
  simp [isPlaceholder]

theorem isPatternCharacter_iff {character : Char} :
    isPatternCharacter character = true ↔ character ∈ ['0', '#', ',', '.'] := by
  simp [isPatternCharacter, isPlaceholder, or_assoc]

theorem isReserved_iff {character : Char} :
    isReserved character = true ↔ character ∈ ['0', '#', ',', '.', ';', '\'', 'E'] := by
  simp [isReserved, isPatternCharacter, isPlaceholder, or_assoc]

theorem isPatternCharacter_of_isPlaceholder {character : Char}
    (placeholder : isPlaceholder character = true) : isPatternCharacter character = true := by
  simp [isPatternCharacter, placeholder]

theorem isReserved_of_isPatternCharacter {character : Char}
    (inPattern : isPatternCharacter character = true) : isReserved character = true := by
  simp [isReserved, inPattern]

namespace Parts

theorem body_ofChars (pattern : List Char) :
    (ofChars pattern).body =
      (pattern.dropWhile (!isPatternCharacter ·)).takeWhile isPatternCharacter := by
  generalize run : (pattern.dropWhile (!isPatternCharacter ·)).takeWhile isPatternCharacter = body
  have whole := List.takeWhile_append_dropWhile (p := (· ≠ '.')) (l := body)
  have closing := List.head?_dropWhile_not (· ≠ '.') body
  simp only [ofChars, Parts.body, run]
  cases rest : body.dropWhile (· ≠ '.') with
  | nil =>
      rw [rest, List.append_nil] at whole
      exact whole
  | cons point fraction =>
      rw [rest] at whole closing
      have isPoint : point = '.' := by simpa using closing
      rw [isPoint] at whole
      exact whole

theorem text_ofChars (pattern : List Char) : (ofChars pattern).text = pattern := by
  rw [text, body_ofChars]
  simp only [ofChars, List.takeWhile_append_dropWhile]

variable {parts : Parts}

theorem WellFormed.isPatternCharacter_of_mem_integer (wellFormed : parts.WellFormed) :
    ∀ character ∈ parts.integer, isPatternCharacter character = true ∧ character ≠ '.' := by
  intro character member
  have place := wellFormed.integer character member
  simp only [List.mem_cons, List.not_mem_nil, or_false] at place
  rcases place with rfl | rfl | rfl <;> decide

theorem WellFormed.isPatternCharacter_of_mem_body (wellFormed : parts.WellFormed) :
    ∀ character ∈ parts.body, isPatternCharacter character = true := by
  intro character member
  have places := wellFormed.fraction
  cases fraction : parts.fraction with
  | none =>
      rw [body, fraction] at member
      exact (wellFormed.isPatternCharacter_of_mem_integer character member).1
  | some digits =>
      rw [Parts.places, fraction] at places
      rw [body, fraction, List.mem_append, List.mem_cons] at member
      rcases member with inInteger | rfl | inFraction
      · exact (wellFormed.isPatternCharacter_of_mem_integer character inInteger).1
      · rfl
      · exact isPatternCharacter_of_isPlaceholder
          (isPlaceholder_iff.mpr (places character inFraction))

theorem WellFormed.body_ne_nil (wellFormed : parts.WellFormed) : parts.body ≠ [] := by
  obtain ⟨character, member, -⟩ := wellFormed.placed
  intro empty
  cases fraction : parts.fraction with
  | none =>
      rw [body, fraction] at empty
      simp [Parts.places, fraction, empty] at member
  | some digits =>
      rw [body, fraction] at empty
      simp at empty

theorem WellFormed.isPatternCharacter_of_literal (wellFormed : parts.WellFormed) :
    ∀ character ∈ parts.before ++ parts.behind, isPatternCharacter character = false := by
  intro character member
  have unreserved := wellFormed.literal character member
  rw [← isReserved_iff] at unreserved
  exact Bool.eq_false_iff.mpr fun inPattern =>
    unreserved (isReserved_of_isPatternCharacter inPattern)

theorem WellFormed.split_body (wellFormed : parts.WellFormed) :
    parts.body.takeWhile (· ≠ '.') = parts.integer ∧
      (parts.body.dropWhile (· ≠ '.')).tail? = parts.fraction := by
  have noPoint : ∀ character ∈ parts.integer, decide (character ≠ '.') = true :=
    fun character member =>
      decide_eq_true (wellFormed.isPatternCharacter_of_mem_integer character member).2
  cases fraction : parts.fraction with
  | none =>
      obtain ⟨taken, dropped⟩ := span_append (· ≠ '.') parts.integer [] noPoint (by simp [StopsAt])
      rw [List.append_nil] at taken dropped
      rw [body, fraction]
      exact ⟨taken, by rw [dropped]; rfl⟩
  | some digits =>
      obtain ⟨taken, dropped⟩ :=
        span_append (· ≠ '.') parts.integer ('.' :: digits) noPoint (by simp [StopsAt])
      rw [body, fraction]
      exact ⟨taken, by rw [dropped]; rfl⟩

theorem WellFormed.ofChars_text (wellFormed : parts.WellFormed) : ofChars parts.text = parts := by
  have literal := wellFormed.isPatternCharacter_of_literal
  obtain ⟨first, others, shape⟩ := List.exists_cons_of_ne_nil wellFormed.body_ne_nil
  have inBody := wellFormed.isPatternCharacter_of_mem_body
  have startsBody : StopsAt (!isPatternCharacter ·) (parts.body ++ parts.behind) := by
    intro head ahead
    rw [shape, List.cons_append, List.head?_cons, Option.mem_some_iff] at ahead
    simp [inBody head (by simp [shape, ahead])]
  have endsBody : StopsAt isPatternCharacter parts.behind := fun head ahead =>
    literal head (List.mem_append_right _ (List.mem_of_mem_head? ahead))
  obtain ⟨before, others⟩ := span_append (!isPatternCharacter ·) parts.before _
    (fun character member => by simp [literal character (List.mem_append_left _ member)]) startsBody
  obtain ⟨body, behind⟩ := span_append isPatternCharacter parts.body parts.behind inBody endsBody
  obtain ⟨integer, fraction⟩ := wellFormed.split_body
  simp only [ofChars, text, before, others, body, behind, integer, fraction]

theorem exists_last_comma {integer : List Char} (comma : ',' ∈ integer) :
    ∃ front group, integer = front ++ ',' :: group ∧ ',' ∉ group := by
  obtain ⟨group, front, shape, last⟩ := List.eq_append_cons_of_mem (List.mem_reverse.mpr comma)
  refine ⟨front.reverse, group.reverse, ?_, by simpa using last⟩
  simpa using congrArg List.reverse shape

theorem placesBehindComma_append {group : List Char} (front : List Char) (last : ',' ∉ group) :
    placesBehindComma (front ++ ',' :: group) = some group.length := by
  have passes : ∀ character ∈ group.reverse, decide (character ≠ ',') = true :=
    fun character member => decide_eq_true fun comma => last (comma ▸ List.mem_reverse.mp member)
  obtain ⟨taken, -⟩ := span_append (· ≠ ',') group.reverse (',' :: front.reverse) passes
    (by simp [StopsAt])
  have reversed : (front ++ ',' :: group).reverse = group.reverse ++ ',' :: front.reverse := by simp
  rw [placesBehindComma, if_pos (by simp), reversed, taken, List.length_reverse]

theorem placesBehindComma_eq_iff {integer : List Char} {size : Option Nat} :
    placesBehindComma integer = size ↔ Groups integer size := by
  constructor
  · rintro rfl
    by_cases comma : ',' ∈ integer
    · obtain ⟨front, group, rfl, last⟩ := exists_last_comma comma
      rw [placesBehindComma_append front last]
      exact .grouped last
    · rw [placesBehindComma, if_neg (by simpa using comma)]
      exact .whole comma
  · intro groups
    cases groups with
    | whole noComma => rw [placesBehindComma, if_neg (by simpa using noComma)]
    | grouped last => exact placesBehindComma_append _ last

theorem placesBehindComma_eq_some_zero_iff {integer : List Char} :
    placesBehindComma integer = some 0 ↔ integer.getLast? = some ',' := by
  by_cases comma : ',' ∈ integer
  · obtain ⟨front, group, rfl, last⟩ := exists_last_comma comma
    rw [placesBehindComma_append front last, List.getLast?_append_cons]
    cases group with
    | nil => simp
    | cons first others =>
        have differs : (first :: others).getLast? ≠ some ',' :=
          fun found => last (List.mem_of_getLast? found)
        simpa using differs
  · rw [placesBehindComma, if_neg (by simpa using comma)]
    constructor
    · intro none
      contradiction
    · intro found
      exact absurd (List.mem_of_getLast? found) comma

def pattern (parts : Parts) : DecimalPattern :=
  { before := parts.before
    behind := parts.behind
    minInteger := parts.integer.count '0'
    groupSize := placesBehindComma parts.integer
    minFraction := parts.places.count '0'
    maxFraction := parts.places.length
    percent := (parts.before ++ parts.behind).contains '%' }

theorem describes_iff {described : DecimalPattern} :
    parts.Describes described ↔ parts.pattern = described := by
  constructor
  · intro describes
    have percentage : (parts.before ++ parts.behind).contains '%' = described.percent := by
      rw [Bool.eq_iff_iff, describes.percent]
      simp
    cases described
    simp only [pattern, DecimalPattern.mk.injEq]
    exact ⟨describes.before.symm, describes.behind.symm, describes.minInteger.symm,
      placesBehindComma_eq_iff.mpr describes.groupSize, describes.minFraction.symm,
      describes.maxFraction.symm, percentage⟩
  · rintro rfl
    exact ⟨rfl, rfl, rfl, placesBehindComma_eq_iff.mp rfl, rfl, rfl, by simp [pattern]⟩

theorem ofParts?_eq_some_iff {described : DecimalPattern}
    (integer : ∀ character ∈ parts.integer, character ∈ ['0', '#', ',']) :
    ofParts? parts.before parts.integer parts.places parts.behind = some described ↔
      parts.WellFormed ∧ parts.Describes described := by
  have accepted : parts.WellFormed ↔
      ((((∀ character ∈ parts.before ++ parts.behind, ¬isReserved character = true) ∧
        ∀ character ∈ parts.places, isPlaceholder character = true) ∧
        ∃ character ∈ parts.integer ++ parts.places, isPlaceholder character = true) ∧
        ¬placesBehindComma parts.integer = some 0) := by
    simp only [isReserved_iff, isPlaceholder_iff, placesBehindComma_eq_some_zero_iff]
    constructor
    · rintro ⟨literal, -, grouped, fraction, placed⟩
      exact ⟨⟨⟨literal, fraction⟩, placed⟩, grouped⟩
    · rintro ⟨⟨⟨literal, fraction⟩, placed⟩, grouped⟩
      exact ⟨literal, integer, grouped, fraction, placed⟩
  rw [describes_iff, accepted]
  simp only [ofParts?, Option.ite_none_left_eq_some, Bool.or_eq_true, not_or, Bool.not_eq_true',
    Bool.not_eq_false, List.any_eq_true, List.all_eq_true, beq_iff_eq, not_exists, not_and,
    Option.some.injEq, pattern]

end Parts

theorem Parts.places_ofChars (pattern : List Char) :
    (ofChars pattern).places =
      (((pattern.dropWhile (!isPatternCharacter ·)).takeWhile isPatternCharacter).dropWhile
        (· ≠ '.')).drop 1 := by
  rw [places, ofChars, ← List.tail_eq_tail?, List.drop_one]

theorem Parts.mem_integer_ofChars (pattern : List Char) :
    ∀ character ∈ (ofChars pattern).integer, character ∈ ['0', '#', ','] := by
  intro character member
  have noPoint : character ≠ '.' := of_decide_eq_true (passes_of_mem_takeWhile character member)
  have inPattern := passes_of_mem_takeWhile character ((List.takeWhile_sublist _).subset member)
  rw [isPatternCharacter_iff] at inPattern
  simp only [List.mem_cons, List.not_mem_nil, or_false] at inPattern ⊢
  tauto

theorem ofChars?_eq_some_iff {pattern : List Char} {parsed : DecimalPattern} :
    ofChars? pattern = some parsed ↔
      ∃ parts : Parts, pattern = parts.text ∧ parts.WellFormed ∧ parts.Describes parsed := by
  have read : ofChars? pattern = ofParts? (Parts.ofChars pattern).before
      (Parts.ofChars pattern).integer (Parts.ofChars pattern).places
      (Parts.ofChars pattern).behind := by
    rw [Parts.places_ofChars]
    rfl
  rw [read, Parts.ofParts?_eq_some_iff (Parts.mem_integer_ofChars pattern)]
  constructor
  · rintro ⟨wellFormed, describes⟩
    exact ⟨_, (Parts.text_ofChars pattern).symm, wellFormed, describes⟩
  · rintro ⟨parts, rfl, wellFormed, describes⟩
    rw [wellFormed.ofChars_text]
    exact ⟨wellFormed, describes⟩

end DecimalPattern

theorem formatDecimal?_eq_none {pattern : String}
    (refused : DecimalPattern.ofChars? pattern.toList = none) (number : Double) :
    formatDecimal? pattern number = none := by
  rw [formatDecimal?, refused, Option.map_none]

theorem Builtin.run_formatDecimal {pattern operand : Value} {number : Number}
    (denotes : operand.toNumber = .ok number) (below : List Value) (context : Context) :
    Builtin.formatDecimal.run (pattern :: operand :: below) context =
      match formatDecimal? pattern.text number.toDouble with
      | some text => EchoState.done (.string text :: below) context
      | none => EchoState.failed (.invalidPattern pattern.text) below context := by
  have converted : operand.toDouble = .ok number.toDouble := by
    rw [Value.toDouble, denotes]
    rfl
  cases shown : formatDecimal? pattern.text number.toDouble <;>
    simp only [run, converted, shown]

namespace DecimalPattern

theorem Parts.WellFormed.ofChars?_text {parts : Parts} (wellFormed : parts.WellFormed) :
    ofChars? parts.text = some parts.pattern :=
  ofChars?_eq_some_iff.mpr ⟨parts, rfl, wellFormed, Parts.describes_iff.mpr rfl⟩

/-- A text is accepted as a pattern exactly if it can be made up of well-formed parts. The parts are
then determined, and the pattern is the one that they describe. With any other text in place of a
pattern no number can be formatted, and the error names the text. -/
theorem ofChars?_follows_grammar (text : String) :
    ((∃ parsed, ofChars? text.toList = some parsed) ↔
      ∃ parts : Parts, parts.WellFormed ∧ parts.text = text.toList) ∧
    (∀ parts : Parts, parts.WellFormed → parts.text = text.toList →
      (∀ other : Parts, other.WellFormed → other.text = text.toList → other = parts) ∧
      ∃ parsed, ofChars? text.toList = some parsed ∧ parts.Describes parsed) ∧
    ((¬∃ parts : Parts, parts.WellFormed ∧ parts.text = text.toList) →
      ∀ pattern operand number below context, pattern.text = text →
        operand.toNumber = .ok number →
        Builtin.formatDecimal.run (pattern :: operand :: below) context =
          EchoState.failed (.invalidPattern text) below context) := by
  have accepted : (∃ parsed, ofChars? text.toList = some parsed) ↔
      ∃ parts : Parts, parts.WellFormed ∧ parts.text = text.toList := by
    constructor
    · rintro ⟨parsed, found⟩
      obtain ⟨parts, shape, wellFormed, -⟩ := ofChars?_eq_some_iff.mp found
      exact ⟨parts, wellFormed, shape.symm⟩
    · rintro ⟨parts, wellFormed, shape⟩
      exact ⟨parts.pattern, shape ▸ wellFormed.ofChars?_text⟩
  refine ⟨accepted, ?_, ?_⟩
  · intro parts wellFormed shape
    constructor
    · intro other otherWellFormed otherShape
      rw [← wellFormed.ofChars_text, ← otherWellFormed.ofChars_text, shape, otherShape]
    · exact ⟨parts.pattern, shape ▸ wellFormed.ofChars?_text, Parts.describes_iff.mpr rfl⟩
  · rintro noParts pattern operand number below context rfl denotes
    have refused : ofChars? pattern.text.toList = none :=
      Option.eq_none_iff_forall_ne_some.mpr fun parsed found =>
        noParts (accepted.mp ⟨parsed, found⟩)
    rw [Builtin.run_formatDecimal denotes, formatDecimal?_eq_none refused]

/-- The places of a pattern are not taken up again behind other text. -/
example : ofChars? "0 x#".toList = none := by
  decide

end DecimalPattern

end TagTemplate
