import TagTemplate.Proofs.Decoding
import TagTemplate.Proofs.WrittenTokens

/-!
Number literals that are written again. An integer or a finite double is read back as the same
number. A literal beyond the greatest double is read as an infinite one, whose text is a name.
-/

namespace TagTemplate

def Number.element : Number → Element
  | .integer number => .integer number
  | .double number => .double number

namespace Double

theorem Decimal.rank_le (decimal : Decimal) : decimal.rank ≤ infinityRank := by
  unfold rank
  split
  · exact Nat.zero_le _
  split
  · exact Nat.le_refl _
  split
  · exact Nat.zero_le _
  · exact Nat.min_le_right _ _

theorem text_infinity (negative : Bool) :
    text (ofRank negative infinityRank) = (if negative then "-" else "") ++ "Infinity" := by
  have within := Nat.le_refl infinityRank
  simp only [text, rank_ofRank within, isNegative_ofRank within, Nat.lt_irrefl, ↓reduceIte]

end Double

def infinityWord (negative : Bool) : Token.Kind :=
  if negative then .operator .subtract else .variable "Infinity"

theorem cut_infinityText (negative : Bool) {rest : List Char} (stopped : StartsBlank rest) :
    (LexMode.tag.cut ((Double.text (Double.ofRank negative Double.infinityRank)).toList ++
      rest)).outcome = .ok (infinityWord negative) := by
  have name := (cuts_variable isVariableName_infinity stopped).1
  rw [Double.text_infinity]
  cases negative with
  | false => simpa [infinityWord] using name
  | true =>
      have sign : LexMode.tag.Cuts ['-'] ("Infinity".toList ++ rest) (.operator .subtract) :=
        cuts_operator .subtract rfl
      simpa [infinityWord] using sign.1

theorem Double.eq_infinity_of_decodes {number : Double} {lexeme : String}
    (decodes : (Token.Kind.double number).Decodes lexeme) (infinite : ¬number.isFinite = true) :
    ∃ negative, number = ofRank negative infinityRank := by
  obtain ⟨-, negative, digits, decimal, rank, -, -, nearest, rfl⟩ := decodes
  rw [isFinite_iff, rank_ofRank nearest.within, Nat.not_lt] at infinite
  exact ⟨negative, by rw [Nat.le_antisymm nearest.within infinite]⟩

/-- A number that a literal denotes, written in a tag with a space behind it, is cut off as the
same number again, unless the literal was too great and its number is infinite. -/
theorem Number.cuts_text_iff {characters : List Char} {number : Number}
    (read : (LexMode.tag.cut characters).outcome = .ok number.kind) (others : List Char) :
    (LexMode.tag.Cuts number.element.text.toList (' ' :: others) number.kind ↔
      number.element.Finite) ∧
    (¬number.element.Finite → ∃ negative,
      number = .double (Double.ofRank negative Double.infinityRank) ∧
        (LexMode.tag.cut (number.element.text.toList ++ ' ' :: others)).outcome =
          .ok (infinityWord negative)) := by
  have stopped : StartsBlank (' ' :: others) := ⟨' ', others, rfl, rfl⟩
  cases number with
  | integer number => exact ⟨iff_of_true (cuts_integer number stopped) trivial, absurd trivial⟩
  | double number =>
      have overflow (infinite : ¬number.isFinite = true) : ∃ negative,
          number = Double.ofRank negative Double.infinityRank ∧
            (LexMode.tag.cut ((Double.text number).toList ++ ' ' :: others)).outcome =
              .ok (infinityWord negative) := by
        obtain ⟨negative, rfl⟩ :=
          Double.eq_infinity_of_decodes (LexMode.tag.scan_decodes _ _ read).2 infinite
        exact ⟨negative, rfl, cut_infinityText negative stopped⟩
      refine ⟨⟨fun cuts => ?_, fun finite => cuts_double finite stopped⟩, fun infinite => ?_⟩
      · by_contra infinite
        obtain ⟨negative, -, word⟩ := overflow infinite
        cases negative <;> cases word.symm.trans cuts.1
      · obtain ⟨negative, rfl, word⟩ := overflow infinite
        exact ⟨negative, rfl, word⟩

def Number.minusTenth : Number :=
  .double (Double.ofRank true (Double.Decimal.rank ⟨10, -2⟩))

theorem Number.cuts_text_minusTenth :
    (LexMode.tag.cut "-0.10 $\x7d".toList).outcome = .ok minusTenth.kind ∧
      LexMode.tag.Cuts minusTenth.element.text.toList " $\x7d".toList minusTenth.kind := by
  have read : (LexMode.tag.cut "-0.10 $\x7d".toList).outcome = .ok minusTenth.kind := rfl
  have finite : minusTenth.element.Finite := by
    refine (Double.isFinite_iff _).mpr ?_
    rw [Double.rank_ofRank (Double.Decimal.rank_le _)]
    decide +kernel
  exact ⟨read, (cuts_text_iff read ['$', '\x7d']).1.mpr finite⟩

theorem not_cuts_overflow :
    (LexMode.tag.cut "1e400 $\x7d".toList).outcome =
        .ok (.double (Double.ofRank false Double.infinityRank)) ∧
      ¬LexMode.tag.Cuts
        (Element.double (Double.ofRank false Double.infinityRank)).text.toList " $\x7d".toList
        (.double (Double.ofRank false Double.infinityRank)) := by
  refine ⟨rfl, fun cuts => ?_⟩
  have stopped : StartsBlank " $\x7d".toList := ⟨' ', _, rfl, rfl⟩
  cases (cut_infinityText false stopped).symm.trans cuts.1

end TagTemplate