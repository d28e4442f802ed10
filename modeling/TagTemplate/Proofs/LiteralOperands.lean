import TagTemplate.Proofs.NumberTexts
import TagTemplate.Proofs.SourceTiling

/-!
Number literals as operands. Literals inside a tag and strings have readers of their own. A literal
stops at a blank or a dollar sign and has at most a minus sign in front, where a string may also
have margins, a plus sign and a type letter, or be a word. The string of a literal is the same
number.
-/

namespace TagTemplate

theorem spellsSign_of_negative (negative : Bool) :
    SpellsSign (if negative then ['-'] else []) negative := by
  cases negative with
  | false => exact .absent
  | true => exact .minus

theorem strips_self {characters : List Char}
    (plain : ∀ character ∈ characters, Number.IsPlain character) :
    Strips characters characters := by
  have trimmed := Number.trimMargins_eq_self fun character member =>
    Number.isMargin_of_isPlain (plain character member)
  have strips := strips_trimMargins characters
  rwa [trimmed] at strips

theorem Number.spells_of_decodes {number : Number} {lexeme : String}
    (decodes : number.kind.Decodes lexeme) : SpellsNumber lexeme.toList number := by
  cases number with
  | integer number => exact .integer decodes
  | double number =>
      obtain ⟨unspelled, negative, digits, decimal, rank, shape, spelled, nearest, rfl⟩ := decodes
      have signed := spellsSign_of_negative negative
      have whole : lexeme.toList = (if negative then ['-'] else []) ++ (digits ++ []) := by
        rw [shape, String.toList_append, String.toList_ofList, List.append_nil]
        cases negative <;> rfl
      have plain : ∀ character ∈ lexeme.toList, IsPlain character := by
        rw [whole, List.append_nil]
        exact List.forall_mem_append.mpr ⟨signed.plain, spelled.plain⟩
      refine .double unspelled (strips_self plain) ?_
      rw [whole]
      exact .signed signed (.numeral spelled .absent nearest)

/-- What the lexer takes for a number inside a tag is the same number as an operand: an integer or a
double alike, and a double with all its bits. -/
theorem Value.toNumber_literal {lexeme rest : List Char} {number : Number}
    (takes : LexMode.tag.Takes lexeme rest number.kind) :
    (string (String.ofList lexeme)).toNumber = .ok number := by
  have spelled := Number.spells_of_decodes takes.decodes
  rw [toNumber, Number.ofText?_eq_some_iff.mpr spelled]

theorem Value.toNumber_literal_negativeZero :
    LexMode.tag.Takes "-0.0".toList " $\x7d".toList (.double (Double.ofRank true 0)) ∧
      (string "-0.0").toNumber = .ok (.double (Double.ofRank true 0)) := by
  have takes : LexMode.tag.Takes "-0.0".toList " $\x7d".toList
      (Number.double (Double.ofRank true 0)).kind := by
    rfl
  exact ⟨takes, toNumber_literal takes⟩

end TagTemplate
