import TagTemplate.Proofs.LineBreak
import TagTemplate.Proofs.NumberGrammar
import TagTemplate.Token.Lexer

/-!
What tokens stand for. Every token that the lexer cuts off is the decoding of its own lexeme, and
nothing is passed over in front of the lexeme.
-/

namespace TagTemplate

/-- The lexemes that a token may have been read from. -/
def Token.Kind.Decodes (lexeme : String) : Kind → Prop
  | .startTag => lexeme = "\x7b$"
  | .endTag => lexeme = "$\x7d"
  | .loopWord => lexeme = "FOR"
  | .endWord => lexeme = "END"
  | .tagName => lexeme = "="
  | .text content => lexeme = content
  | .variable name => lexeme = name
  | .function name => lexeme = "@" ++ name
  | .string content => ∃ body, '"' ∉ body ∧ lexeme = "\"" ++ String.ofList body ++ "\"" ∧
      Text.ReplacesLineBreaks body content.toList
  | .integer number => SpellsInteger lexeme.toList number.toInt
  | .double number => (∀ integer : Int64, ¬SpellsInteger lexeme.toList integer.toInt) ∧
      ∃ negative digits decimal rank,
        lexeme = (if negative then "-" else "") ++ String.ofList digits ∧
        SpellsDecimal digits decimal ∧ Double.Nearest decimal.amount rank ∧
        number = Double.ofRank negative rank
  | .operator symbol => lexeme = symbol.text
  | .endOfInput => lexeme = ""

theorem Operator.symbol_of_ofChar? {character : Char} {operator : Operator}
    (found : ofChar? character = some operator) : operator.symbol = character := by
  unfold ofChar? at found
  split at found <;> cases found <;> rfl

namespace Scan

def Decodes (scan : Scan) : Prop :=
  ∀ kind, scan.outcome = .ok kind → scan.passed = [] ∧ kind.Decodes (String.ofList scan.lexeme)

theorem decodes_token {lexeme rest : List Char} {kind : Token.Kind} {switch : Option LexMode}
    (decodes : kind.Decodes (String.ofList lexeme)) :
    Decodes ⟨[], lexeme, rest, .ok kind, switch⟩ := by
  rintro _ ⟨⟩
  exact ⟨rfl, decodes⟩

theorem decodes_error {passed lexeme rest : List Char} {cause : LexError.Cause}
    {switch : Option LexMode} : Decodes ⟨passed, lexeme, rest, .error cause, switch⟩ := by
  rintro _ ⟨⟩

theorem ofText_decodes (characters : List Char) : (ofText characters).Decodes :=
  decodes_token rfl

theorem decodes_readDouble? {negative : Bool} {literal digits : List Char} {number : Double}
    (noInteger : Integer.read? literal = none)
    (signed : String.ofList literal = (if negative then "-" else "") ++ String.ofList digits)
    (read : (Number.readDouble? negative digits).map Number.double = some (.double number)) :
    (Token.Kind.double number).Decodes (String.ofList literal) := by
  obtain ⟨_, found, same⟩ := Option.map_eq_some_iff.mp read
  cases same
  obtain ⟨decimal, spelled, rfl⟩ := Option.map_eq_some_iff.mp found
  refine ⟨?_, negative, digits, decimal, decimal.rank, signed,
    Double.Decimal.read?_eq_some_iff.mp spelled, decimal.nearest_rank, rfl⟩
  rw [String.toList_ofList]
  exact Integer.read?_eq_none_iff.mp noInteger

theorem decodes_literal {literal : List Char} {number : Double}
    (read : Number.ofLiteral? literal = some (.double number)) :
    (Token.Kind.double number).Decodes (String.ofList literal) := by
  unfold Number.ofLiteral? at read
  split at read
  · simp at read
  · rename_i noInteger
    split at read
    · exact decodes_readDouble? noInteger String.ofList_cons read
    · exact decodes_readDouble? noInteger String.empty_append.symm read

theorem ofNumber_decodes (characters : List Char) : (ofNumber characters).Decodes := by
  simp only [ofNumber]
  split
  · rename_i number read
    refine decodes_token ?_
    unfold Number.ofLiteral? at read
    split at read
    · rename_i found
      cases read
      rw [Token.Kind.Decodes, String.toList_ofList]
      exact Integer.read?_eq_some_iff.mp found
    · split at read <;> simp at read
  · rename_i number read
    exact decodes_token (decodes_literal read)
  · exact decodes_error

theorem ofFunction_decodes (characters : List Char) : (ofFunction characters).Decodes := by
  simp only [ofFunction]
  split
  · exact decodes_error
  split
  · split
    · exact decodes_error
    · exact decodes_token String.ofList_cons
  · exact decodes_error

theorem ofString_decodes (characters : List Char) : (ofString characters).Decodes := by
  have unquoted : '"' ∉ characters.takeWhile (· ≠ '"') := by
    intro member
    simpa using List.all_eq_true.mp List.all_takeWhile _ member
  have closing := List.head?_dropWhile_not (· ≠ '"') characters
  simp only [ofString]
  split
  · exact decodes_error
  · rename_i quote others shape
    rw [shape] at closing
    have isQuote : quote = '"' := by simpa using closing
    refine decodes_token ⟨_, unquoted, ?_, ?_⟩
    · rw [isQuote]
      simp [String.ofList_cons, String.ofList_append, String.append_assoc]
    · rw [String.toList_ofList]
      exact Text.replaces_unescapeLineBreaks _

theorem ofVariable_decodes (characters : List Char) : (ofVariable characters).Decodes := by
  simp only [ofVariable]
  split
  · exact decodes_token rfl
  split
  · exact decodes_error
  · exact decodes_token rfl

theorem ofCharacter_decodes (first : Char) (others : List Char) :
    (ofCharacter first others).Decodes := by
  unfold ofCharacter
  split
  · rename_i sign
    rw [sign]
    exact decodes_token rfl
  split
  · exact ofNumber_decodes _
  split
  · exact ofFunction_decodes _
  split
  · exact ofString_decodes _
  split
  · exact ofNumber_decodes _
  split
  · exact ofVariable_decodes _
  split
  · rename_i operator found
    refine decodes_token ?_
    rw [Token.Kind.Decodes, Operator.text, Operator.symbol_of_ofChar? found]
    rfl
  · exact decodes_error

theorem ofTag_decodes (characters : List Char) : (ofTag characters).Decodes := by
  unfold ofTag
  split
  · exact decodes_token rfl
  · exact decodes_token rfl
  · exact decodes_token rfl
  · exact ofCharacter_decodes _ _
  · exact decodes_token rfl

end Scan

theorem LexMode.scan_decodes (mode : LexMode) (characters : List Char) :
    (mode.scan characters).Decodes := by
  unfold LexMode.scan
  split
  · exact Scan.decodes_token rfl
  · exact Scan.decodes_token rfl
  · cases mode with
    | text => exact Scan.ofText_decodes _
    | tag => exact Scan.ofTag_decodes _

end TagTemplate
