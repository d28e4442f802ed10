import TagTemplate.Token.Lexer

/-!
What lexical errors complain about. A lexer that has not come to its end fails only where a scan
does, and the cause of the failure names the lexeme.
-/

namespace TagTemplate

/-- The texts that an error with some cause may complain about. An exhausted lexer has none left. -/
def LexError.Cause.Names (text : String) : Cause → Prop
  | .unrecognizedCharacter character => text = character.toString
  | .malformedNumber literal => text = literal
  | .unterminatedString => ∃ body, text = "\"" ++ body
  | .unterminatedFunction => ∃ name, text = "@" ++ name
  | .emptyFunctionName => text = "@"
  | .invalidVariableCharacter character => text = character.toString
  | .invalidFunctionCharacter character => text = character.toString
  | .exhausted => False

theorem LexError.Cause.Names.ne_exhausted {cause : Cause} {text : String}
    (names : cause.Names text) : cause ≠ .exhausted := by
  rintro rfl
  exact names

namespace Scan

def Names (scan : Scan) : Prop :=
  ∀ cause, scan.outcome = .error cause → cause.Names (String.ofList scan.lexeme)

theorem names_token {passed lexeme rest : List Char} {kind : Token.Kind}
    {switch : Option LexMode} : Names ⟨passed, lexeme, rest, .ok kind, switch⟩ := by
  rintro _ ⟨⟩

theorem names_error {passed lexeme rest : List Char} {cause : LexError.Cause}
    {switch : Option LexMode} (names : cause.Names (String.ofList lexeme)) :
    Names ⟨passed, lexeme, rest, .error cause, switch⟩ := by
  rintro _ ⟨⟩
  exact names

theorem ofNumber_names (characters : List Char) : (ofNumber characters).Names := by
  simp only [ofNumber]
  split
  · exact names_token
  · exact names_token
  · exact names_error rfl

theorem ofFunction_names (characters : List Char) : (ofFunction characters).Names := by
  simp only [ofFunction]
  split
  · exact names_error ⟨_, String.ofList_cons⟩
  split
  · split
    · exact names_error rfl
    · exact names_token
  · exact names_error rfl

theorem ofString_names (characters : List Char) : (ofString characters).Names := by
  simp only [ofString]
  split
  · exact names_error ⟨_, String.ofList_cons⟩
  · exact names_token

theorem ofVariable_names (characters : List Char) : (ofVariable characters).Names := by
  simp only [ofVariable]
  split
  · exact names_token
  split
  · exact names_error rfl
  · exact names_token

theorem ofCharacter_names (first : Char) (others : List Char) :
    (ofCharacter first others).Names := by
  unfold ofCharacter
  split
  · exact names_token
  split
  · exact ofNumber_names _
  split
  · exact ofFunction_names _
  split
  · exact ofString_names _
  split
  · exact ofNumber_names _
  split
  · exact ofVariable_names _
  split
  · exact names_token
  · exact names_error rfl

theorem ofTag_names (characters : List Char) : (ofTag characters).Names := by
  unfold ofTag
  split
  · exact names_token
  · exact names_token
  · exact names_token
  · exact ofCharacter_names _ _
  · exact names_token

end Scan

theorem LexMode.scan_names (mode : LexMode) (characters : List Char) :
    (mode.scan characters).Names := by
  unfold scan
  split
  · exact Scan.names_token
  · exact Scan.names_token
  · cases mode with
    | text => exact Scan.names_token
    | tag => exact Scan.ofTag_names _

end TagTemplate
