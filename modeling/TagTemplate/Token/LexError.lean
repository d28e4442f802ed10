import TagTemplate.Span

/-!
Why a template cannot be cut into tokens.
-/

namespace TagTemplate

inductive LexError.Cause where
  | unrecognizedCharacter (character : Char)
  | malformedNumber (literal : String)
  | unterminatedString
  | unterminatedFunction
  | emptyFunctionName
  | invalidVariableCharacter (character : Char)
  | invalidFunctionCharacter (character : Char)
  | exhausted
  deriving Repr, DecidableEq

def LexError.Cause.message : LexError.Cause → String
  | .unrecognizedCharacter character => s!"unrecognized character `{character}` inside tag"
  | .malformedNumber literal => s!"malformed number `{literal}`"
  | .unterminatedString => "unterminated string literal"
  | .unterminatedFunction => "unterminated function name"
  | .emptyFunctionName => "missing function name after `@`"
  | .invalidVariableCharacter character => s!"invalid character `{character}` in variable name"
  | .invalidFunctionCharacter character => s!"invalid character `{character}` in function name"
  | .exhausted => "no more tokens: input is exhausted"

structure LexError where
  cause : LexError.Cause
  span : Span
  deriving Repr, DecidableEq

def LexError.message (error : LexError) : String :=
  s!"{error.cause.message} at {error.span.text}"

end TagTemplate
