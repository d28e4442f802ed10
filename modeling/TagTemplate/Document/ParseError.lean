import TagTemplate.Token
import TagTemplate.Token.LexError

/-!
Why tokens do not form a document.
-/

namespace TagTemplate

/-- What may stand at a place where another token was found. -/
inductive Expectation where
  | content
  | tag
  | loopBound
  | echoElement
  | endOfEndTag
  deriving Repr, DecidableEq

def Expectation.text : Expectation → String
  | .content => "text or `\x7b$`"
  | .tag => "FOR, END or `=`"
  | .loopBound => "a FOR expression or `$\x7d`"
  | .echoElement => "an expression or `$\x7d`"
  | .endOfEndTag => "`$\x7d` after END"

inductive ParseError.Cause where
  | lexical (cause : LexError.Cause)
  | unexpectedToken (expected : Expectation) (found : Token.Kind)
  | unmatchedEnd
  | loopArity (found : Nat)
  | missingLoopVariable
  | operatorInHeader
  | functionInHeader
  | unclosedLoop (loopVariable : String)
  | unexpectedEnd

def ParseError.Cause.message : ParseError.Cause → String
  | .lexical cause => cause.message
  | .unexpectedToken expected found => s!"expected {expected.text}, found {found.display}"
  | .unmatchedEnd => "END tag without a matching FOR"
  | .loopArity found =>
      s!"FOR takes a start, an end and an optional step, found {found} expressions"
  | .missingLoopVariable => "FOR must be followed by a loop variable"
  | .operatorInHeader => "an operator is not allowed in a FOR header"
  | .functionInHeader => "a function is not allowed in a FOR header"
  | .unclosedLoop loopVariable => s!"FOR loop over `{loopVariable}` is never closed with END"
  | .unexpectedEnd => "unexpected end of input inside a tag"

structure ParseError where
  cause : ParseError.Cause
  span : Span

def ParseError.message (error : ParseError) : String :=
  s!"{error.cause.message} at {error.span.text}"

def ParseError.ofLexError (error : LexError) : ParseError :=
  ⟨.lexical error.cause, error.span⟩

end TagTemplate
