import TagTemplate.Context
import TagTemplate.Value

/-!
Why the evaluation of a document fails.
-/

namespace TagTemplate

inductive EvalError where
  | arithmetic (error : ArithmeticError)
  | unbound (name : String)
  | missingOperands (user : String)
  | unknownFunction (name : String)
  | missingStep (loopVariable : String)
  | invalidPattern (pattern : String)
  | context (error : ContextError)
  deriving Repr, DecidableEq

def EvalError.message : EvalError → String
  | .arithmetic error => error.message
  | .unbound name => s!"variable `{name}` is not bound"
  | .missingOperands user => s!"`{user}` needs more values than the echo tag provides"
  | .unknownFunction name => s!"unknown function `@{name}`"
  | .missingStep loopVariable => s!"FOR loop over `{loopVariable}` has no step"
  | .invalidPattern pattern => s!"invalid number format pattern `{pattern}`"
  | .context error => error.message

end TagTemplate
