import TagTemplate.DecimalPattern
import TagTemplate.EvalError

/-!
The built-in functions. A function takes its operands from the stack of its echo tag, may read or
change the context, and may leave results on the stack.
-/

namespace TagTemplate

inductive ParameterScope where
  | request
  | persistent
  | temporary
  deriving Repr, DecidableEq

inductive KeptScope where
  | persistent
  | temporary
  deriving Repr, DecidableEq

inductive Builtin where
  | sine
  | formatDecimal
  | duplicate
  | swap
  | setMimeType
  | get (scope : ParameterScope)
  | set (scope : KeptScope)
  | delete (scope : KeptScope)
  deriving Repr, DecidableEq

/-- The values an echo tag has computed, the top of the stack first, and the context. -/
structure EchoState where
  stack : List Value
  context : Context

/-- Steps of an echo tag. A failing step keeps the state it has reached. -/
abbrev Echo := ExceptT EvalError (StateM EchoState)

namespace EchoState

def done (stack : List Value) (context : Context) : Except EvalError Unit × EchoState :=
  (.ok (), ⟨stack, context⟩)

def failed (error : EvalError) (stack : List Value) (context : Context) :
    Except EvalError Unit × EchoState :=
  (.error error, ⟨stack, context⟩)

end EchoState

namespace Context

def parameter? (context : Context) (scope : ParameterScope) (name : String) : Option String :=
  match scope with
  | .request => context.request[name]?
  | .persistent => context.persistent[name]?
  | .temporary => context.temporary[name]?

def setParameter (context : Context) (scope : KeptScope) (name value : String) : Context :=
  match scope with
  | .persistent => { context with persistent := context.persistent.insert name value }
  | .temporary => { context with temporary := context.temporary.insert name value }

def deleteParameter (context : Context) (scope : KeptScope) (name : String) : Context :=
  match scope with
  | .persistent => { context with persistent := context.persistent.erase name }
  | .temporary => { context with temporary := context.temporary.erase name }

end Context

namespace Builtin

def all : List Builtin :=
  [.sine, .formatDecimal, .duplicate, .swap, .setMimeType, .get .request, .get .persistent,
    .get .temporary, .set .persistent, .set .temporary, .delete .persistent, .delete .temporary]

def name : Builtin → String
  | .sine => "sin"
  | .formatDecimal => "decfmt"
  | .duplicate => "dup"
  | .swap => "swap"
  | .setMimeType => "setMimeType"
  | .get .request => "paramGet"
  | .get .persistent => "pparamGet"
  | .get .temporary => "tparamGet"
  | .set .persistent => "pparamSet"
  | .set .temporary => "tparamSet"
  | .delete .persistent => "pparamDel"
  | .delete .temporary => "tparamDel"

def ofName? (name : String) : Option Builtin :=
  all.find? fun builtin => builtin.name == name

def arity : Builtin → Nat
  | .sine | .duplicate | .setMimeType | .delete _ => 1
  | .formatDecimal | .swap | .get _ | .set _ => 2

def user (builtin : Builtin) : String :=
  "@" ++ builtin.name

open EchoState in
/-- The effect of a function on its operands, the topmost first, and on the values below them. -/
def run (builtin : Builtin) (stack : List Value) (context : Context) :
    Except EvalError Unit × EchoState :=
  match builtin, stack with
  | .sine, operand :: below =>
      match operand.toDouble with
      | .ok number => done (.double number.sine :: below) context
      | .error error => failed (.arithmetic error) below context
  | .formatDecimal, pattern :: operand :: below =>
      match operand.toDouble with
      | .error error => failed (.arithmetic error) below context
      | .ok number =>
          match formatDecimal? pattern.text number with
          | some text => done (.string text :: below) context
          | none => failed (.invalidPattern pattern.text) below context
  | .duplicate, operand :: below => done (operand :: operand :: below) context
  | .swap, first :: second :: below => done (second :: first :: below) context
  | .setMimeType, mimeType :: below =>
      match context.setMimeType mimeType.text with
      | .ok changed => done below changed
      | .error error => failed (.context error) below context
  | .get scope, fallback :: name :: below =>
      match context.parameter? scope name.text with
      | some value => done (.string value :: below) context
      | none => done (fallback :: below) context
  | .set scope, name :: value :: below =>
      done below (context.setParameter scope name.text value.text)
  | .delete scope, name :: below => done below (context.deleteParameter scope name.text)
  | _, tooFew => failed (.missingOperands builtin.user) tooFew context

end Builtin

end TagTemplate
