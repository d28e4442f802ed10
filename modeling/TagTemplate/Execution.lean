import TagTemplate.Builtin
import TagTemplate.Document.Walk
import TagTemplate.Scope

/-!
The execution of documents. Text and the results of echo tags are written as the walk meets them;
what was written before a failure stays written. A loop may run forever, so every execution is
given a bound on the passes of a loop, and one that would exceed it ends unfinished.
-/

namespace TagTemplate

namespace Echo

def push (value : Value) : Echo Unit :=
  modify fun state => { state with stack := value :: state.stack }

def pop (user : String) : Echo Value := do
  let state ← get
  match state.stack with
  | top :: below =>
      set { state with stack := below }
      return top
  | [] => throw (.missingOperands user)

/-- The topmost value is the left operand. -/
def operate (symbol : Operator) : Echo Unit := do
  let left ← pop symbol.text
  let right ← pop symbol.text
  let result ← liftExcept ((symbol.apply left right).mapError EvalError.arithmetic)
  push result

def call (name : String) : Echo Unit :=
  match Builtin.ofName? name with
  | some builtin => fun state => builtin.run state.stack state.context
  | none => throw (.unknownFunction name)

def evaluate (scope : Scope) : Element → Echo Unit
  | .integer number => push (.integer number)
  | .double number => push (.double number)
  | .string content => push (.string content)
  | .variable name => do
      let value ← liftExcept (scope.peek name)
      push (.string value.text)
  | .operator symbol => operate symbol
  | .function name => call name

end Echo

inductive Halt where
  | failed (error : EvalError)
  | unfinished

structure Machine where
  scope : Scope
  context : Context

abbrev Execution := ExceptT Halt (StateM Machine)

namespace Execution

def write (text : String) : Execution Unit := fun machine =>
  let (result, context) := machine.context.write text
  (result.mapError fun error => .failed (.context error), { machine with context := context })

def check {α : Type} (result : Except EvalError α) : Execution α :=
  liftExcept (result.mapError Halt.failed)

def bound (element : Element) : Execution Value :=
  match element with
  | .integer number => pure (.integer number)
  | .double number => pure (.double number)
  | .string content => pure (.string content)
  | .variable name => do check ((← get).scope.peek name)
  -- An operator or a function counts as the text it is written with.
  | .operator _ | .function _ => pure (.string element.text)

def bindVariable (name : String) (value : Value) : Execution Unit :=
  modify fun machine => { machine with scope := machine.scope.push name value }

def unbindVariable (name : String) : Execution Unit := do
  let (_, scope) ← check ((← get).scope.pop name)
  modify fun machine => { machine with scope := scope }

def isBelow (name : String) (stop : Value) : Execution Bool := do
  let current ← check ((← get).scope.peek name)
  let order ← check ((current.compare stop).mapError .arithmetic)
  return order == .lt

def advance (name : String) (step : Value) : Execution Unit := do
  let scope ← check ((← get).scope.apply .add name step)
  modify fun machine => { machine with scope := scope }

def repeatBody (name : String) (stop step : Value) (body : Execution Unit) : Nat → Execution Unit
  | 0 => do if ← isBelow name stop then throw .unfinished
  | passes + 1 => do
      if ← isBelow name stop then
        body
        advance name step
        repeatBody name stop step body passes

def observe (action : Execution Unit) : Execution (Except Halt Unit) := fun machine =>
  let (result, after) := action.run machine
  (.ok result, after)

def withBinding (name : String) (value : Value) (action : Execution Unit) : Execution Unit := do
  bindVariable name value
  -- The binding ends with the loop, however the loop ends.
  let result ← observe action
  unbindVariable name
  liftExcept result

/-- The bounds are evaluated once, before the loop variable is bound. -/
def loop (passes : Nat) (header : LoopHeader) (body : Execution Unit) : Execution Unit := do
  let start ← bound header.start
  let stop ← bound header.stop
  match header.step with
  | none => throw (.failed (.missingStep header.loopVariable))
  | some element =>
      let step ← bound element
      withBinding header.loopVariable start
        (repeatBody header.loopVariable stop step body passes)

/-- All elements are evaluated before the values they leave are written, in the order in which
they were pushed. -/
def echo (elements : List Element) : Execution Unit := do
  let machine ← get
  let evaluation := elements.forM (Echo.evaluate machine.scope)
  let (result, state) := evaluation.run ⟨[], machine.context⟩
  set { machine with context := state.context }
  check result
  state.stack.reverse.forM fun value => write value.text

def executor (passes : Nat) : Visitor Execution where
  document := fun _ walkChildren => walkChildren
  text := write
  loop := fun header _ walkChildren => loop passes header walkChildren
  echo := echo

end Execution

def Document.run (passes : Nat) (document : Document) : Execution Unit :=
  document.walk (Execution.executor passes)

def Document.execute (passes : Nat) (document : Document) (context : Context) :
    Except Halt Unit × Context :=
  let (result, machine) := (document.run passes).run ⟨.empty, context⟩
  (result, machine.context)

/-- More passes than a loop variable has values: `2 ^ 64` integers, as many doubles, and the text
it may start from. -/
def passLimit : Nat :=
  1 <<< 66

end TagTemplate
