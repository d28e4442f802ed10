import TagTemplate.Proofs.EchoSteps

/-!
Expressions in postfix order. An echo tag evaluates an expression that is written with its right
operand first, then its left one, then the operator, since the topmost value is the left operand. What comes
of it is the value of the expression, or the first error met on the way, and nothing else changes.
-/

namespace TagTemplate

inductive Expression where
  | integer (number : Int64)
  | double (number : Double)
  | string (content : String)
  | variable (name : String)
  | binary (left : Expression) (symbol : Operator) (right : Expression)

namespace Expression

def code : Expression → List Element
  | .integer number => [.integer number]
  | .double number => [.double number]
  | .string content => [.string content]
  | .variable name => [.variable name]
  | .binary left symbol right => right.code ++ left.code ++ [.operator symbol]

def value (scope : Scope) : Expression → Except EvalError Value
  | .integer number => .ok (.integer number)
  | .double number => .ok (.double number)
  | .string content => .ok (.string content)
  | .variable name => do
      let value ← scope.peek name
      return .string value.text
  | .binary left symbol right => do
      let rightValue ← right.value scope
      let leftValue ← left.value scope
      (symbol.apply leftValue rightValue).mapError .arithmetic

def Computes (result : Except EvalError Value) (stack : List Value) (context : Context)
    (outcome : Except EvalError Unit × EchoState) : Prop :=
  match result with
  | .ok value => outcome = EchoState.done (value :: stack) context
  | .error error => ∃ above, outcome = EchoState.failed error (above ++ stack) context

theorem computes_operate (symbol : Operator) (left right : Value) (stack : List Value)
    (context : Context) :
    Computes ((symbol.apply left right).mapError .arithmetic) stack context
      ((Echo.operate symbol).run ⟨left :: right :: stack, context⟩) := by
  rw [Echo.run_operate]
  cases symbol.apply left right with
  | ok result => exact rfl
  | error error => exact ⟨[], rfl⟩

theorem computes_code (expression : Expression) (scope : Scope) (stack : List Value)
    (context : Context) :
    Computes (expression.value scope) stack context
      ((expression.code.forM (Echo.evaluate scope)).run ⟨stack, context⟩) := by
  induction expression generalizing stack with
  | integer number => exact rfl
  | double number => exact rfl
  | string content => exact rfl
  | «variable» name =>
      rw [code, Echo.run_forM_singleton, Echo.run_evaluate_variable, value]
      cases scope.peek name with
      | ok value => exact rfl
      | error error => exact ⟨[], rfl⟩
  | binary left symbol right ihLeft ihRight =>
      rw [code, Echo.run_forM_append, Echo.run_forM_append, value]
      have rightRan := ihRight stack
      cases rightResult : right.value scope with
      | error error =>
          rw [rightResult] at rightRan
          obtain ⟨above, ran⟩ := rightRan
          rw [ran]
          exact ⟨above, rfl⟩
      | ok rightValue =>
          rw [rightResult] at rightRan
          rw [rightRan]
          simp only [EchoState.done]
          -- The left operand is evaluated with the value of the right one below it.
          have leftRan := ihLeft (rightValue :: stack)
          cases leftResult : left.value scope with
          | error error =>
              rw [leftResult] at leftRan
              obtain ⟨above, ran⟩ := leftRan
              rw [ran]
              exact ⟨above ++ [rightValue], by rw [List.append_assoc]; rfl⟩
          | ok leftValue =>
              rw [leftResult] at leftRan
              rw [leftRan]
              simp only [EchoState.done, Echo.run_forM_singleton]
              exact computes_operate symbol leftValue rightValue stack context

theorem run_echo_code {expression : Expression} {machine : Machine} {value : Value}
    (evaluates : expression.value machine.scope = .ok value) :
    (Execution.echo expression.code).run machine = (Execution.write value.text).run machine := by
  have computed := expression.computes_code machine.scope [] machine.context
  rw [evaluates] at computed
  rw [Execution.run_echo, computed]
  exact congrFun (bind_pure_unit (x := Execution.write value.text)) machine

/-- The code of an expression, on whatever stack it is evaluated, pushes the value of the expression
or fails with the first error met in evaluating it. It never touches the context nor the values
below, and an echo tag made of it writes the value or fails without a change. -/
theorem code_computes_value (expression : Expression) :
    (∀ scope stack context, Computes (expression.value scope) stack context
      ((expression.code.forM (Echo.evaluate scope)).run ⟨stack, context⟩)) ∧
    (∀ machine, (Execution.echo expression.code).run machine =
      match expression.value machine.scope with
      | .ok value => (Execution.write value.text).run machine
      | .error error => (.error (.failed error), machine)) ∧
    ∀ machine value, expression.value machine.scope = .ok value → machine.context.Forwards →
      (Execution.echo expression.code).run machine =
        (.ok (), { machine with context := machine.context.receive value.text.toUTF8 }) := by
  refine ⟨expression.computes_code, fun machine => ?_, fun machine value evaluates forwards => ?_⟩
  · cases result : expression.value machine.scope with
    | ok value => exact run_echo_code result
    | error error =>
        have computed := expression.computes_code machine.scope [] machine.context
        rw [result] at computed
        obtain ⟨above, ran⟩ := computed
        rw [Execution.run_echo, ran]
        rfl
  · rw [run_echo_code evaluates, Execution.run_write forwards]

theorem code_computes_quotient :
    let machine : Machine := ⟨.empty, .new (.empty none) ∅ ∅ ∅ false⟩
    let quotient : Expression := .binary (.integer 7) .divide (.integer 2)
    quotient.code = [.integer 2, .integer 7, .operator .divide] ∧
      quotient.value machine.scope = .ok (.integer 3) ∧
      (Execution.echo quotient.code).run machine =
        (.ok (), { machine with context := machine.context.receive "3".toUTF8 }) := by
  intro machine quotient
  have evaluates : quotient.value machine.scope = .ok (.integer 3) := by rfl
  exact ⟨rfl, evaluates,
    quotient.code_computes_value.2.2 machine (.integer 3) evaluates ⟨rfl, by decide⟩⟩

end Expression

end TagTemplate
