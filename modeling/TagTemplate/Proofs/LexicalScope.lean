import TagTemplate.Execution
import TagTemplate.Proofs.Forest
import TagTemplate.Proofs.ScopeLaws

/-!
Loop variables are scoped lexically. A reference evaluator hands an environment down the tree, in
which nothing is ever changed: a body is evaluated in the environment around its loop with the loop
variable added. Execution, which keeps one scope and changes it in place, has the same results, and
leaves the scope of every node as it was.
-/

namespace TagTemplate

abbrev Environment := String → Option Value

namespace Environment

def empty : Environment := fun _ => none

def extend (environment : Environment) (name : String) (value : Value) : Environment :=
  fun other => if other = name then some value else environment other

def lookup (environment : Environment) (name : String) : Except EvalError Value :=
  match environment name with
  | some value => .ok value
  | none => .error (.unbound name)

def evaluate (environment : Environment) : Element → Echo Unit
  | .integer number => Echo.push (.integer number)
  | .double number => Echo.push (.double number)
  | .string content => Echo.push (.string content)
  | .variable name => do
      let value ← liftExcept (environment.lookup name)
      Echo.push (.string value.text)
  | .operator symbol => Echo.operate symbol
  | .function name => Echo.call name

end Environment

abbrev Evaluation := ExceptT Halt (StateM Context)

namespace Evaluation

def write (text : String) : Evaluation Unit := fun context =>
  let (result, after) := context.write text
  (result.mapError fun error => .failed (.context error), after)

def check {α : Type} (result : Except EvalError α) : Evaluation α :=
  liftExcept (result.mapError Halt.failed)

def bound (environment : Environment) (element : Element) : Evaluation Value :=
  match element with
  | .integer number => pure (.integer number)
  | .double number => pure (.double number)
  | .string content => pure (.string content)
  | .variable name => check (environment.lookup name)
  | .operator _ | .function _ => pure (.string element.text)

def echo (environment : Environment) (elements : List Element) : Evaluation Unit := do
  let evaluation := elements.forM environment.evaluate
  let (result, state) := evaluation.run ⟨[], ← get⟩
  set state.context
  check result
  state.stack.reverse.forM fun value => write value.text

def isBelow (current stop : Value) : Evaluation Bool := do
  let order ← check ((current.compare stop).mapError .arithmetic)
  return order == .lt

/-- Evaluates a body for the current value, then for this value and the step, and so on as long as
the value is below the end. Only so many passes are made. -/
def iterate (stop step : Value) (body : Value → Evaluation Unit) : Nat → Value → Evaluation Unit
  | 0, current => do if ← isBelow current stop then throw .unfinished
  | passes + 1, current => do
      if ← isBelow current stop then
        body current
        let next ← check ((Operator.add.apply current step).mapError .arithmetic)
        iterate stop step body passes next

def loop (passes : Nat) (environment : Environment) (header : LoopHeader)
    (body : Environment → Evaluation Unit) : Evaluation Unit := do
  let start ← bound environment header.start
  let stop ← bound environment header.stop
  match header.step with
  | none => throw (.failed (.missingStep header.loopVariable))
  | some element =>
      let step ← bound environment element
      iterate stop step (fun value => body (environment.extend header.loopVariable value)) passes
        start

end Evaluation

mutual

def Node.evaluate (passes : Nat) (environment : Environment) : Node → Evaluation Unit
  | .document children => Node.evaluateAll passes environment children
  | .text content => Evaluation.write content
  | .loop header children =>
      Evaluation.loop passes environment header fun inner =>
        Node.evaluateAll passes inner children
  | .echo elements => Evaluation.echo environment elements

def Node.evaluateAll (passes : Nat) (environment : Environment) : List Node → Evaluation Unit
  | [] => pure ()
  | node :: others => do
      node.evaluate passes environment
      Node.evaluateAll passes environment others

end

def Document.evaluate (passes : Nat) (document : Document) (context : Context) :
    Except Halt Unit × Context :=
  (Node.evaluateAll passes .empty document.children).run context

theorem Node.evaluateAll_append (passes : Nat) (environment : Environment)
    (before after : List Node) :
    evaluateAll passes environment (before ++ after) =
      evaluateAll passes environment before >>= fun _ => evaluateAll passes environment after := by
  induction before with
  | nil => simp [evaluateAll]
  | cons node others ih => simp only [List.cons_append, evaluateAll, ih, bind_assoc]

theorem run_bind {ε α β σ : Type} (action : ExceptT ε (StateM σ) α)
    (next : α → ExceptT ε (StateM σ) β) (before : σ) :
    (action >>= next).run before =
      match action.run before with
      | (.ok value, after) => (next value).run after
      | (.error error, after) => (.error error, after) := by
  simp only [bind, ExceptT.bind, ExceptT.run, ExceptT.mk, StateT.bind, ExceptT.bindCont]
  rcases action before with ⟨_ | _, _⟩ <;> rfl

/-- On a machine with this scope, an execution does what an evaluation does to the context, and
leaves the scope as it was. -/
def Simulates {α : Type} (scope : Scope) (execution : Execution α) (evaluation : Evaluation α) :
    Prop :=
  ∀ context, execution.run ⟨scope, context⟩ =
    ((evaluation.run context).1, ⟨scope, (evaluation.run context).2⟩)

namespace Simulates

variable {α β : Type} {scope : Scope}

theorem pure (value : α) : Simulates scope (Pure.pure value) (Pure.pure value) :=
  fun _ => rfl

theorem throw (halt : Halt) : Simulates scope (α := α) (throw halt) (MonadExcept.throw halt) :=
  fun _ => rfl

theorem bind {execution : Execution α} {evaluation : Evaluation α} {next : α → Execution β}
    {nextEvaluation : α → Evaluation β} (first : Simulates scope execution evaluation)
    (later : ∀ value, Simulates scope (next value) (nextEvaluation value)) :
    Simulates scope (execution >>= next) (evaluation >>= nextEvaluation) := by
  intro context
  rw [run_bind, run_bind, first context]
  rcases evaluation.run context with ⟨result, after⟩
  cases result with
  | ok value => exact later value after
  | error halt => rfl

theorem check (result : Except EvalError α) :
    Simulates scope (Execution.check result) (Evaluation.check result) := by
  cases result <;> exact fun _ => rfl

theorem write (text : String) : Simulates scope (Execution.write text) (Evaluation.write text) :=
  fun _ => rfl

theorem forM {action : α → Execution Unit} {evaluation : α → Evaluation Unit} (values : List α)
    (each : ∀ value, Simulates scope (action value) (evaluation value)) :
    Simulates scope (values.forM action) (values.forM evaluation) := by
  induction values with
  | nil => exact pure ()
  | cons value others ih => exact bind (each value) fun _ => ih

end Simulates

def Scope.Agrees (scope : Scope) (environment : Environment) : Prop :=
  ∀ name, scope.peek name = environment.lookup name

theorem Scope.agrees_empty : Scope.empty.Agrees .empty := by
  intro name
  simp [peek, empty, Bindings.peek, Bindings.empty, Environment.lookup, Environment.empty]

theorem Scope.Agrees.push {scope : Scope} {environment : Environment}
    (agrees : scope.Agrees environment) (name : String) (value : Value) :
    (scope.push name value).Agrees (environment.extend name value) := by
  intro other
  rw [peek_push, agrees other]
  by_cases same : other = name <;> simp [Environment.lookup, Environment.extend, same]

theorem Echo.evaluate_eq {scope : Scope} {environment : Environment}
    (agrees : scope.Agrees environment) : evaluate scope = environment.evaluate := by
  funext element
  cases element with
  | «variable» name => rw [evaluate, Environment.evaluate, agrees name]
  | _ => rfl

namespace Execution

variable {scope : Scope} {environment : Environment}

theorem simulates_bound (agrees : scope.Agrees environment) (element : Element) :
    Simulates scope (bound element) (Evaluation.bound environment element) := by
  cases element with
  | «variable» name =>
      intro context
      change (check (scope.peek name)).run ⟨scope, context⟩ = _
      rw [agrees name]
      exact Simulates.check _ context
  | _ => exact fun _ => rfl

theorem simulates_echo (agrees : scope.Agrees environment) (elements : List Element) :
    Simulates scope (echo elements) (Evaluation.echo environment elements) := by
  intro context
  rcases evaluated : (elements.forM environment.evaluate).run ⟨[], context⟩ with ⟨result, state⟩
  have rest : Simulates scope
      (check result >>= fun _ => state.stack.reverse.forM fun value => write value.text)
      (Evaluation.check result >>= fun _ =>
        state.stack.reverse.forM fun value => Evaluation.write value.text) :=
    (Simulates.check result).bind fun _ => Simulates.forM _ fun value => Simulates.write value.text
  have executed : (echo elements).run ⟨scope, context⟩ =
      (check result >>= fun _ => state.stack.reverse.forM fun value => write value.text).run
        ⟨scope, state.context⟩ := by
    change (match (elements.forM (Echo.evaluate scope)).run ⟨[], context⟩ with
      | (result, state) => (check result >>= fun _ =>
          state.stack.reverse.forM fun value => write value.text).run ⟨scope, state.context⟩) = _
    rw [Echo.evaluate_eq agrees, evaluated]
  have referred : (Evaluation.echo environment elements).run context =
      (Evaluation.check result >>= fun _ =>
        state.stack.reverse.forM fun value => Evaluation.write value.text).run state.context := by
    change (match (elements.forM environment.evaluate).run ⟨[], context⟩ with
      | (result, state) => (Evaluation.check result >>= fun _ =>
          state.stack.reverse.forM fun value => Evaluation.write value.text).run state.context) = _
    rw [evaluated]
  rw [executed, referred]
  exact rest state.context

theorem simulates_isBelow (name : String) (current stop : Value) :
    Simulates (scope.push name current) (isBelow name stop) (Evaluation.isBelow current stop) := by
  intro context
  change (check ((scope.push name current).peek name) >>= fun current =>
    check ((current.compare stop).mapError .arithmetic) >>= fun order =>
      pure (order == Ordering.lt)).run _ = _
  rw [Scope.peek_push, if_pos rfl]
  exact ((Simulates.check _).bind fun order => Simulates.pure (order == Ordering.lt)) context

theorem run_advance (name : String) (current step : Value) (context : Context) :
    (advance name step).run ⟨scope.push name current, context⟩ =
      match (Operator.add.apply current step).mapError EvalError.arithmetic with
      | .ok next => (.ok (), ⟨scope.push name next, context⟩)
      | .error error => (.error (.failed error), ⟨scope.push name current, context⟩) := by
  change (check ((scope.push name current).apply .add name step) >>= fun scope =>
    modify fun machine => { machine with scope := scope }).run _ = _
  rw [Scope.apply_push, run_bind]
  cases Operator.add.apply current step <;> rfl

theorem run_withBinding {name : String} {value last : Value} {action : Execution Unit}
    {context after : Context} {result : Except Halt Unit}
    (ran : action.run ⟨scope.push name value, context⟩ = (result, ⟨scope.push name last, after⟩)) :
    (withBinding name value action).run ⟨scope, context⟩ = (result, ⟨scope, after⟩) := by
  have observed : (observe action).run ⟨scope.push name value, context⟩ =
      (.ok result, ⟨scope.push name last, after⟩) := by
    change (Except.ok (action.run _).1, (action.run _).2) = _
    rw [ran]
  have unbound : (unbindVariable name).run ⟨scope.push name last, after⟩ =
      (.ok (), ⟨scope, after⟩) := by
    change (check ((scope.push name last).pop name) >>= fun popped =>
      modify fun machine => { machine with scope := popped.2 }).run _ = _
    rw [Scope.pop_push]
    rfl
  change (observe action >>= fun result => unbindVariable name >>= fun _ => liftExcept result).run
    ⟨scope.push name value, context⟩ = _
  rw [run_bind, observed]
  simp only [run_bind, unbound]
  cases result <;> rfl

theorem run_repeatBody {name : String} {stop step : Value} {body : Execution Unit}
    {evaluation : Value → Evaluation Unit}
    (inner : ∀ value, Simulates (scope.push name value) body (evaluation value)) (passes : Nat)
    (current : Value) (context : Context) :
    ∃ last, (repeatBody name stop step body passes).run ⟨scope.push name current, context⟩ =
      (((Evaluation.iterate stop step evaluation passes current).run context).1,
        ⟨scope.push name last, ((Evaluation.iterate stop step evaluation passes current).run
          context).2⟩) := by
  -- All along, the variable is bound on top of the scope around the loop, and at the end it is still
  -- bound to whatever it has come to.
  induction passes generalizing current context with
  | zero =>
      rw [repeatBody, Evaluation.iterate, run_bind, run_bind,
        simulates_isBelow name current stop context]
      rcases (Evaluation.isBelow current stop).run context with ⟨_ | below, after⟩
      · exact ⟨current, rfl⟩
      · cases below <;> exact ⟨current, rfl⟩
  | succ passes ih =>
      rw [repeatBody, Evaluation.iterate, run_bind, run_bind,
        simulates_isBelow name current stop context]
      rcases (Evaluation.isBelow current stop).run context with ⟨_ | below, after⟩
      · exact ⟨current, rfl⟩
      cases below with
      | false => exact ⟨current, rfl⟩
      | true =>
          simp only [↓reduceIte, run_bind, inner current after]
          rcases (evaluation current).run after with ⟨_ | _, behind⟩
          · exact ⟨current, rfl⟩
          simp only
          -- The body has left the scope as it was, so that the step meets the current value.
          rw [run_advance]
          cases Operator.add.apply current step with
          | error error => exact ⟨current, rfl⟩
          | ok next =>
              obtain ⟨last, ran⟩ := ih next behind
              exact ⟨last, ran⟩

theorem simulates_loop (agrees : scope.Agrees environment) (passes : Nat) (header : LoopHeader)
    {body : Execution Unit} {evaluation : Environment → Evaluation Unit}
    (inner : ∀ value, Simulates (scope.push header.loopVariable value) body
      (evaluation (environment.extend header.loopVariable value))) :
    Simulates scope (loop passes header body)
      (Evaluation.loop passes environment header evaluation) := by
  refine (simulates_bound agrees header.start).bind fun start =>
    (simulates_bound agrees header.stop).bind fun stop => ?_
  cases header.step with
  | none => exact Simulates.throw _
  | some element =>
      refine (simulates_bound agrees element).bind fun step context => ?_
      obtain ⟨last, ran⟩ := run_repeatBody inner passes start context
      exact run_withBinding ran

end Execution

theorem Node.simulates_walkAll (passes : Nat) (nodes : List Node) {scope : Scope}
    {environment : Environment} (agrees : scope.Agrees environment) :
    Simulates scope (walkAll (Execution.executor passes) nodes)
      (evaluateAll passes environment nodes) := by
  induction nodes using Node.forestInduction generalizing scope environment with
  | nil => exact Simulates.pure ()
  | document children others ihChildren ihOthers =>
      exact (ihChildren agrees).bind fun _ => ihOthers agrees
  | text content others ih => exact (Simulates.write content).bind fun _ => ih agrees
  | loop header children others ihChildren ihOthers =>
      rw [walkAll, evaluateAll, walk, evaluate]
      refine Simulates.bind ?_ fun _ => ihOthers agrees
      exact Execution.simulates_loop agrees passes header fun value =>
        ihChildren (agrees.push header.loopVariable value)
  | echo elements others ih =>
      exact (Execution.simulates_echo agrees elements).bind fun _ => ih agrees

theorem Document.execute_eq_run (passes : Nat) (document : Document) (context : Context) :
    document.execute passes context =
      (Node.evaluateAll passes .empty document.children).run context := by
  have simulated := Node.simulates_walkAll passes document.children Scope.agrees_empty context
  have result := congrArg Prod.fst simulated
  have after := congrArg (fun final => final.2.context) simulated
  exact Prod.ext result after

/-- Executing a document, however many passes its loops may make, has the result and leaves the
context that the reference evaluator gives. -/
theorem Document.execute_eq_evaluate (passes : Nat) (document : Document) (context : Context) :
    document.execute passes context = document.evaluate passes context := by
  rw [execute_eq_run, evaluate]

end TagTemplate
