import TagTemplate.Proofs.LexicalScope

/-!
Scopes are unwound. Whatever the result, a node leaves the scope as it found it. A loop therefore
finds its variable bound wherever it looks it up, and its own binding on top when it ends, so that
it fails only as its bounds, a comparison, its body or a step fail.
-/

namespace TagTemplate

def Scope.environment (scope : Scope) : Environment :=
  fun name => (scope.values name).head?

theorem Scope.agrees_environment (scope : Scope) : scope.Agrees scope.environment := by
  intro name
  simp only [peek, Bindings.peek, Environment.lookup, environment, values, Bindings.values]
  cases scope.bindings.byName[name]? <;> rfl

namespace Execution

def within {α : Type} (scope : Scope) (execution : Execution α) : Evaluation α := fun context =>
  let (result, machine) := execution.run ⟨scope, context⟩
  (result, machine.context)

/-- A loop that keeps the value of its variable to itself. It fails only where a bound fails or the
step is missing, and where a comparison, the body or an addition fails. -/
def loopOver (passes : Nat) (scope : Scope) (header : LoopHeader) (body : Execution Unit) :
    Evaluation Unit := do
  let start ← within scope (bound header.start)
  let stop ← within scope (bound header.stop)
  match header.step with
  | none => throw (.failed (.missingStep header.loopVariable))
  | some element =>
      let step ← within scope (bound element)
      Evaluation.iterate stop step
        (fun value => within (scope.push header.loopVariable value) body) passes start

inductive LookUp where
  | comparison
  | addition

inductive Reaches (name : String) (stop step : Value) (body : Execution Unit) (first : Machine) :
    LookUp → Machine → Prop
  | start : Reaches name stop step body first .comparison first
  | body {machine compared after} : Reaches name stop step body first .comparison machine →
      (isBelow name stop).run machine = (.ok true, compared) →
      body.run compared = (.ok (), after) → Reaches name stop step body first .addition after
  | step {machine after} : Reaches name stop step body first .addition machine →
      (advance name step).run machine = (.ok (), after) →
      Reaches name stop step body first .comparison after

/-- A loop finds its variable bound wherever it looks it up and in the end, and has the result and
the effect of one that keeps its value to itself. -/
structure Unwinds (passes : Nat) (scope : Scope) (header : LoopHeader) (body : Execution Unit) :
    Prop where
  found : ∀ context start stop step place machine,
    Reaches header.loopVariable stop step body ⟨scope.push header.loopVariable start, context⟩
      place machine → ∃ value, machine.scope.peek header.loopVariable = .ok value
  popped : ∀ context start stop step, ∃ value,
    ((repeatBody header.loopVariable stop step body passes).run
      ⟨scope.push header.loopVariable start, context⟩).2.scope.pop header.loopVariable =
        .ok (value, scope)
  run_eq : ∀ context, (loop passes header body).run ⟨scope, context⟩ =
    (((loopOver passes scope header body).run context).1,
      ⟨scope, ((loopOver passes scope header body).run context).2⟩)

end Execution

namespace Simulates

variable {α : Type} {scope : Scope} {execution : Execution α} {evaluation : Evaluation α}

theorem within (simulates : Simulates scope execution evaluation) :
    Simulates scope execution (execution.within scope) := by
  intro context
  change execution.run ⟨scope, context⟩ = ((execution.run ⟨scope, context⟩).1,
    ⟨scope, (execution.run ⟨scope, context⟩).2.context⟩)
  rw [simulates context]

theorem scope_eq (simulates : Simulates scope execution evaluation) {machine after : Machine}
    {result : Except Halt α} (before : machine.scope = scope)
    (ran : execution.run machine = (result, after)) : after.scope = scope := by
  subst before
  rw [simulates machine.context, Prod.mk.injEq] at ran
  rw [← ran.2]

end Simulates

namespace Execution

variable {name : String} {stop step start : Value} {body : Execution Unit} {scope : Scope}
  {evaluation : Value → Evaluation Unit}

theorem Reaches.pushed {context : Context} {place : LookUp} {machine : Machine}
    (inner : ∀ value, Simulates (scope.push name value) body (evaluation value))
    (reaches : Reaches name stop step body ⟨scope.push name start, context⟩ place machine) :
    ∃ value, machine.scope = scope.push name value := by
  induction reaches with
  | start => exact ⟨start, rfl⟩
  | body _ compared ran ih =>
      obtain ⟨value, before⟩ := ih
      have between := (simulates_isBelow name value stop).scope_eq before compared
      exact ⟨value, (inner value).scope_eq between ran⟩
  | @step machine _ _ advanced ih =>
      obtain ⟨value, before⟩ := ih
      have ran := @run_advance scope name value step machine.context
      rw [← before, advanced] at ran
      cases added : Operator.add.apply value step with
      | ok next =>
          simp only [added, Except.mapError] at ran
          cases ran
          exact ⟨next, rfl⟩
      | error error =>
          simp only [added, Except.mapError] at ran
          cases ran

theorem unwinds (passes : Nat) (header : LoopHeader)
    (inner : ∀ value, Simulates (scope.push header.loopVariable value) body (evaluation value)) :
    Unwinds passes scope header body where
  found := by
    intro context start stop step place machine reaches
    obtain ⟨value, pushed⟩ := reaches.pushed inner
    exact ⟨value, by rw [pushed, Scope.peek_push, if_pos rfl]⟩
  popped := by
    intro context start stop step
    obtain ⟨last, ran⟩ := @run_repeatBody scope _ stop step _ _ inner passes start context
    exact ⟨last, by rw [ran, Scope.pop_push]⟩
  run_eq := by
    refine ((simulates_bound scope.agrees_environment header.start).within).bind fun start =>
      ((simulates_bound scope.agrees_environment header.stop).within).bind fun stop => ?_
    cases header.step with
    | none => exact Simulates.throw _
    | some element =>
        refine ((simulates_bound scope.agrees_environment element).within).bind
          fun step context => ?_
        obtain ⟨last, ran⟩ :=
          run_repeatBody (fun value => (inner value).within) passes start context
        exact run_withBinding ran

end Execution

theorem Node.simulates_walk (passes : Nat) (scope : Scope) (node : Node) :
    Simulates scope (node.walk (Execution.executor passes))
      (node.evaluate passes scope.environment) := by
  cases node with
  | document children => exact simulates_walkAll passes children scope.agrees_environment
  | text content => exact Simulates.write content
  | loop header children =>
      rw [walk, evaluate]
      exact Execution.simulates_loop scope.agrees_environment passes header fun value =>
        simulates_walkAll passes children (scope.agrees_environment.push header.loopVariable value)
  | echo elements => exact Execution.simulates_echo scope.agrees_environment elements

/-- Executing a node never changes the scope, whatever its result, and every loop unwinds. -/
theorem Node.walk_unwinds (passes : Nat) :
    (∀ (node : Node) (machine : Machine),
      ((node.walk (Execution.executor passes)).run machine).2.scope = machine.scope) ∧
    ∀ (header : LoopHeader) (children : List Node) (scope : Scope),
      Execution.Unwinds passes scope header (walkAll (Execution.executor passes) children) := by
  constructor
  · intro node machine
    exact (simulates_walk passes machine.scope node).scope_eq rfl rfl
  · intro header children scope
    exact Execution.unwinds passes header fun value =>
      simulates_walkAll passes children (scope.agrees_environment.push header.loopVariable value)

end TagTemplate
