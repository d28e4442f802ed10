import TagTemplate.Proofs.ParameterScopes

/-!
What a call of a function does to the stack and to the context. A call that finds too few operands
does nothing. Any other takes its operands off one by one, leaves the values below them alone and
changes at most one thing in the context, and nothing if it fails.
-/

namespace TagTemplate

/-- Contexts that agree in everything but the one kept parameter of this name. -/
def Context.DiffersAt (scope : KeptScope) (name : String) (before after : Context) : Prop :=
  ∃ parameters, after = before.withParameters scope.scope parameters ∧
    ∀ other, other ≠ name → parameters[other]? = (before.parameters scope.scope)[other]?

theorem Context.eq_of_setMimeType {before after : Context} {mimeType : String}
    (changed : before.setMimeType mimeType = .ok after) :
    after = { before with head.mimeType := mimeType } := by
  unfold setMimeType changeHead at changed
  split at changed
  · cases changed
  · exact (Except.ok.inj changed).symm

theorem Context.setParameter_differsAt (context : Context) (scope : KeptScope)
    (name value : String) :
    context.DiffersAt scope name (context.setParameter scope name value) := by
  cases scope <;>
    exact ⟨_, rfl, fun other different => by
      simp [parameters, KeptScope.scope, Std.ExtTreeMap.getElem?_insert, Ne.symm different]⟩

theorem Context.deleteParameter_differsAt (context : Context) (scope : KeptScope) (name : String) :
    context.DiffersAt scope name (context.deleteParameter scope name) := by
  cases scope <;>
    exact ⟨_, rfl, fun other different => by
      simp [parameters, KeptScope.scope, Std.ExtTreeMap.getElem?_erase, Ne.symm different]⟩

namespace Echo

def context : Echo Context := do
  let state ← get
  return state.context

def change (attempt : Context → Except ContextError Context) : Echo Unit := do
  let state ← get
  let changed ← liftExcept ((attempt state.context).mapError EvalError.context)
  set { state with context := changed }

theorem run_change (attempt : Context → Except ContextError Context) (stack : List Value)
    (context : Context) :
    (change attempt).run ⟨stack, context⟩ =
      match attempt context with
      | .ok changed => EchoState.done stack changed
      | .error error => EchoState.failed (.context error) stack context := by
  have opened : (change attempt).run ⟨stack, context⟩ =
      (liftExcept ((attempt context).mapError EvalError.context) >>= fun changed =>
        set (EchoState.mk stack changed) : Echo Unit).run ⟨stack, context⟩ := rfl
  rw [opened, run_bind]
  cases attempt context <;> rfl

theorem run_pop_bind (user : String) (next : Value → Echo Unit) (top : Value) (below : List Value)
    (context : Context) :
    (pop user >>= next).run ⟨top :: below, context⟩ = (next top).run ⟨below, context⟩ :=
  rfl

end Echo

namespace Builtin

def results : Builtin → Nat
  | .sine | .formatDecimal | .get _ => 1
  | .duplicate | .swap => 2
  | .setMimeType | .set _ | .delete _ => 0

open Echo in
def body (builtin : Builtin) : Echo Unit :=
  match builtin with
  | .sine => do
      let operand ← pop builtin.user
      let number ← liftExcept (operand.toDouble.mapError EvalError.arithmetic)
      push (.double number.sine)
  | .formatDecimal => do
      let pattern ← pop builtin.user
      let operand ← pop builtin.user
      let number ← liftExcept (operand.toDouble.mapError EvalError.arithmetic)
      match formatDecimal? pattern.text number with
      | some text => push (.string text)
      | none => throw (.invalidPattern pattern.text)
  | .duplicate => do
      let operand ← pop builtin.user
      push operand
      push operand
  | .swap => do
      let first ← pop builtin.user
      let second ← pop builtin.user
      push first
      push second
  | .setMimeType => do
      let mimeType ← pop builtin.user
      change fun context => context.setMimeType mimeType.text
  | .get scope => do
      let fallback ← pop builtin.user
      let name ← pop builtin.user
      let context ← context
      match context.parameter? scope name.text with
      | some value => push (.string value)
      | none => push fallback
  | .set scope => do
      let name ← pop builtin.user
      let value ← pop builtin.user
      change fun context => .ok (context.setParameter scope name.text value.text)
  | .delete scope => do
      let name ← pop builtin.user
      change fun context => .ok (context.deleteParameter scope name.text)

def Changes (builtin : Builtin) (operands : List Value) (before after : Context) : Prop :=
  match builtin, operands with
  | .setMimeType, _ => ∃ mimeType, after = { before with head.mimeType := mimeType }
  | .set scope, name :: _ | .delete scope, name :: _ => before.DiffersAt scope name.text after
  | _, _ => after = before

/-- What comes of a function with these operands above other values. -/
inductive Effect (builtin : Builtin) (operands below : List Value) (context : Context) :
    Except EvalError Unit × EchoState → Prop
  | done (left : List Value) {changed} : left.length = builtin.results →
      builtin.Changes operands context changed →
      Effect builtin operands below context (EchoState.done (left ++ below) changed)
  | failed {error} : (∀ user, error ≠ .missingOperands user) →
      Effect builtin operands below context (EchoState.failed error below context)

variable {builtin : Builtin}

theorem run_effect {operands : List Value} (exact : operands.length = builtin.arity)
    (below : List Value) (context : Context) :
    builtin.Effect operands below context (builtin.run (operands ++ below) context) := by
  cases builtin with
  | sine =>
      obtain ⟨operand, rfl⟩ := List.length_eq_one_iff.mp exact
      simp only [List.singleton_append, run]
      cases operand.toDouble with
      | ok number => exact .done [_] rfl rfl
      | error error => exact .failed (by simp)
  | formatDecimal =>
      obtain ⟨pattern, operand, rfl⟩ := List.length_eq_two.mp exact
      simp only [List.cons_append, List.nil_append, run]
      cases operand.toDouble with
      | error error => exact .failed (by simp)
      | ok number =>
          simp only
          cases formatDecimal? pattern.text number with
          | some text => exact .done [_] rfl rfl
          | none => exact .failed (by simp)
  | duplicate =>
      obtain ⟨operand, rfl⟩ := List.length_eq_one_iff.mp exact
      exact .done [operand, operand] rfl rfl
  | swap =>
      obtain ⟨first, second, rfl⟩ := List.length_eq_two.mp exact
      exact .done [second, first] rfl rfl
  | setMimeType =>
      obtain ⟨mimeType, rfl⟩ := List.length_eq_one_iff.mp exact
      simp only [List.singleton_append, run]
      cases changed : context.setMimeType mimeType.text with
      | ok after => exact .done [] rfl ⟨mimeType.text, Context.eq_of_setMimeType changed⟩
      | error error => exact .failed (by simp)
  | get scope =>
      obtain ⟨fallback, name, rfl⟩ := List.length_eq_two.mp exact
      simp only [List.cons_append, List.nil_append, run]
      cases context.parameter? scope name.text <;> exact .done [_] rfl rfl
  | set scope =>
      obtain ⟨name, value, rfl⟩ := List.length_eq_two.mp exact
      exact .done [] rfl (context.setParameter_differsAt scope name.text value.text)
  | delete scope =>
      obtain ⟨name, rfl⟩ := List.length_eq_one_iff.mp exact
      exact .done [] rfl (context.deleteParameter_differsAt scope name.text)

theorem effect_of_le {stack : List Value} (enough : builtin.arity ≤ stack.length)
    (context : Context) :
    builtin.Effect (stack.take builtin.arity) (stack.drop builtin.arity) context
      (builtin.run stack context) := by
  have effect := run_effect (List.length_take_of_le enough) (stack.drop builtin.arity) context
  rwa [List.take_append_drop] at effect

theorem run_body {operands : List Value} (exact : operands.length = builtin.arity)
    (below : List Value) (context : Context) :
    builtin.body.run ⟨operands ++ below, context⟩ = builtin.run (operands ++ below) context := by
  cases builtin with
  | sine =>
      obtain ⟨operand, rfl⟩ := List.length_eq_one_iff.mp exact
      simp only [List.singleton_append, body, run, Echo.run_pop_bind]
      rw [run_bind]
      cases operand.toDouble <;> rfl
  | formatDecimal =>
      obtain ⟨pattern, operand, rfl⟩ := List.length_eq_two.mp exact
      simp only [List.cons_append, List.nil_append, body, run, Echo.run_pop_bind]
      rw [run_bind]
      cases operand.toDouble with
      | error error => rfl
      | ok number =>
          change (match formatDecimal? pattern.text number with
            | some text => Echo.push (.string text)
            | none => throw (EvalError.invalidPattern pattern.text)).run ⟨below, context⟩ = _
          dsimp only
          cases formatDecimal? pattern.text number <;> rfl
  | setMimeType =>
      obtain ⟨mimeType, rfl⟩ := List.length_eq_one_iff.mp exact
      simp only [List.singleton_append, body, run, Echo.run_pop_bind]
      rw [Echo.run_change]
      cases context.setMimeType mimeType.text <;> rfl
  | get scope =>
      obtain ⟨fallback, name, rfl⟩ := List.length_eq_two.mp exact
      simp only [List.cons_append, List.nil_append, body, run, Echo.run_pop_bind]
      change (match context.parameter? scope name.text with
        | some value => Echo.push (.string value)
        | none => Echo.push fallback).run ⟨below, context⟩ = _
      cases context.parameter? scope name.text <;> rfl
  | duplicate | delete scope =>
      obtain ⟨operand, rfl⟩ := List.length_eq_one_iff.mp exact
      rfl
  | swap | set scope =>
      obtain ⟨first, second, rfl⟩ := List.length_eq_two.mp exact
      rfl

theorem arity_le_two (builtin : Builtin) : builtin.arity ≤ 2 := by
  cases builtin <;> simp [arity]

theorem run_of_few {stack : List Value} (few : stack.length < builtin.arity) (context : Context) :
    builtin.run stack context =
      EchoState.failed (.missingOperands builtin.user) stack context := by
  rcases stack with _ | ⟨operand, _ | ⟨second, below⟩⟩
  · cases builtin <;> rfl
  · cases builtin with
    | formatDecimal | swap | get _ | set _ => rfl
    | _ => exact absurd few (Nat.lt_irrefl 1)
  · have bound := builtin.arity_le_two
    simp only [List.length_cons] at few
    omega

/-- What a call of a function is held to. -/
structure Disciplined (builtin : Builtin) (stack : List Value) (context : Context) : Prop where
  short : stack.length < builtin.arity →
    builtin.run stack context = EchoState.failed (.missingOperands builtin.user) stack context
  supplied : builtin.arity ≤ stack.length →
    builtin.run stack context = builtin.body.run ⟨stack, context⟩ ∧
      ∀ user, (builtin.body.run ⟨stack, context⟩).1 ≠ .error (.missingOperands user)
  below : builtin.arity ≤ stack.length →
    ∃ left, (builtin.run stack context).2.stack = left ++ stack.drop builtin.arity ∧
      ((builtin.run stack context).1 = .ok () → left.length = builtin.results)
  failed : ∀ error, (builtin.run stack context).1 = .error error →
    (builtin.run stack context).2.context = context
  changes : (builtin.run stack context).1 = .ok () →
    builtin.Changes (stack.take builtin.arity) context (builtin.run stack context).2.context
  sink : (builtin.run stack context).2.context.sink = context.sink

theorem Changes.sink {operands : List Value} {before after : Context}
    (changes : builtin.Changes operands before after) : after.sink = before.sink := by
  unfold Changes at changes
  split at changes
  · obtain ⟨mimeType, rfl⟩ := changes
    rfl
  · rename_i scope name _
    obtain ⟨parameters, rfl, -⟩ := changes
    cases scope <;> rfl
  · rename_i scope name _
    obtain ⟨parameters, rfl, -⟩ := changes
    cases scope <;> rfl
  · rw [changes]

namespace Effect

variable {operands below : List Value} {context : Context}
  {outcome : Except EvalError Unit × EchoState}

theorem nothing_missing (effect : builtin.Effect operands below context outcome) (user : String) :
    outcome.1 ≠ .error (.missingOperands user) := by
  cases effect with
  | done _ _ _ => exact nofun
  | failed other => exact fun same => other user (Except.error.inj same)

theorem stack_eq (effect : builtin.Effect operands below context outcome) :
    ∃ left, outcome.2.stack = left ++ below ∧
      (outcome.1 = .ok () → left.length = builtin.results) := by
  cases effect with
  | done left length _ => exact ⟨left, rfl, fun _ => length⟩
  | failed _ => exact ⟨[], rfl, nofun⟩

theorem context_of_error (effect : builtin.Effect operands below context outcome)
    {error : EvalError} (failed : outcome.1 = .error error) : outcome.2.context = context := by
  cases effect with
  | done _ _ _ => cases failed
  | failed _ => rfl

theorem changes (effect : builtin.Effect operands below context outcome)
    (succeeded : outcome.1 = .ok ()) : builtin.Changes operands context outcome.2.context := by
  cases effect with
  | done _ _ changes => exact changes
  | failed _ => cases succeeded

end Effect

theorem run_disciplined (builtin : Builtin) (stack : List Value) (context : Context) :
    builtin.Disciplined stack context := by
  by_cases few : stack.length < builtin.arity
  · have missing := run_of_few few context
    constructor
    case short => exact fun _ => missing
    case supplied => exact fun enough => absurd few (Nat.not_lt_of_le enough)
    case below => exact fun enough => absurd few (Nat.not_lt_of_le enough)
    case failed => exact fun _ _ => congrArg (fun ran => ran.2.context) missing
    case changes =>
      intro succeeded
      rw [missing] at succeeded
      cases succeeded
    case sink => exact congrArg (fun ran => ran.2.context.sink) missing
  · have enough := Nat.le_of_not_lt few
    have effect := effect_of_le enough context
    have stepwise := run_body (List.length_take_of_le enough) (stack.drop builtin.arity) context
    rw [List.take_append_drop] at stepwise
    constructor
    case short => exact fun less => absurd less few
    case supplied => exact fun _ => ⟨stepwise.symm, stepwise ▸ effect.nothing_missing⟩
    case below => exact fun _ => effect.stack_eq
    case failed => exact fun _ => effect.context_of_error
    case changes => exact effect.changes
    case sink =>
      rcases result : (builtin.run stack context).1 with error | _
      · rw [effect.context_of_error result]
      · exact (effect.changes result).sink

end Builtin

end TagTemplate
