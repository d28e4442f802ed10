import TagTemplate.Proofs.LexicalScope

/-!
The steps of an echo tag. Elements are evaluated one after the other up to the first failure; an
operator takes its operands off the stack before it is applied. What is left in the end is written,
and a failing tag writes nothing. Where nothing stands in the way, what is written arrives byte by
byte in the sink.
-/

namespace TagTemplate

theorem Builtin.name_of_ofName? {name : String} {builtin : Builtin}
    (found : ofName? name = some builtin) : builtin.name = name := by
  simpa using List.find?_some found

/-- What is written goes straight into the sink: there is no limit, and no head is to go first. -/
structure Context.Forwards (context : Context) : Prop where
  unlimited : context.sink.room = none
  settled : ¬(context.emitsHead && !context.headSent)

def Context.receive (context : Context) (data : ByteArray) : Context :=
  { context with sink.bytes := context.sink.bytes ++ data }

namespace Context.Forwards

variable {context : Context}

theorem receive (forwards : context.Forwards) (data : ByteArray) :
    (context.receive data).Forwards :=
  ⟨forwards.unlimited, forwards.settled⟩

theorem writeBytes_eq (forwards : context.Forwards) (data : ByteArray) :
    context.writeBytes data = (.ok (), context.receive data) := by
  simp only [writeBytes, if_neg forwards.settled, writeBody,
    Sink.write_of_no_room forwards.unlimited, if_true, Context.receive]

end Context.Forwards

namespace Echo

theorem run_evaluate_variable (scope : Scope) (name : String) (stack : List Value)
    (context : Context) :
    (evaluate scope (.variable name)).run ⟨stack, context⟩ =
      match scope.peek name with
      | .ok value => EchoState.done (.string value.text :: stack) context
      | .error error => EchoState.failed error stack context := by
  change (liftExcept (scope.peek name) >>= fun value => push (.string value.text)).run
    ⟨stack, context⟩ = _
  rw [run_bind]
  cases scope.peek name <;> rfl

theorem run_operate (symbol : Operator) (left right : Value) (below : List Value)
    (context : Context) :
    (operate symbol).run ⟨left :: right :: below, context⟩ =
      match symbol.apply left right with
      | .ok result => EchoState.done (result :: below) context
      | .error error => EchoState.failed (.arithmetic error) below context := by
  change (liftExcept ((symbol.apply left right).mapError EvalError.arithmetic) >>= push).run
    ⟨below, context⟩ = _
  rw [run_bind]
  cases symbol.apply left right <;> rfl

theorem run_forM_append (scope : Scope) (before after : List Element) (state : EchoState) :
    ((before ++ after).forM (evaluate scope)).run state =
      match (before.forM (evaluate scope)).run state with
      | (.ok (), reached) => (after.forM (evaluate scope)).run reached
      | (.error error, reached) => (.error error, reached) := by
  have split : (before ++ after).forM (evaluate scope) =
      before.forM (evaluate scope) >>= fun _ => after.forM (evaluate scope) := List.forM_append
  rw [split, run_bind]
  rcases (before.forM (evaluate scope)).run state with ⟨_ | _, reached⟩ <;> rfl

theorem run_forM_singleton (scope : Scope) (element : Element) (state : EchoState) :
    ([element].forM (evaluate scope)).run state = (evaluate scope element).run state := by
  rw [List.forM]
  exact congrFun (bind_pure_unit (x := evaluate scope element)) state

end Echo

theorem Execution.run_echo (elements : List Element) (machine : Machine) :
    (echo elements).run machine =
      match (elements.forM (Echo.evaluate machine.scope)).run ⟨[], machine.context⟩ with
      | (.ok (), state) =>
          (state.stack.reverse.forM fun value => write value.text).run
            { machine with context := state.context }
      | (.error error, state) =>
          (.error (.failed error), { machine with context := state.context }) := by
  have executed : ∀ outcome,
      (elements.forM (Echo.evaluate machine.scope)).run ⟨[], machine.context⟩ = outcome →
      (echo elements).run machine =
        (check outcome.1 >>= fun _ =>
          outcome.2.stack.reverse.forM fun value => write value.text).run
            { machine with context := outcome.2.context } := by
    rintro _ rfl
    rfl
  rw [executed _ rfl]
  rcases (elements.forM (Echo.evaluate machine.scope)).run ⟨[], machine.context⟩ with ⟨_ | _, state⟩
    <;> rfl

namespace Execution

variable {machine : Machine}

theorem run_write (forwards : machine.context.Forwards) (text : String) :
    (write text).run machine =
      (.ok (), { machine with context := machine.context.receive text.toUTF8 }) := by
  have wrote : (write text).run machine =
      ((machine.context.writeBytes text.toUTF8).1.mapError fun error => .failed (.context error),
        { machine with context := (machine.context.writeBytes text.toUTF8).2 }) := rfl
  rw [wrote, forwards.writeBytes_eq]
  rfl

theorem run_writeAll (forwards : machine.context.Forwards) (values : List Value) :
    (values.forM fun value => write value.text).run machine = (.ok (), { machine with
      context := machine.context.receive (String.join (values.map Value.text)).toUTF8 }) := by
  induction values generalizing machine with
  | nil =>
      have nothing : machine.context.receive ("" : String).toUTF8 = machine.context := by
        simp [Context.receive]
      change (Except.ok (), machine) = _
      rw [List.map_nil, String.join_nil, nothing]
  | cons value others ih =>
      rw [List.forM, run_bind, run_write forwards]
      refine (ih (forwards.receive _)).trans ?_
      simp [Context.receive, ByteArray.append_assoc]

end Execution

end TagTemplate
