import TagTemplate.Execution
import TagTemplate.Proofs.LexicalScope

/-!
The calls on a context. All that an execution does to its context is to make calls on it, and the
calls of an execution, made again one after the other, lead to the same context.
-/

namespace TagTemplate

inductive Call where
  | write (text : String)
  | writeBytes (data : ByteArray)
  | setMimeType (mimeType : String)
  | setEncoding (label : String)
  | setStatusCode (code : UInt16)
  | setStatusText (text : String)
  | addCookie (cookie : Cookie)
  | lookUp (scope : ParameterScope) (name : String)
  | setParameter (scope : KeptScope) (name value : String)
  | deleteParameter (scope : KeptScope) (name : String)

def Context.settle (context : Context) (change : Except ContextError Context) :
    Except ContextError Unit × Context :=
  match change with
  | .ok after => (.ok (), after)
  | .error error => (.error error, context)

def Context.perform (context : Context) : Call → Except ContextError Unit × Context
  | .write text => context.write text
  | .writeBytes data => context.writeBytes data
  | .setMimeType mimeType => context.settle (context.setMimeType mimeType)
  | .setEncoding label => context.settle (context.setEncoding label)
  | .setStatusCode code => context.settle (context.setStatusCode code)
  | .setStatusText text => context.settle (context.setStatusText text)
  | .addCookie cookie => context.settle (context.addCookie cookie)
  | .lookUp _ _ => (.ok (), context)
  | .setParameter scope name value => (.ok (), context.setParameter scope name value)
  | .deleteParameter scope name => (.ok (), context.deleteParameter scope name)

def Context.performAll (context : Context) (calls : List Call) : Context :=
  calls.foldl (fun context call => (context.perform call).2) context

theorem Context.performAll_append (context : Context) (before after : List Call) :
    context.performAll (before ++ after) = (context.performAll before).performAll after :=
  List.foldl_append

def Silent {ε σ α : Type} (view : σ → Context) (action : ExceptT ε (StateM σ) α) : Prop :=
  ∀ state, view (action.run state).2 = view state

theorem Silent.liftExcept {ε σ α : Type} {view : σ → Context} (result : Except ε α) :
    Silent view (liftExcept result : ExceptT ε (StateM σ) α) := by
  cases result <;> exact fun _ => rfl

theorem Silent.bind {ε σ α β : Type} {view : σ → Context} {action : ExceptT ε (StateM σ) α}
    {next : α → ExceptT ε (StateM σ) β} (first : Silent view action)
    (later : ∀ value, Silent view (next value)) : Silent view (action >>= next) := by
  intro state
  rw [← first state, run_bind]
  rcases action.run state with ⟨_ | value, after⟩
  · rfl
  · exact later value after

/-- Steps on states that hold a context, with the calls they make on the context. -/
structure Tracked (ε σ : Type) (view : σ → Context) (α : Type) where
  action : ExceptT ε (StateM σ) α
  calls : σ → List Call
  replays : ∀ state, view (action.run state).2 = (view state).performAll (calls state)

namespace Tracked

variable {ε σ α β : Type} {view : σ → Context}

def silent (action : ExceptT ε (StateM σ) α) (still : Silent view action) :
    Tracked ε σ view α :=
  ⟨action, fun _ => [], still⟩

def bind (first : Tracked ε σ view α) (next : α → Tracked ε σ view β) : Tracked ε σ view β where
  action := first.action >>= fun value => (next value).action
  calls := fun state => first.calls state ++
    match first.action.run state with
    | (.ok value, after) => (next value).calls after
    | (.error _, _) => []
  replays := by
    intro state
    have replayed := first.replays state
    rw [Context.performAll_append, ← replayed, run_bind]
    rcases first.action.run state with ⟨_ | value, after⟩
    · rfl
    · exact (next value).replays after

instance : Monad (Tracked ε σ view) where
  pure value := silent (pure value) fun _ => rfl
  bind := bind

theorem action_forM (step : α → Tracked ε σ view Unit) (values : List α) :
    (values.forM step).action = values.forM fun value => (step value).action := by
  induction values with
  | nil => rfl
  | cons value others ih =>
      rw [List.forM, List.forM, ← ih]
      rfl

end Tracked

/-- The calls of a function with these operands on the stack. One that finds too few of them makes
none. -/
def Builtin.calls : Builtin → List Value → List Call
  | .setMimeType, mimeType :: _ => [.setMimeType mimeType.text]
  | .get scope, _ :: name :: _ => [.lookUp scope name.text]
  | .set scope, name :: value :: _ => [.setParameter scope name.text value.text]
  | .delete scope, name :: _ => [.deleteParameter scope name.text]
  | _, _ => []

theorem Builtin.run_replays (builtin : Builtin) (stack : List Value) (context : Context) :
    (builtin.run stack context).2.context = context.performAll (builtin.calls stack) := by
  cases builtin with
  | sine =>
      rcases stack with _ | ⟨operand, below⟩
      · rfl
      · simp only [run]
        cases operand.toDouble <;> rfl
  | formatDecimal =>
      rcases stack with _ | ⟨pattern, _ | ⟨operand, below⟩⟩
      · rfl
      · rfl
      · simp only [run]
        cases operand.toDouble with
        | error error => rfl
        | ok number =>
            simp only
            cases formatDecimal? pattern.text number <;> rfl
  | duplicate => cases stack <;> rfl
  | swap => rcases stack with _ | ⟨first, _ | ⟨second, below⟩⟩ <;> rfl
  | setMimeType =>
      rcases stack with _ | ⟨mimeType, below⟩
      · rfl
      · change _ = (context.settle (context.setMimeType mimeType.text)).2
        simp only [run]
        cases context.setMimeType mimeType.text <;> rfl
  | get scope =>
      rcases stack with _ | ⟨fallback, _ | ⟨name, below⟩⟩
      · rfl
      · rfl
      · simp only [run]
        cases context.parameter? scope name.text <;> rfl
  | set scope => rcases stack with _ | ⟨name, _ | ⟨value, below⟩⟩ <;> rfl
  | delete scope => cases stack <;> rfl

abbrev TrackedEcho :=
  Tracked EvalError EchoState EchoState.context

namespace TrackedEcho

theorem silent_operate (symbol : Operator) : Silent EchoState.context (Echo.operate symbol) := by
  have pop (user : String) : Silent EchoState.context (Echo.pop user) :=
    fun ⟨stack, _⟩ => by cases stack <;> rfl
  exact (pop _).bind fun _ => (pop _).bind fun _ => (Silent.liftExcept _).bind fun _ _ => rfl

def call (name : String) : TrackedEcho Unit where
  action := Echo.call name
  calls := fun state =>
    match Builtin.ofName? name with
    | some builtin => builtin.calls state.stack
    | none => []
  replays := by
    intro state
    unfold Echo.call
    cases Builtin.ofName? name with
    | some builtin => exact builtin.run_replays state.stack state.context
    | none => rfl

def evaluate (scope : Scope) : Element → TrackedEcho Unit
  | .integer number => .silent (Echo.push (.integer number)) fun _ => rfl
  | .double number => .silent (Echo.push (.double number)) fun _ => rfl
  | .string content => .silent (Echo.push (.string content)) fun _ => rfl
  | .variable name =>
      .silent (Echo.evaluate scope (.variable name)) ((Silent.liftExcept _).bind fun _ _ => rfl)
  | .operator symbol => .silent (Echo.operate symbol) (silent_operate symbol)
  | .function name => call name

theorem evaluate_action (scope : Scope) (element : Element) :
    (evaluate scope element).action = Echo.evaluate scope element := by
  cases element <;> rfl

end TrackedEcho

abbrev TrackedExecution :=
  Tracked Halt Machine Machine.context

namespace TrackedExecution

theorem silent_check {α : Type} (result : Except EvalError α) :
    Silent Machine.context (Execution.check result) :=
  Silent.liftExcept _

theorem silent_get_bind {α : Type} {next : Machine → Execution α}
    (later : ∀ machine, Silent Machine.context (next machine)) :
    Silent Machine.context (get >>= next) :=
  Silent.bind (fun _ => rfl) later

theorem silent_bound (element : Element) :
    Silent Machine.context (Execution.bound element) := by
  cases element with
  | «variable» name => exact silent_get_bind fun _ => silent_check _
  | _ => exact fun _ => rfl

theorem silent_unbindVariable (name : String) :
    Silent Machine.context (Execution.unbindVariable name) :=
  silent_get_bind fun _ => (silent_check _).bind fun _ _ => rfl

theorem silent_isBelow (name : String) (stop : Value) :
    Silent Machine.context (Execution.isBelow name stop) :=
  silent_get_bind fun _ => (silent_check _).bind fun _ => (silent_check _).bind fun _ _ => rfl

theorem silent_advance (name : String) (step : Value) :
    Silent Machine.context (Execution.advance name step) :=
  silent_get_bind fun _ => (silent_check _).bind fun _ _ => rfl

def write (text : String) : TrackedExecution Unit :=
  ⟨Execution.write text, fun _ => [.write text], fun _ => rfl⟩

def observe (execution : TrackedExecution Unit) : TrackedExecution (Except Halt Unit) :=
  ⟨Execution.observe execution.action, execution.calls, execution.replays⟩

def repeatBody (name : String) (stop step : Value) (body : TrackedExecution Unit) :
    Nat → TrackedExecution Unit
  | 0 => .silent (Execution.repeatBody name stop step body.action 0) <|
      (silent_isBelow name stop).bind fun below => by cases below <;> exact fun _ => rfl
  | passes + 1 => do
      if ← .silent (Execution.isBelow name stop) (silent_isBelow name stop) then
        body
        .silent (Execution.advance name step) (silent_advance name step)
        repeatBody name stop step body passes

theorem repeatBody_action (name : String) (stop step : Value) (body : TrackedExecution Unit)
    (passes : Nat) : (repeatBody name stop step body passes).action =
      Execution.repeatBody name stop step body.action passes := by
  induction passes with
  | zero => rfl
  | succ passes ih =>
      rw [Execution.repeatBody, ← ih]
      refine congrArg (Execution.isBelow name stop >>= ·) (funext fun below => ?_)
      cases below <;> rfl

def withBinding (name : String) (value : Value) (execution : TrackedExecution Unit) :
    TrackedExecution Unit := do
  .silent (Execution.bindVariable name value) fun _ => rfl
  let result ← observe execution
  .silent (Execution.unbindVariable name) (silent_unbindVariable name)
  .silent (liftExcept result) (Silent.liftExcept result)

def loop (passes : Nat) (header : LoopHeader) (body : TrackedExecution Unit) :
    TrackedExecution Unit := do
  let start ← .silent (Execution.bound header.start) (silent_bound header.start)
  let stop ← .silent (Execution.bound header.stop) (silent_bound header.stop)
  match header.step with
  | none => .silent (throw (.failed (.missingStep header.loopVariable))) fun _ => rfl
  | some element =>
      let step ← .silent (Execution.bound element) (silent_bound element)
      withBinding header.loopVariable start
        (repeatBody header.loopVariable stop step body passes)

theorem loop_action (passes : Nat) (header : LoopHeader) (body : TrackedExecution Unit) :
    (loop passes header body).action = Execution.loop passes header body.action := by
  refine congrArg (Execution.bound header.start >>= ·) (funext fun start => ?_)
  refine congrArg (Execution.bound header.stop >>= ·) (funext fun stop => ?_)
  cases header.step with
  | none => rfl
  | some element =>
      simp only [← repeatBody_action]
      rfl

def results (elements : List Element) :
    TrackedExecution (Except EvalError Unit × List Value) where
  action := fun machine =>
    let evaluation := elements.forM (TrackedEcho.evaluate machine.scope)
    let (result, state) := evaluation.action.run ⟨[], machine.context⟩
    (.ok (result, state.stack), { machine with context := state.context })
  calls := fun machine =>
    (elements.forM (TrackedEcho.evaluate machine.scope)).calls ⟨[], machine.context⟩
  replays := fun machine =>
    (elements.forM (TrackedEcho.evaluate machine.scope)).replays ⟨[], machine.context⟩

def echo (elements : List Element) : TrackedExecution Unit := do
  let (result, stack) ← results elements
  .silent (Execution.check result) (silent_check result)
  stack.reverse.forM fun value => write value.text

theorem echo_action (elements : List Element) :
    (echo elements).action = Execution.echo elements := by
  have elementwise (scope : Scope) : (elements.forM (TrackedEcho.evaluate scope)).action =
      elements.forM (Echo.evaluate scope) := by
    rw [Tracked.action_forM]
    exact congrArg elements.forM (funext (TrackedEcho.evaluate_action scope))
  have written (values : List Value) : (values.forM fun value => write value.text).action =
      values.forM fun value => Execution.write value.text :=
    Tracked.action_forM _ values
  simp only [Execution.echo, ← elementwise, ← written]
  rfl

def tracker (passes : Nat) : Visitor TrackedExecution where
  document := fun _ walkChildren => walkChildren
  text := write
  loop := fun header _ walkChildren => loop passes header walkChildren
  echo := echo

end TrackedExecution

theorem Node.walkAll_tracker (passes : Nat) (nodes : List Node) :
    (walkAll (TrackedExecution.tracker passes) nodes).action =
      walkAll (Execution.executor passes) nodes := by
  induction nodes using Node.forestInduction with
  | nil => rfl
  | document children others ihChildren ihOthers =>
      rw [walkAll, walkAll, ← ihOthers]
      exact congrArg (· >>= _) ihChildren
  | text content others ih =>
      rw [walkAll, walkAll, ← ih]
      rfl
  | loop header children others ihChildren ihOthers =>
      rw [walkAll, walkAll, ← ihOthers]
      refine congrArg (· >>= _) ?_
      change (TrackedExecution.loop _ _ _).action = Execution.loop _ _ _
      rw [TrackedExecution.loop_action, ihChildren]
  | echo elements others ih =>
      rw [walkAll, walkAll, ← ih]
      exact congrArg (· >>= _) (TrackedExecution.echo_action elements)

def Document.calls (passes : Nat) (document : Document) (context : Context) : List Call :=
  (document.walk (TrackedExecution.tracker passes)).calls ⟨.empty, context⟩

theorem Document.execute_replays (passes : Nat) (document : Document) (context : Context) :
    (document.execute passes context).2 =
      context.performAll (document.calls passes context) := by
  have replayed := (document.walk (TrackedExecution.tracker passes)).replays ⟨.empty, context⟩
  have same : (document.walk (TrackedExecution.tracker passes)).action = document.run passes :=
    Node.walkAll_tracker passes document.children
  rw [same] at replayed
  exact replayed

end TagTemplate
