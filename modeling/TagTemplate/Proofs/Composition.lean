import TagTemplate.Proofs.RelatedRuns

/-!
What evaluations are composed of. All that an evaluation does is to write texts, to evaluate the
elements of echo tags, and to fail. What holds of these steps and is kept by composition therefore
holds of the evaluation of any nodes.
-/

namespace TagTemplate

namespace Builtin

def Ignores (change : Context → Context) : Builtin → Prop
  | .sine | .formatDecimal | .duplicate | .swap => True
  | .setMimeType => ∀ context mimeType,
      (change context).setMimeType mimeType = (context.setMimeType mimeType).map change
  | .get scope => ∀ context name,
      (change context).parameter? scope name = context.parameter? scope name
  | .set scope => ∀ context name value,
      (change context).setParameter scope name value =
        change (context.setParameter scope name value)
  | .delete scope => ∀ context name,
      (change context).deleteParameter scope name = change (context.deleteParameter scope name)

theorem Ignores.respects {change : Context → Context} {builtin : Builtin}
    (ignores : builtin.Ignores change) :
    builtin.Respects fun context changed => changed = change context := by
  cases builtin with
  | setMimeType =>
      rintro context _ mimeType rfl
      rw [ignores context mimeType]
      cases context.setMimeType mimeType <;> exact ⟨rfl, rfl⟩
  | get scope =>
      rintro context _ name rfl
      exact (ignores context name).symm
  | set scope =>
      rintro context _ name value rfl
      exact ignores context name value
  | delete scope =>
      rintro context _ name rfl
      exact ignores context name
  | _ => trivial

end Builtin

namespace Echo

variable {α : Type} {change : Context → Context}

def Commutes (change : Context → Context) (action : Echo α) : Prop :=
  ∀ stack context, action.run ⟨stack, change context⟩ =
    ((action.run ⟨stack, context⟩).1,
      ⟨(action.run ⟨stack, context⟩).2.stack, change (action.run ⟨stack, context⟩).2.context⟩)

theorem commutes_iff_respects {action : Echo α} : Commutes change action ↔
    Respects (EchoState.Alike fun context changed => changed = change context) action := by
  constructor
  · rintro commutes ⟨stack, context⟩ ⟨_, _⟩ ⟨rfl, rfl⟩
    rw [commutes stack context]
    exact ⟨rfl, rfl, rfl⟩
  · intro respects stack context
    obtain ⟨result, kept, changed⟩ := respects ⟨stack, context⟩ ⟨stack, change context⟩ ⟨rfl, rfl⟩
    exact Prod.ext result.symm (congrArg₂ EchoState.mk kept.symm changed)

theorem Commutes.evaluate (environment : Environment) {element : Element}
    (ignores : ∀ name builtin, element = .function name → Builtin.ofName? name = some builtin →
      builtin.Ignores change) : Commutes change (environment.evaluate element) :=
  commutes_iff_respects.mpr <|
    respects_evaluate environment fun name builtin same found =>
      (ignores name builtin same found).respects

end Echo

namespace Evaluation

def results (environment : Environment) (elements : List Element) :
    Evaluation (Except EvalError Unit × List Value) := fun context =>
  let (result, state) := (elements.forM environment.evaluate).run ⟨[], context⟩
  (.ok (result, state.stack), state.context)

theorem respects_results {related : Context → Context → Prop} {environment : Environment}
    {elements : List Element}
    (respects : ∀ element ∈ elements,
      Respects (EchoState.Alike related) (environment.evaluate element)) :
    Respects related (results environment elements) := by
  intro left right contexts
  obtain ⟨result, stack, reached⟩ :=
    Respects.forM respects ⟨[], left⟩ ⟨[], right⟩ ⟨rfl, contexts⟩
  exact ⟨congrArg Except.ok (Prod.ext result stack), reached⟩

theorem run_results_of_commutes (change : Context → Context) {environment : Environment}
    {elements : List Element}
    (commutes : ∀ element ∈ elements, Echo.Commutes change (environment.evaluate element))
    (context : Context) :
    (results environment elements).run (change context) =
      (((results environment elements).run context).1,
        change ((results environment elements).run context).2) := by
  have respects := respects_results fun element member =>
    Echo.commutes_iff_respects.mp (commutes element member)
  obtain ⟨result, changed⟩ := respects context (change context) rfl
  exact Prod.ext result.symm changed

/-- Steps that do nothing or fail, and writes, have the property, and composition keeps it. -/
structure Compositional (holds : {α : Type} → Evaluation α → Prop) : Prop where
  pure : ∀ {α : Type} (value : α), holds (Pure.pure value : Evaluation α)
  throw : ∀ {α : Type} (halt : Halt), holds (MonadExcept.throw halt : Evaluation α)
  bind : ∀ {α β : Type} {first : Evaluation α} {next : α → Evaluation β},
    holds first → (∀ value, holds (next value)) → holds (first >>= next)
  write : ∀ text, holds (Evaluation.write text)

theorem echo_eq_bind (environment : Environment) (elements : List Element) :
    echo environment elements = results environment elements >>= fun (result, stack) =>
      check result >>= fun _ => stack.reverse.forM fun value => write value.text :=
  rfl

namespace Compositional

variable {holds : {α : Type} → Evaluation α → Prop} {α : Type}

theorem check (closed : Compositional holds) (result : Except EvalError α) :
    holds (Evaluation.check result) := by
  cases result with
  | ok value => exact closed.pure value
  | error error => exact closed.throw (.failed error)

theorem forM (closed : Compositional holds) {action : α → Evaluation Unit} (values : List α)
    (each : ∀ value, holds (action value)) : holds (values.forM action) := by
  induction values with
  | nil => exact closed.pure ()
  | cons value others ih => exact closed.bind (each value) fun _ => ih

theorem bound (closed : Compositional holds) (environment : Environment) (element : Element) :
    holds (Evaluation.bound environment element) := by
  cases element with
  | «variable» name => exact closed.check _
  | _ => exact closed.pure _

theorem echo (closed : Compositional holds) {environment : Environment} {elements : List Element}
    (evaluated : holds (results environment elements)) :
    holds (Evaluation.echo environment elements) := by
  rw [echo_eq_bind]
  exact closed.bind evaluated fun (result, stack) =>
    closed.bind (closed.check result) fun _ => closed.forM _ fun value => closed.write value.text

theorem isBelow (closed : Compositional holds) (current stop : Value) :
    holds (Evaluation.isBelow current stop) :=
  closed.bind (closed.check _) fun _ => closed.pure _

theorem iterate (closed : Compositional holds) {stop step : Value}
    {body : Value → Evaluation Unit} (each : ∀ value, holds (body value)) (passes : Nat)
    (current : Value) : holds (Evaluation.iterate stop step body passes current) := by
  induction passes generalizing current with
  | zero =>
      rw [Evaluation.iterate]
      refine closed.bind (closed.isBelow current stop) fun below => ?_
      cases below with
      | false => exact closed.pure ()
      | true => exact closed.throw _
  | succ passes ih =>
      rw [Evaluation.iterate]
      refine closed.bind (closed.isBelow current stop) fun below => ?_
      cases below with
      | false => exact closed.pure ()
      | true => exact closed.bind (each current) fun _ => closed.bind (closed.check _) ih

theorem loop (closed : Compositional holds) (passes : Nat) (environment : Environment)
    (header : LoopHeader) {body : Environment → Evaluation Unit}
    (each : ∀ inner, holds (body inner)) :
    holds (Evaluation.loop passes environment header body) := by
  refine closed.bind (closed.bound environment header.start) fun start =>
    closed.bind (closed.bound environment header.stop) fun stop => ?_
  cases header.step with
  | none => exact closed.throw _
  | some element =>
      exact closed.bind (closed.bound environment element) fun step =>
        closed.iterate (fun value => each _) passes start

theorem evaluateAll (closed : Compositional holds) (passes : Nat) (nodes : List Node)
    (evaluated : ∀ elements, Node.echo elements ∈ Node.forest nodes → ∀ environment,
      holds (results environment elements)) (environment : Environment) :
    holds (Node.evaluateAll passes environment nodes) := by
  induction nodes using Node.forestInduction generalizing environment with
  | nil => exact closed.pure ()
  | document children others ihChildren ihOthers =>
      simp only [Node.forest_cons, Node.children, List.mem_cons, List.mem_append, or_imp,
        forall_and] at evaluated
      obtain ⟨_, inner, outer⟩ := evaluated
      exact closed.bind (ihChildren inner environment) fun _ => ihOthers outer environment
  | text content others ih =>
      simp only [Node.forest_cons, List.mem_cons, List.mem_append, or_imp, forall_and]
        at evaluated
      obtain ⟨_, _, outer⟩ := evaluated
      exact closed.bind (closed.write content) fun _ => ih outer environment
  | loop header children others ihChildren ihOthers =>
      simp only [Node.forest_cons, Node.children, List.mem_cons, List.mem_append, or_imp,
        forall_and] at evaluated
      obtain ⟨_, inner, outer⟩ := evaluated
      rw [Node.evaluateAll, Node.evaluate]
      -- The body is evaluated in an environment of its own at every pass.
      have looped := closed.loop passes environment header (ihChildren inner)
      exact closed.bind looped fun _ => ihOthers outer environment
  | echo elements others ih =>
      simp only [Node.forest_cons, List.mem_cons, List.mem_append, or_imp, forall_and]
        at evaluated
      obtain ⟨first, _, outer⟩ := evaluated
      have echoed := closed.echo (first elements rfl environment)
      exact closed.bind echoed fun _ => ih outer environment

end Compositional

theorem compositional_respects {related : Context → Context → Prop}
    (write : ∀ text, Respects related (write text)) :
    Compositional fun evaluation => Respects related evaluation where
  pure := Respects.pure
  throw := Respects.throw
  bind := Respects.bind
  write := write

end Evaluation

end TagTemplate
