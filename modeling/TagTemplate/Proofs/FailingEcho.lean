import TagTemplate.Proofs.CallDiscipline

/-!
Echo tags that fail. Elements only prepare what is written: they can change the mime type and the
kept parameters, and one that fails changes nothing. An echo tag therefore writes nothing before all
of its elements succeeded, and a failing one leaves what the elements before the failure prepared.
-/

namespace TagTemplate

def Context.Prepares (before after : Context) : Prop :=
  ∃ mimeType persistent temporary, after = { before with
    head.mimeType := mimeType
    persistent := persistent
    temporary := temporary }

namespace Context.Prepares

variable {before middle after : Context}

theorem refl (context : Context) : context.Prepares context :=
  ⟨context.head.mimeType, context.persistent, context.temporary, rfl⟩

theorem trans (first : before.Prepares middle) (second : middle.Prepares after) :
    before.Prepares after := by
  obtain ⟨_, _, _, rfl⟩ := first
  obtain ⟨mimeType, persistent, temporary, rfl⟩ := second
  exact ⟨mimeType, persistent, temporary, rfl⟩

theorem sink (prepares : before.Prepares after) : after.sink = before.sink := by
  obtain ⟨_, _, _, rfl⟩ := prepares
  rfl

theorem headSent (prepares : before.Prepares after) : after.headSent = before.headSent := by
  obtain ⟨_, _, _, rfl⟩ := prepares
  rfl

theorem forwards (prepares : before.Prepares after) (forwards : before.Forwards) :
    after.Forwards := by
  obtain ⟨_, _, _, rfl⟩ := prepares
  exact ⟨forwards.unlimited, forwards.settled⟩

end Context.Prepares

theorem Context.DiffersAt.prepares {scope : KeptScope} {name : String} {before after : Context}
    (differs : before.DiffersAt scope name after) : before.Prepares after := by
  obtain ⟨parameters, rfl, -⟩ := differs
  cases scope with
  | persistent => exact ⟨before.head.mimeType, parameters, before.temporary, rfl⟩
  | temporary => exact ⟨before.head.mimeType, before.persistent, parameters, rfl⟩

theorem Builtin.Changes.prepares {builtin : Builtin} {operands : List Value}
    {before after : Context} (changes : builtin.Changes operands before after) :
    before.Prepares after := by
  unfold Changes at changes
  split at changes
  · obtain ⟨mimeType, rfl⟩ := changes
    exact ⟨mimeType, before.persistent, before.temporary, rfl⟩
  · exact changes.prepares
  · exact changes.prepares
  · rw [changes]
    exact .refl before

namespace Echo

/-- What the outcome of a step is held to: it writes nothing, and changes nothing if it fails. -/
structure Settles (before : Context) (outcome : Except EvalError Unit × EchoState) : Prop where
  prepares : before.Prepares outcome.2.context
  failed : ∀ error, outcome.1 = .error error → outcome.2.context = before

theorem Settles.of_still {before : Context} {outcome : Except EvalError Unit × EchoState}
    (still : outcome.2.context = before) : Settles before outcome :=
  ⟨still ▸ .refl _, fun _ _ => still⟩

theorem settles_call (name : String) (state : EchoState) :
    Settles state.context ((call name).run state) := by
  unfold call
  split
  · rename_i builtin _
    change Settles state.context (builtin.run state.stack state.context)
    by_cases few : state.stack.length < builtin.arity
    · rw [Builtin.run_of_few few]
      exact .of_still rfl
    · have effect := Builtin.effect_of_le (Nat.le_of_not_lt few) state.context
      refine ⟨?_, fun _ => effect.context_of_error⟩
      rcases result : (builtin.run state.stack state.context).1 with error | _
      · rw [effect.context_of_error result]
        exact .refl _
      · exact (effect.changes result).prepares
  · exact .of_still rfl

theorem settles_evaluate (scope : Scope) (element : Element) (state : EchoState) :
    Settles state.context ((evaluate scope element).run state) := by
  cases element with
  | function name => exact settles_call name state
  | operator symbol => exact .of_still (TrackedEcho.silent_operate symbol state)
  | «variable» name =>
      rw [run_evaluate_variable]
      cases scope.peek name <;> exact .of_still rfl
  | _ => exact .of_still rfl

theorem prepares_forM (scope : Scope) (elements : List Element) (state : EchoState) :
    state.context.Prepares ((elements.forM (evaluate scope)).run state).2.context := by
  induction elements generalizing state with
  | nil => exact .refl _
  | cons element others ih =>
      have first := (settles_evaluate scope element state).prepares
      rw [List.forM, run_bind]
      rcases ran : (evaluate scope element).run state with ⟨_ | _, reached⟩ <;> rw [ran] at first
      · exact first
      · exact first.trans (ih reached)

theorem exists_failing {scope : Scope} {elements : List Element} {start state : EchoState}
    {error : EvalError}
    (failed : (elements.forM (evaluate scope)).run start = (.error error, state)) :
    ∃ before element after reached, elements = before ++ element :: after ∧
      (before.forM (evaluate scope)).run start = (.ok (), reached) ∧
      (evaluate scope element).run reached = (.error error, state) := by
  induction elements generalizing start with
  | nil => cases failed
  | cons element others ih =>
      rw [List.forM, run_bind] at failed
      rcases ran : (evaluate scope element).run start with ⟨_ | _, reached⟩
      · rw [ran] at failed
        exact ⟨[], element, others, start, rfl, rfl, ran.trans failed⟩
      · rw [ran] at failed
        obtain ⟨before, failing, after, last, rfl, succeeded, fails⟩ := ih failed
        refine ⟨element :: before, failing, after, last, rfl, ?_, fails⟩
        rw [List.forM, run_bind, ran]
        exact succeeded

end Echo

namespace Execution

/-- The parts of an echo tag: all elements first, and then, unless one of them fails, all writes. -/
structure EchoInOrder (elements : List Element) (machine : Machine) : Prop where
  failing : ∀ error state,
    (elements.forM (Echo.evaluate machine.scope)).run ⟨[], machine.context⟩ =
        (.error error, state) →
      ∃ before element after reached, elements = before ++ element :: after ∧
        (before.forM (Echo.evaluate machine.scope)).run ⟨[], machine.context⟩ =
          (.ok (), reached) ∧
        ((Echo.evaluate machine.scope element).run reached).1 = .error error ∧
        (echo elements).run machine =
          (.error (.failed error), { machine with context := reached.context }) ∧
        machine.context.Prepares reached.context ∧
        reached.context.sink = machine.context.sink ∧
        reached.context.headSent = machine.context.headSent
  succeeding : ∀ state,
    (elements.forM (Echo.evaluate machine.scope)).run ⟨[], machine.context⟩ = (.ok (), state) →
      state.context.sink = machine.context.sink ∧
        state.context.headSent = machine.context.headSent ∧
        (echo elements).run machine =
          (state.stack.reverse.forM fun value => write value.text).run
            { machine with context := state.context }

theorem echo_inOrder (elements : List Element) (machine : Machine) :
    EchoInOrder elements machine := by
  constructor
  case failing =>
    intro error state failed
    obtain ⟨before, element, after, reached, split, succeeded, fails⟩ :=
      Echo.exists_failing failed
    have prepares := Echo.prepares_forM machine.scope before ⟨[], machine.context⟩
    have still := (Echo.settles_evaluate machine.scope element reached).failed error
    rw [succeeded] at prepares
    rw [fails] at still
    refine ⟨before, element, after, reached, split, succeeded, by rw [fails], ?_, prepares,
      prepares.sink, prepares.headSent⟩
    rw [run_echo, failed, ← still rfl]
  case succeeding =>
    intro state succeeded
    have prepares := Echo.prepares_forM machine.scope elements ⟨[], machine.context⟩
    rw [succeeded] at prepares
    refine ⟨prepares.sink, prepares.headSent, ?_⟩
    rw [run_echo, succeeded]

end Execution

end TagTemplate
