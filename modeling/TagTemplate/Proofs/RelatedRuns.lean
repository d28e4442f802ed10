import TagTemplate.Proofs.Calls

/-!
Two runs side by side. Steps that give one result on related states, and leave related states, keep
doing so when they are composed. The functions are the only steps of an echo tag that touch the
context; what a relation between contexts asks of them is therefore all that it asks of a tag.
-/

namespace TagTemplate

variable {ε σ α β : Type}

/-- Two outcomes with the same result and related states. -/
structure Alike (related : σ → σ → Prop) (left right : Except ε α × σ) : Prop where
  result : left.1 = right.1
  states : related left.2 right.2

def Respects (related : σ → σ → Prop) (action : ExceptT ε (StateM σ) α) : Prop :=
  ∀ left right, related left right → Alike related (action.run left) (action.run right)

namespace Respects

variable {related : σ → σ → Prop}

theorem pure (value : α) : Respects related (Pure.pure value : ExceptT ε (StateM σ) α) :=
  fun _ _ states => ⟨rfl, states⟩

theorem throw (error : ε) : Respects related (MonadExcept.throw error : ExceptT ε (StateM σ) α) :=
  fun _ _ states => ⟨rfl, states⟩

theorem liftExcept (result : Except ε α) :
    Respects related (liftExcept result : ExceptT ε (StateM σ) α) := by
  cases result with
  | ok value => exact pure value
  | error error => exact throw error

theorem bind {action : ExceptT ε (StateM σ) α} {next : α → ExceptT ε (StateM σ) β}
    (first : Respects related action) (later : ∀ value, Respects related (next value)) :
    Respects related (action >>= next) := by
  intro left right states
  have alike := first left right states
  rw [run_bind, run_bind]
  generalize action.run left = leftOutcome at alike ⊢
  generalize action.run right = rightOutcome at alike ⊢
  rcases leftOutcome with ⟨result, left⟩
  rcases rightOutcome with ⟨_, right⟩
  obtain ⟨same, reached⟩ := alike
  obtain rfl : result = _ := same
  cases result with
  | ok value => exact later value left right reached
  | error error => exact ⟨rfl, reached⟩

theorem forM {action : α → ExceptT ε (StateM σ) Unit} {values : List α}
    (each : ∀ value ∈ values, Respects related (action value)) :
    Respects related (values.forM action) := by
  induction values with
  | nil => exact pure ()
  | cons value others ih =>
      obtain ⟨first, later⟩ := List.forall_mem_cons.mp each
      exact bind first fun _ => ih later

end Respects

/-- What a relation between contexts asks of a function. -/
def Builtin.Respects (related : Context → Context → Prop) : Builtin → Prop
  | .sine | .formatDecimal | .duplicate | .swap => True
  | .setMimeType => ∀ left right mimeType, related left right →
      Alike related (left.settle (left.setMimeType mimeType))
        (right.settle (right.setMimeType mimeType))
  | .get scope => ∀ left right name, related left right →
      left.parameter? scope name = right.parameter? scope name
  | .set scope => ∀ left right name value, related left right →
      related (left.setParameter scope name value) (right.setParameter scope name value)
  | .delete scope => ∀ left right name, related left right →
      related (left.deleteParameter scope name) (right.deleteParameter scope name)

structure EchoState.Alike (related : Context → Context → Prop) (left right : EchoState) :
    Prop where
  stack : left.stack = right.stack
  contexts : related left.context right.context

namespace Builtin

variable {related : Context → Context → Prop}

theorem run_setMimeType (mimeType : Value) (below : List Value) (context : Context) :
    run .setMimeType (mimeType :: below) context =
      ((context.settle (context.setMimeType mimeType.text)).1.mapError .context,
        ⟨below, (context.settle (context.setMimeType mimeType.text)).2⟩) := by
  simp only [run]
  cases context.setMimeType mimeType.text <;> rfl

theorem run_alike {builtin : Builtin} (respects : builtin.Respects related) (stack : List Value)
    {left right : Context} (contexts : related left right) :
    Alike (EchoState.Alike related) (builtin.run stack left) (builtin.run stack right) := by
  cases builtin with
  | sine =>
      rcases stack with _ | ⟨operand, below⟩
      · exact ⟨rfl, rfl, contexts⟩
      · simp only [run]
        cases operand.toDouble <;> exact ⟨rfl, rfl, contexts⟩
  | formatDecimal =>
      rcases stack with _ | ⟨pattern, _ | ⟨operand, below⟩⟩
      · exact ⟨rfl, rfl, contexts⟩
      · exact ⟨rfl, rfl, contexts⟩
      · simp only [run]
        cases operand.toDouble with
        | error error => exact ⟨rfl, rfl, contexts⟩
        | ok number =>
            simp only
            cases formatDecimal? pattern.text number <;> exact ⟨rfl, rfl, contexts⟩
  | duplicate => cases stack <;> exact ⟨rfl, rfl, contexts⟩
  | swap => rcases stack with _ | ⟨first, _ | ⟨second, below⟩⟩ <;> exact ⟨rfl, rfl, contexts⟩
  | setMimeType =>
      rcases stack with _ | ⟨mimeType, below⟩
      · exact ⟨rfl, rfl, contexts⟩
      · obtain ⟨result, settled⟩ := respects left right mimeType.text contexts
        rw [run_setMimeType, run_setMimeType]
        exact ⟨congrArg (Except.mapError EvalError.context) result, rfl, settled⟩
  | get scope =>
      rcases stack with _ | ⟨fallback, _ | ⟨name, below⟩⟩
      · exact ⟨rfl, rfl, contexts⟩
      · exact ⟨rfl, rfl, contexts⟩
      · simp only [run, respects left right name.text contexts]
        cases right.parameter? scope name.text <;> exact ⟨rfl, rfl, contexts⟩
  | set scope =>
      rcases stack with _ | ⟨name, _ | ⟨value, below⟩⟩
      · exact ⟨rfl, rfl, contexts⟩
      · exact ⟨rfl, rfl, contexts⟩
      · exact ⟨rfl, rfl, respects left right name.text value.text contexts⟩
  | delete scope =>
      rcases stack with _ | ⟨name, below⟩
      · exact ⟨rfl, rfl, contexts⟩
      · exact ⟨rfl, rfl, respects left right name.text contexts⟩

end Builtin

namespace Echo

variable {related : Context → Context → Prop}

theorem respects_push (value : Value) : Respects (EchoState.Alike related) (push value) :=
  fun _ _ states => ⟨rfl, congrArg (value :: ·) states.stack, states.contexts⟩

theorem respects_pop (user : String) : Respects (EchoState.Alike related) (pop user) := by
  intro ⟨stack, left⟩ ⟨_, right⟩ ⟨same, contexts⟩
  obtain rfl := same
  cases stack <;> exact ⟨rfl, rfl, contexts⟩

theorem respects_operate (symbol : Operator) :
    Respects (EchoState.Alike related) (operate symbol) :=
  (respects_pop _).bind fun _ => (respects_pop _).bind fun _ =>
    (Respects.liftExcept _).bind fun _ => respects_push _

theorem respects_call {name : String}
    (respects : ∀ builtin, Builtin.ofName? name = some builtin → builtin.Respects related) :
    Respects (EchoState.Alike related) (call name) := by
  intro ⟨stack, left⟩ ⟨_, right⟩ ⟨same, contexts⟩
  obtain rfl := same
  unfold call
  cases found : Builtin.ofName? name with
  | some builtin => exact Builtin.run_alike (respects builtin found) stack contexts
  | none => exact ⟨rfl, rfl, contexts⟩

theorem respects_evaluate (environment : Environment) {element : Element}
    (respects : ∀ name builtin, element = .function name → Builtin.ofName? name = some builtin →
      builtin.Respects related) :
    Respects (EchoState.Alike related) (environment.evaluate element) := by
  cases element with
  | integer number => exact respects_push _
  | double number => exact respects_push _
  | string content => exact respects_push _
  | «variable» name => exact (Respects.liftExcept _).bind fun _ => respects_push _
  | operator symbol => exact respects_operate symbol
  | function name => exact respects_call fun builtin => respects name builtin rfl

end Echo

end TagTemplate
