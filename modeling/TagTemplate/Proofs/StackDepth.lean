import TagTemplate.Proofs.FailingEcho

/-!
The depth of the stack in an echo tag. How many values an element needs and how many it leaves does
not depend on the values. The elements alone therefore decide whether values are missing, which of
them misses some first, and how many values are left to be written.
-/

namespace TagTemplate

namespace Element

def IsKnown : Element → Prop
  | .function name => (Builtin.ofName? name).isSome
  | _ => True

instance : DecidablePred IsKnown
  | .function name => inferInstanceAs (Decidable ((Builtin.ofName? name).isSome))
  | .integer _ | .double _ | .string _ | .variable _ | .operator _ => .isTrue trivial

def need : Element → Nat
  | .integer _ | .double _ | .string _ | .variable _ => 0
  | .operator _ => 2
  | .function name => (Builtin.ofName? name).elim 0 Builtin.arity

def results : Element → Nat
  | .integer _ | .double _ | .string _ | .variable _ | .operator _ => 1
  | .function name => (Builtin.ofName? name).elim 0 Builtin.results

end Element

namespace Echo

def depth (elements : List Element) : Nat :=
  elements.foldl (fun depth element => depth - element.need + element.results) 0

def Suffices (elements : List Element) : Prop :=
  ∀ before element after, elements = before ++ element :: after → element.need ≤ depth before

structure FirstShortage (elements before : List Element) (element : Element)
    (after : List Element) : Prop where
  split : elements = before ++ element :: after
  supplied : Suffices before
  short : depth before < element.need

/-- What a step comes to that needs so many values, leaves so many others for them, and goes by this
name when they are missing. -/
structure Accounts (need results : Nat) (user : String) (depth : Nat)
    (outcome : Except EvalError Unit × EchoState) : Prop where
  missing : depth < need → outcome.1 = .error (.missingOperands user)
  found : need ≤ depth → ∀ other, outcome.1 ≠ .error (.missingOperands other)
  left : need ≤ depth → outcome.1 = .ok () →
    outcome.2.stack.length = depth - need + results

namespace Accounts

variable {need results depth : Nat} {user : String} {stack : List Value} {context : Context}

theorem done (enough : need ≤ depth) (length : stack.length = depth - need + results) :
    Accounts need results user depth (EchoState.done stack context) where
  missing := fun few => absurd enough (Nat.not_le_of_lt few)
  found := fun _ _ => nofun
  left := fun _ _ => length

theorem failed {error : EvalError} (enough : need ≤ depth)
    (other : ∀ user, error ≠ .missingOperands user) :
    Accounts need results user depth (EchoState.failed error stack context) where
  missing := fun few => absurd enough (Nat.not_le_of_lt few)
  found := fun _ user same => other user (Except.error.inj same)
  left := fun _ => nofun

theorem tooFew (few : depth < need) :
    Accounts need results user depth
      (EchoState.failed (.missingOperands user) stack context) where
  missing := fun _ => rfl
  found := fun enough => absurd few (Nat.not_lt_of_le enough)
  left := fun _ => nofun

end Accounts

end Echo

namespace Builtin

theorem Effect.accounts {builtin : Builtin} {operands below : List Value} {context : Context}
    {outcome : Except EvalError Unit × EchoState}
    (effect : builtin.Effect operands below context outcome) {depth : Nat}
    (depth_eq : depth = builtin.arity + below.length) :
    Echo.Accounts builtin.arity builtin.results builtin.user depth outcome := by
  have enough : builtin.arity ≤ depth := by omega
  cases effect with
  | done left length _ =>
      refine .done enough ?_
      rw [List.length_append, length]
      omega
  | failed other => exact .failed enough other

theorem run_accounts (builtin : Builtin) (stack : List Value) (context : Context) :
    Echo.Accounts builtin.arity builtin.results builtin.user stack.length
      (builtin.run stack context) := by
  by_cases few : stack.length < builtin.arity
  · rw [run_of_few few]
    exact .tooFew few
  · have enough := Nat.le_of_not_lt few
    refine (effect_of_le enough context).accounts ?_
    rw [List.length_drop]
    omega

end Builtin

namespace Echo

theorem operate_accounts (symbol : Operator) (stack : List Value) (context : Context) :
    Accounts 2 1 symbol.text stack.length ((operate symbol).run ⟨stack, context⟩) := by
  rcases stack with _ | ⟨left, _ | ⟨right, below⟩⟩
  · exact .tooFew Nat.two_pos
  · exact .tooFew Nat.one_lt_two
  · rw [run_operate]
    cases symbol.apply left right with
    | ok result => exact .done (Nat.le_add_left 2 _) rfl
    | error error => exact .failed (Nat.le_add_left 2 _) fun _ => nofun

theorem evaluate_accounts (scope : Scope) {element : Element} (known : element.IsKnown)
    (stack : List Value) (context : Context) :
    Accounts element.need element.results element.text stack.length
      ((evaluate scope element).run ⟨stack, context⟩) := by
  cases element with
  | integer number => exact .done (Nat.zero_le _) rfl
  | double number => exact .done (Nat.zero_le _) rfl
  | string content => exact .done (Nat.zero_le _) rfl
  | «variable» name =>
      rw [run_evaluate_variable, Scope.peek, Bindings.peek]
      cases scope.bindings.byName[name]?.bind List.head? with
      | some innermost => exact .done (Nat.zero_le _) rfl
      | none => exact .failed (Nat.zero_le _) (by rintro _ ⟨⟩)
  | operator symbol => exact operate_accounts symbol stack context
  | function name =>
      obtain ⟨builtin, found⟩ := Option.isSome_iff_exists.mp known
      have accounts := builtin.run_accounts stack context
      rw [Builtin.user, Builtin.name_of_ofName? found] at accounts
      simp only [Element.need, Element.results, evaluate, call, found]
      exact accounts

theorem depth_concat (front : List Element) (last : Element) :
    depth (front ++ [last]) = depth front - last.need + last.results := by
  simp [depth]

theorem suffices_concat {front : List Element} {last : Element} :
    Suffices (front ++ [last]) ↔ Suffices front ∧ last.need ≤ depth front := by
  constructor
  · intro supplied
    refine ⟨fun before element after split => ?_, supplied front last [] rfl⟩
    exact supplied before element (after ++ [last]) (by simp [split])
  · rintro ⟨supplied, enough⟩ before element after split
    rcases List.eq_nil_or_concat after with rfl | ⟨inner, final, rfl⟩
    · obtain ⟨rfl, same⟩ := List.append_inj' split rfl
      cases same
      exact enough
    · rw [List.concat_eq_append, ← List.cons_append, ← List.append_assoc] at split
      obtain ⟨split, -⟩ := List.append_inj' split rfl
      exact supplied before element inner split

instance (elements : List Element) : Decidable (Suffices elements) :=
  decidable_of_iff
    (∀ index, (inside : index < elements.length) →
      elements[index].need ≤ depth (elements.take index)) <| by
    constructor
    · rintro enough before element after rfl
      simpa using enough before.length (by simp)
    · intro supplied index inside
      refine supplied _ _ (elements.drop (index + 1)) ?_
      rw [List.getElem_cons_drop, List.take_append_drop]

theorem exists_firstShortage {elements : List Element} (short : ¬Suffices elements) :
    ∃ before element after, FirstShortage elements before element after := by
  induction elements using List.reverseRecOn with
  | nil => exact absurd (fun before element after split => by simp at split) short
  | append_singleton front last ih =>
      by_cases supplied : Suffices front
      · have few : depth front < last.need := by
          by_contra enough
          exact short (suffices_concat.mpr ⟨supplied, Nat.le_of_not_lt enough⟩)
        exact ⟨front, last, [], rfl, supplied, few⟩
      · obtain ⟨before, element, after, split, earlier, few⟩ := ih supplied
        exact ⟨before, element, after ++ [last], by simp [split], earlier, few⟩

theorem run_of_suffices (scope : Scope) (context : Context) {elements : List Element}
    (known : ∀ element ∈ elements, element.IsKnown) (supplied : Suffices elements) :
    (∀ user, ((elements.forM (evaluate scope)).run ⟨[], context⟩).1 ≠
        .error (.missingOperands user)) ∧
      (((elements.forM (evaluate scope)).run ⟨[], context⟩).1 = .ok () →
        ((elements.forM (evaluate scope)).run ⟨[], context⟩).2.stack.length = depth elements) := by
  induction elements using List.reverseRecOn with
  | nil => exact ⟨fun _ => nofun, fun _ => rfl⟩
  | append_singleton front last ih =>
      obtain ⟨earlier, enough⟩ := suffices_concat.mp supplied
      obtain ⟨knownFront, knownLast⟩ := List.forall_mem_append.mp known
      obtain ⟨found, left⟩ := ih knownFront earlier
      rw [run_forM_append]
      rcases ran : (front.forM (evaluate scope)).run ⟨[], context⟩ with ⟨_ | _, stack, reached⟩
      · rw [ran] at found
        exact ⟨found, nofun⟩
      · rw [ran] at left
        have accounts := evaluate_accounts scope (knownLast last (List.mem_singleton_self last))
          stack reached
        rw [left rfl] at accounts
        simp only [run_forM_singleton, depth_concat]
        exact ⟨accounts.found enough, accounts.left enough⟩

theorem FirstShortage.run_eq_error {elements before after : List Element} {element : Element}
    (shortage : FirstShortage elements before element after)
    (known : ∀ element ∈ elements, element.IsKnown) (scope : Scope) (context : Context) :
    ∃ error state,
      ((before ++ [element]).forM (evaluate scope)).run ⟨[], context⟩ = (.error error, state) ∧
        (((before.forM (evaluate scope)).run ⟨[], context⟩).1 = .ok () →
          error = .missingOperands element.text) := by
  obtain ⟨rfl, supplied, few⟩ := shortage
  obtain ⟨knownBefore, knownAfter⟩ := List.forall_mem_append.mp known
  have left := (run_of_suffices scope context knownBefore supplied).2
  rw [run_forM_append]
  rcases ran : (before.forM (evaluate scope)).run ⟨[], context⟩ with ⟨failure | _, stack, reached⟩
  · exact ⟨failure, _, rfl, nofun⟩
  · rw [ran] at left
    have accounts := evaluate_accounts scope (knownAfter element List.mem_cons_self) stack reached
    rw [left rfl] at accounts
    simp only [run_forM_singleton]
    exact ⟨.missingOperands element.text, _, Prod.ext (accounts.missing few) rfl, fun _ => rfl⟩

end Echo

namespace Execution

theorem write_fails_of_context (values : List Value) (machine : Machine) {halt : Halt}
    (failed : ((values.forM fun value => write value.text).run machine).1 = .error halt) :
    ∃ error, halt = .failed (.context error) := by
  induction values generalizing machine with
  | nil => cases failed
  | cons value others ih =>
      rw [List.forM, run_bind] at failed
      have wrote : (write value.text).run machine =
          ((machine.context.write value.text).1.mapError fun error => .failed (.context error),
            { machine with context := (machine.context.write value.text).2 }) := rfl
      rw [wrote] at failed
      generalize machine.context.write value.text = outcome at failed
      rcases outcome with ⟨error | _, context⟩
      · cases failed
        exact ⟨error, rfl⟩
      · exact ih _ failed

/-- What the elements of an echo tag foretell of its execution. -/
structure Foretells (elements : List Element) (machine : Machine) : Prop where
  found : Echo.Suffices elements →
    ∀ user, ((echo elements).run machine).1 ≠ .error (.failed (.missingOperands user))
  left : Echo.Suffices elements → ∀ state,
    (elements.forM (Echo.evaluate machine.scope)).run ⟨[], machine.context⟩ = (.ok (), state) →
    state.stack.length = Echo.depth elements ∧ state.context.sink = machine.context.sink ∧
      (echo elements).run machine =
        (state.stack.reverse.forM fun value => write value.text).run
          { machine with context := state.context } ∧
      (machine.context.Forwards → (echo elements).run machine = (.ok (), { machine with
        context := state.context.receive
          (String.join (state.stack.reverse.map Value.text)).toUTF8 }))
  short : ¬Echo.Suffices elements →
    ∃ before element after, Echo.FirstShortage elements before element after
  stopped : ∀ before element after, Echo.FirstShortage elements before element after →
    ∃ error state,
      ((before ++ [element]).forM (Echo.evaluate machine.scope)).run ⟨[], machine.context⟩ =
          (.error error, state) ∧
        (echo elements).run machine =
          (.error (.failed error), { machine with context := state.context }) ∧
        (((before.forM (Echo.evaluate machine.scope)).run ⟨[], machine.context⟩).1 = .ok () →
          error = .missingOperands element.text)

/-- In an echo tag whose functions are known, the elements decide how deep the stack gets and which
of them misses operands, whatever the scope and the context. -/
theorem foretells (elements : List Element) (machine : Machine)
    (known : ∀ element ∈ elements, element.IsKnown) : Foretells elements machine := by
  constructor
  case found =>
    intro supplied user
    have enough := (Echo.run_of_suffices machine.scope machine.context known supplied).1
    rw [run_echo]
    rcases ran : (elements.forM (Echo.evaluate machine.scope)).run ⟨[], machine.context⟩ with
      ⟨error | _, state⟩ <;> rw [ran] at enough
    · exact fun same => enough user (congrArg Except.error (Halt.failed.inj (Except.error.inj same)))
    · intro failed
      obtain ⟨error, same⟩ := write_fails_of_context _ _ failed
      cases same
  case left =>
    intro supplied state evaluated
    have length := (Echo.run_of_suffices machine.scope machine.context known supplied).2
    have prepares := Echo.prepares_forM machine.scope elements ⟨[], machine.context⟩
    rw [evaluated] at length prepares
    rw [run_echo, evaluated]
    exact ⟨length rfl, prepares.sink, rfl,
      fun forwards => run_writeAll (prepares.forwards forwards) _⟩
  case short => exact Echo.exists_firstShortage
  case stopped =>
    intro before element after shortage
    obtain ⟨error, state, stopped, missing⟩ :=
      shortage.run_eq_error known machine.scope machine.context
    refine ⟨error, state, stopped, ?_, missing⟩
    rw [run_echo, shortage.split, List.append_cons, Echo.run_forM_append, stopped]

theorem foretells_sums :
    let machine : Machine := ⟨.empty, .new (.empty none) ∅ ∅ ∅ false⟩
    let enough : List Element := [.integer 1, .function "dup", .integer 2, .operator .add]
    let few : List Element := [.integer 1, .function "dup", .operator .add, .operator .add]
    (∀ element ∈ enough ++ few, element.IsKnown) ∧
      (echo enough).run machine =
        (.ok (), { machine with context := machine.context.receive "13".toUTF8 }) ∧
      ((echo few).run machine).1 = .error (.failed (.missingOperands "+")) := by
  intro machine enough few
  have known : ∀ element ∈ enough ++ few, element.IsKnown := by decide
  obtain ⟨knownEnough, knownFew⟩ := List.forall_mem_append.mp known
  have evaluated : (enough.forM (Echo.evaluate machine.scope)).run ⟨[], machine.context⟩ =
      (.ok (), ⟨[.integer 3, .integer 1], machine.context⟩) := by rfl
  have supplied : Echo.Suffices enough := by decide
  obtain ⟨-, -, -, written⟩ := (foretells enough machine knownEnough).left supplied _ evaluated
  -- The second sum finds only the result of the first.
  have shortage : Echo.FirstShortage few [.integer 1, .function "dup", .operator .add]
      (.operator .add) [] := ⟨rfl, by decide, by decide⟩
  obtain ⟨error, state, -, ran, missing⟩ := (foretells few machine knownFew).stopped _ _ _ shortage
  refine ⟨known, written ⟨rfl, by decide⟩, ?_⟩
  rw [ran, missing rfl]
  rfl

end Execution

end TagTemplate
