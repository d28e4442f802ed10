import TagTemplate.Proofs.ScopeLaws
import TagTemplate.Proofs.Updates

/-!
Bindings as a family of stacks, one for each name. Whatever is asked of them is answered by the
stack of the name in question alone, and only this stack may change. No access leaves an empty stack
behind, so that a name has an entry as long as its stack holds something, and the depth of the stack
is the number of pushes that no pop has undone.
-/

namespace TagTemplate

inductive Access where
  | push (name : String) (value : Value)
  | pop (name : String)
  | peek (name : String)
  | update (name : String) (change : Update)

namespace Access

abbrev Answer := Except EvalError (Option Value)

def name : Access → String
  | .push name _ | .pop name | .peek name | .update name _ => name

/-- The answer of a single stack, its top first, and what is left of it. -/
def onStack : Access → List Value → Answer × List Value
  | .push _ value, stack => (.ok none, value :: stack)
  | .pop _, top :: below => (.ok (some top), below)
  | .peek _, top :: below => (.ok (some top), top :: below)
  | .update _ change, top :: below =>
      match change.symbol.apply top change.operand with
      | .ok result => (.ok none, result :: below)
      | .error error => (.error (.arithmetic error), top :: below)
  | .pop name, [] | .peek name, [] | .update name _, [] => (.error (.unbound name), [])

def isPush : Access → Bool
  | .push _ _ => true
  | _ => false

def isPop : Access → Bool
  | .pop _ => true
  | _ => false

def pushes (name : String) (accesses : List Access) : Nat :=
  accesses.countP fun access => access.name == name && access.isPush

/-- The number of times that a value is popped for a name, each with its answer. -/
def pops (name : String) (answered : List (Access × Answer)) : Nat :=
  answered.countP fun entry => entry.1.name == name && entry.1.isPop && entry.2.isOk

end Access

open Access (Answer)

def answerAll {State : Type} (answer : State → Access → Answer × State) (state : State) :
    List Access → List Answer × State
  | [] => ([], state)
  | access :: others =>
      let first := answer state access
      let rest := answerAll answer first.2 others
      (first.1 :: rest.1, rest.2)

namespace Bindings

def answer (bindings : Bindings) : Access → Answer × Bindings
  | .push name value => (.ok none, bindings.push name value)
  | .pop name => ((bindings.pop name).1.map some, (bindings.pop name).2)
  | .peek name => ((bindings.peek name).map some, bindings)
  | .update name change =>
      let applied := bindings.apply change.symbol name change.operand
      (applied.1.map fun _ => none, applied.2)

end Bindings

def Scope.answer (scope : Scope) : Access → Answer × Scope
  | .push name value => (.ok none, scope.push name value)
  | .pop name =>
      match scope.pop name with
      | .ok (value, rest) => (.ok (some value), rest)
      | .error error => (.error error, scope)
  | .peek name => ((scope.peek name).map some, scope)
  | .update name change =>
      match scope.apply change.symbol name change.operand with
      | .ok changed => (.ok none, changed)
      | .error error => (.error error, scope)

abbrev StackFamily := String → List Value

def StackFamily.answer (family : StackFamily) (access : Access) : Answer × StackFamily :=
  let answered := access.onStack (family access.name)
  (answered.1, Function.update family access.name answered.2)

namespace Bindings

variable {bindings : Bindings} {name : String} {top : Value} {below : List Value}

theorem values_empty : empty.values = fun _ => [] := by
  funext name
  simp [values, empty]

theorem values_insert (bindings : Bindings) (name : String) (stack : List Value) :
    values ⟨bindings.byName.insert name stack⟩ = Function.update bindings.values name stack := by
  funext other
  by_cases same : other = name
  · subst same
    simp [values]
  · simp [values, byName_insert_of_ne bindings stack same, Function.update_of_ne same]

theorem values_erase (bindings : Bindings) (name : String) :
    values ⟨bindings.byName.erase name⟩ = Function.update bindings.values name [] := by
  funext other
  by_cases same : other = name
  · subst same
    simp [values]
  · simp [values, Std.ExtTreeMap.getElem?_erase, Function.update_of_ne same, Ne.symm same]

theorem values_push (bindings : Bindings) (name : String) (value : Value) :
    (bindings.push name value).values =
      Function.update bindings.values name (value :: bindings.values name) := by
  rw [push_eq, values_insert]

theorem byName_of_cons (stack : bindings.values name = top :: below) :
    bindings.byName[name]? = some (top :: below) := by
  unfold values at stack
  cases bound : bindings.byName[name]? with
  | none => simp [bound] at stack
  | some found => simpa [bound] using stack

theorem byName_of_nil (stack : bindings.values name = []) :
    bindings.byName[name]? = none ∨ bindings.byName[name]? = some [] := by
  unfold values at stack
  cases bound : bindings.byName[name]? with
  | none => exact Or.inl rfl
  | some found => exact Or.inr (by simpa [bound] using stack)

theorem pop_of_nil (stack : bindings.values name = []) :
    bindings.pop name = (.error (.unbound name), bindings) := by
  rcases byName_of_nil stack with bound | bound <;> simp only [pop, bound]

theorem peek_of_nil (stack : bindings.values name = []) :
    bindings.peek name = .error (.unbound name) := by
  rcases byName_of_nil stack with bound | bound <;> simp [peek, bound]

theorem apply_of_nil (stack : bindings.values name = []) (symbol : Operator) (operand : Value) :
    bindings.apply symbol name operand = (.error (.unbound name), bindings) := by
  rcases byName_of_nil stack with bound | bound <;> simp only [apply, bound]

theorem pop_of_cons (stack : bindings.values name = top :: below) :
    (bindings.pop name).1 = .ok top ∧
      (bindings.pop name).2.values = Function.update bindings.values name below := by
  have bound := byName_of_cons stack
  cases below with
  | nil => exact ⟨by simp [pop, bound], by simp [pop, bound, values_erase]⟩
  | cons next outer => exact ⟨by simp [pop, bound], by simp [pop, bound, values_insert]⟩

theorem peek_of_cons (stack : bindings.values name = top :: below) :
    bindings.peek name = .ok top := by
  simp [peek, byName_of_cons stack]

theorem apply_of_ok (stack : bindings.values name = top :: below) {symbol : Operator}
    {operand result : Value} (applied : symbol.apply top operand = .ok result) :
    bindings.apply symbol name operand =
      (.ok (), ⟨bindings.byName.insert name (result :: below)⟩) := by
  simp only [apply, byName_of_cons stack, applied]

theorem apply_of_error (stack : bindings.values name = top :: below) {symbol : Operator}
    {operand : Value} {error : ArithmeticError} (failed : symbol.apply top operand = .error error) :
    bindings.apply symbol name operand = (.error (.arithmetic error), bindings) := by
  simp only [apply, byName_of_cons stack, failed]

theorem values_eq_update {stack : List Value} (found : bindings.values name = stack) :
    bindings.values = Function.update bindings.values name stack := by
  rw [← found, Function.update_eq_self]

theorem answer_values_of_onStack {access : Access} {answer : Answer} {stack : List Value}
    (onStack : access.onStack (bindings.values access.name) = (answer, stack))
    (answered : (bindings.answer access).1 = answer)
    (left : (bindings.answer access).2.values =
      Function.update bindings.values access.name stack) :
    (bindings.answer access).1 = (StackFamily.answer bindings.values access).1 ∧
      (bindings.answer access).2.values = (StackFamily.answer bindings.values access).2 := by
  simp only [StackFamily.answer, answered, onStack, left, and_self]

theorem answer_values (bindings : Bindings) (access : Access) :
    (bindings.answer access).1 = (StackFamily.answer bindings.values access).1 ∧
      (bindings.answer access).2.values = (StackFamily.answer bindings.values access).2 := by
  cases access with
  | push name value => exact answer_values_of_onStack rfl rfl (bindings.values_push name value)
  | pop name =>
      cases stack : bindings.values name with
      | nil =>
          have onStack : (Access.pop name).onStack (bindings.values name) =
              (.error (.unbound name), []) := by rw [stack, Access.onStack]
          have popped := pop_of_nil stack
          refine answer_values_of_onStack onStack (by rw [answer, popped, Except.map]) ?_
          rw [answer, popped]
          exact values_eq_update stack
      | cons top below =>
          have onStack : (Access.pop name).onStack (bindings.values name) =
              (.ok (some top), below) := by rw [stack, Access.onStack]
          obtain ⟨popped, left⟩ := pop_of_cons stack
          exact answer_values_of_onStack onStack (by rw [answer, popped, Except.map]) left
  | peek name =>
      cases stack : bindings.values name with
      | nil =>
          have onStack : (Access.peek name).onStack (bindings.values name) =
              (.error (.unbound name), []) := by rw [stack, Access.onStack]
          exact answer_values_of_onStack onStack
            (by rw [answer, peek_of_nil stack, Except.map]) (values_eq_update stack)
      | cons top below =>
          have onStack : (Access.peek name).onStack (bindings.values name) =
              (.ok (some top), top :: below) := by rw [stack, Access.onStack]
          exact answer_values_of_onStack onStack
            (by rw [answer, peek_of_cons stack, Except.map]) (values_eq_update stack)
  | update name change =>
      cases stack : bindings.values name with
      | nil =>
          have onStack : (Access.update name change).onStack (bindings.values name) =
              (.error (.unbound name), []) := by rw [stack, Access.onStack]
          have refused := apply_of_nil stack change.symbol change.operand
          refine answer_values_of_onStack onStack (by rw [answer, refused]; rfl) ?_
          rw [answer, refused]
          exact values_eq_update stack
      | cons top below =>
          cases applied : change.symbol.apply top change.operand with
          | ok result =>
              have onStack : (Access.update name change).onStack (bindings.values name) =
                  (.ok none, result :: below) := by simp only [stack, Access.onStack, applied]
              have succeeded := apply_of_ok stack applied
              refine answer_values_of_onStack onStack (by rw [answer, succeeded]; rfl) ?_
              rw [answer, succeeded]
              exact bindings.values_insert name (result :: below)
          | error error =>
              have onStack : (Access.update name change).onStack (bindings.values name) =
                  (.error (.arithmetic error), top :: below) := by
                simp only [stack, Access.onStack, applied]
              have refused := apply_of_error stack applied
              refine answer_values_of_onStack onStack (by rw [answer, refused]; rfl) ?_
              rw [answer, refused]
              exact values_eq_update stack

theorem answerAll_values (bindings : Bindings) (accesses : List Access) :
    (answerAll answer bindings accesses).1 =
        (answerAll StackFamily.answer bindings.values accesses).1 ∧
      (answerAll answer bindings accesses).2.values =
        (answerAll StackFamily.answer bindings.values accesses).2 := by
  induction accesses generalizing bindings with
  | nil => exact ⟨rfl, rfl⟩
  | cons access others ih =>
      obtain ⟨first, next⟩ := bindings.answer_values access
      obtain ⟨rest, last⟩ := ih (bindings.answer access).2
      rw [next] at rest last
      exact ⟨congrArg₂ List.cons first rest, last⟩

theorem depth_eq (bindings : Bindings) (name : String) :
    bindings.depth name = (bindings.values name).length := by
  unfold depth values
  cases bindings.byName[name]? <;> rfl

namespace Tidy

theorem answer (tidy : bindings.Tidy) (access : Access) : (bindings.answer access).2.Tidy := by
  cases access with
  | push name value => exact tidy.push name value
  | pop name => exact tidy.pop name
  | peek _ => exact tidy
  | update name change => exact tidy.apply change.symbol name change.operand

theorem answerAll (tidy : bindings.Tidy) (accesses : List Access) :
    (answerAll Bindings.answer bindings accesses).2.Tidy := by
  induction accesses generalizing bindings with
  | nil => exact tidy
  | cons access others ih => exact ih (tidy.answer access)

theorem byName_eq (tidy : bindings.Tidy) (name : String) :
    bindings.byName[name]? =
      if bindings.values name = [] then none else some (bindings.values name) := by
  -- Only an empty stack would be an entry that holds nothing.
  cases stack : bindings.values name with
  | nil => exact (byName_of_nil stack).resolve_right (tidy name)
  | cons top below => exact byName_of_cons stack

theorem contains_iff (tidy : bindings.Tidy) (name : String) :
    bindings.byName.contains name = true ↔ bindings.values name ≠ [] := by
  rw [Std.ExtTreeMap.contains_eq_isSome_getElem?, tidy.byName_eq]
  split <;> simp_all

theorem isUnbound_iff (tidy : bindings.Tidy) (name : String) :
    bindings.isUnbound name = true ↔ bindings.depth name = 0 := by
  rw [isUnbound, Bool.not_eq_true', ← Bool.not_eq_true, tidy.contains_iff, not_not, depth_eq,
    List.length_eq_zero_iff]

theorem byName_answer_of_ne (tidy : bindings.Tidy) {access : Access} (other : access.name ≠ name) :
    (bindings.answer access).2.byName[name]? = bindings.byName[name]? := by
  have values : (bindings.answer access).2.values name = bindings.values name := by
    rw [(bindings.answer_values access).2]
    exact Function.update_of_ne other.symm _ _
  rw [(tidy.answer access).byName_eq, tidy.byName_eq, values]

end Tidy

theorem pop_of_error {error : EvalError} (failed : (bindings.pop name).1 = .error error) :
    (bindings.pop name).2 = bindings := by
  cases stack : bindings.values name with
  | nil => rw [pop_of_nil stack]
  | cons top below => cases failed.symm.trans (pop_of_cons stack).1

theorem apply_of_failed {symbol : Operator} {operand : Value} {error : EvalError}
    (failed : (bindings.apply symbol name operand).1 = .error error) :
    (bindings.apply symbol name operand).2 = bindings := by
  cases stack : bindings.values name with
  | nil => rw [apply_of_nil stack]
  | cons top below =>
      cases applied : symbol.apply top operand with
      | ok result =>
          rw [apply_of_ok stack applied] at failed
          cases failed
      | error _ => rw [apply_of_error stack applied]

end Bindings

namespace Scope

theorem answer_bindings (scope : Scope) (access : Access) :
    (scope.answer access).1 = (scope.bindings.answer access).1 ∧
      (scope.answer access).2.bindings = (scope.bindings.answer access).2 := by
  cases access with
  | push name value => exact ⟨rfl, rfl⟩
  | peek name => exact ⟨rfl, rfl⟩
  | pop name =>
      simp only [answer, Bindings.answer, pop]
      cases popped : (scope.bindings.pop name).1 with
      | ok value => exact ⟨rfl, rfl⟩
      | error error => exact ⟨rfl, (Bindings.pop_of_error popped).symm⟩
  | update name change =>
      simp only [answer, Bindings.answer, apply]
      cases applied : (scope.bindings.apply change.symbol name change.operand).1 with
      | ok _ => exact ⟨rfl, rfl⟩
      | error error => exact ⟨rfl, (Bindings.apply_of_failed applied).symm⟩

theorem answerAll_bindings (scope : Scope) (accesses : List Access) :
    (answerAll answer scope accesses).1 =
        (answerAll Bindings.answer scope.bindings accesses).1 ∧
      (answerAll answer scope accesses).2.bindings =
        (answerAll Bindings.answer scope.bindings accesses).2 := by
  induction accesses generalizing scope with
  | nil => exact ⟨rfl, rfl⟩
  | cons access others ih =>
      obtain ⟨first, next⟩ := scope.answer_bindings access
      obtain ⟨rest, last⟩ := ih (scope.answer access).2
      rw [next] at rest last
      exact ⟨congrArg₂ List.cons first rest, last⟩

end Scope

namespace StackFamily

theorem length_onStack (access : Access) (stack : List Value) :
    (access.onStack stack).2.length +
        (if access.isPop && (access.onStack stack).1.isOk then 1 else 0) =
      stack.length + if access.isPush then 1 else 0 := by
  cases access with
  | push _ _ => rfl
  | pop _ => cases stack <;> rfl
  | peek _ => cases stack <;> rfl
  | update _ change =>
      cases stack with
      | nil => rfl
      | cons top below =>
          rw [Access.onStack]
          cases change.symbol.apply top change.operand <;> rfl

theorem length_answer (family : StackFamily) (access : Access) (name : String) :
    ((family.answer access).2 name).length +
        (if access.name == name && access.isPop && (family.answer access).1.isOk then 1 else 0) =
      (family name).length + if access.name == name && access.isPush then 1 else 0 := by
  by_cases about : access.name = name
  · subst about
    simpa [answer] using length_onStack access (family access.name)
  · simp [answer, about, Function.update_of_ne (Ne.symm about)]

theorem length_answerAll (family : StackFamily) (accesses : List Access) (name : String) :
    ((answerAll answer family accesses).2 name).length +
        Access.pops name (accesses.zip (answerAll answer family accesses).1) =
      (family name).length + Access.pushes name accesses := by
  induction accesses generalizing family with
  | nil => rfl
  | cons access others ih =>
      have first := family.length_answer access name
      have rest := ih (family.answer access).2
      simp only [answerAll, Access.pops, Access.pushes, List.zip_cons_cons,
        List.countP_cons] at rest ⊢
      omega

end StackFamily

/-- Whatever is asked of new bindings, they answer as if they kept a stack for every name apart, and
a scope does so too. The entries that are left are the stacks with something in them, each with as
many values as pushes have put there and pops have not taken off. What is asked about one name
leaves all others as they are. -/
theorem Bindings.keep_independent_stacks (accesses : List Access) :
    let run := answerAll Bindings.answer .empty accesses
    let expected := answerAll StackFamily.answer (fun _ => []) accesses
    let inScope := answerAll Scope.answer .empty accesses
    run.1 = expected.1 ∧ inScope.1 = run.1 ∧ inScope.2.bindings = run.2 ∧ ∀ name : String,
      run.2.byName[name]? = (if expected.2 name = [] then none else some (expected.2 name)) ∧
      (run.2.byName.contains name = true ↔ expected.2 name ≠ []) ∧
      (run.2.isUnbound name = true ↔ run.2.depth name = 0) ∧
      run.2.depth name + Access.pops name (accesses.zip run.1) = Access.pushes name accesses ∧
      ∀ access, access.name ≠ name →
        (run.2.answer access).2.byName[name]? = run.2.byName[name]? := by
  intro run expected inScope
  have tidy : run.2.Tidy := Tidy.empty.answerAll accesses
  obtain ⟨answers, values⟩ := empty.answerAll_values accesses
  rw [values_empty] at answers values
  obtain ⟨sameAnswers, sameBindings⟩ := Scope.empty.answerAll_bindings accesses
  refine ⟨answers, sameAnswers, sameBindings, fun name => ?_⟩
  have found : run.2.values name = expected.2 name := congrFun values name
  have counted := StackFamily.length_answerAll (fun _ => []) accesses name
  refine ⟨?_, ?_, tidy.isUnbound_iff name, ?_, fun access => tidy.byName_answer_of_ne⟩
  · rw [tidy.byName_eq, found]
  · rw [tidy.contains_iff, found]
  · rw [depth_eq, found]
    change _ + Access.pops name (accesses.zip (answerAll answer empty accesses).1) = _
    rw [answers, counted, List.length_nil, Nat.zero_add]

end TagTemplate
