import Mathlib
import TagTemplate.Scope

/-!
Laws of scopes. A binding hides the one below it, changes in place, and leaves the scope as it was
when it ends. The last of these needs that there is no empty stack: a name that had one would lose
it along with the binding.
-/

namespace TagTemplate

namespace Bindings

variable (bindings : Bindings) (name : String) (value : Value)

@[ext] theorem ext_byName {left right : Bindings}
    (same : ∀ name : String, left.byName[name]? = right.byName[name]?) : left = right :=
  congrArg Bindings.mk (Std.ExtTreeMap.ext_getElem? fun {name} => same name)

theorem push_eq :
    bindings.push name value = ⟨bindings.byName.insert name (value :: bindings.values name)⟩ := by
  unfold push values
  cases bindings.byName[name]? <;> rfl

theorem byName_push_self : (bindings.push name value).byName[name]? =
    some (value :: bindings.values name) := by
  rw [push_eq]
  exact Std.ExtTreeMap.getElem?_insert_self

theorem byName_insert_of_ne {name other : String} (stack : List Value) (different : other ≠ name) :
    (bindings.byName.insert name stack)[other]? = bindings.byName[other]? := by
  simp [Std.ExtTreeMap.getElem?_insert, different.symm]

theorem byName_push_of_ne {name other : String} (different : other ≠ name) :
    (bindings.push name value).byName[other]? = bindings.byName[other]? := by
  rw [push_eq, byName_insert_of_ne bindings _ different]

theorem peek_push (other : String) :
    (bindings.push name value).peek other =
      if other = name then .ok value else bindings.peek other := by
  by_cases same : other = name
  · subst same
    rw [peek, byName_push_self, if_pos rfl]
    rfl
  · rw [peek, byName_push_of_ne bindings value same, if_neg same, peek]

theorem pop_push (tidy : bindings.Tidy) :
    (bindings.push name value).pop name = (.ok value, bindings) := by
  -- A stack with nothing but the new binding was not there before, and goes again with it.
  rw [pop, byName_push_self]
  dsimp only
  cases bound : bindings.byName[name]? with
  | none =>
      have alone : bindings.values name = [] := by simp [values, bound]
      rw [alone, List.isEmpty_nil, if_pos rfl]
      congr 1
      ext other : 1
      by_cases same : other = name
      · simp [same, bound]
      · simp [Std.ExtTreeMap.getElem?_erase, Ne.symm same, byName_push_of_ne bindings value same]
  | some stack =>
      have below : bindings.values name = stack := by simp [values, bound]
      have inhabited : stack ≠ [] := fun nothing => tidy name (nothing ▸ bound)
      rw [below, if_neg (by simpa using inhabited)]
      congr 1
      ext other : 1
      by_cases same : other = name
      · simp [same, bound]
      · rw [byName_insert_of_ne _ _ same, byName_push_of_ne bindings value same]

theorem apply_push (symbol : Operator) (operand : Value) :
    (bindings.push name value).apply symbol name operand =
      match symbol.apply value operand with
      | .ok next => (.ok (), bindings.push name next)
      | .error error => (.error (.arithmetic error), bindings.push name value) := by
  have rebound (next : Value) :
      (⟨(bindings.push name value).byName.insert name (next :: bindings.values name)⟩ : Bindings) =
        bindings.push name next := by
    ext other : 1
    by_cases same : other = name
    · rw [same, byName_push_self]
      exact Std.ExtTreeMap.getElem?_insert_self
    · rw [byName_insert_of_ne _ _ same, byName_push_of_ne bindings value same,
        byName_push_of_ne bindings next same]
  rw [apply, byName_push_self]
  dsimp only
  cases symbol.apply value operand <;> simp only [rebound]

end Bindings

namespace Scope

variable (scope : Scope) (name : String) (value : Value)

@[ext] theorem ext_bindings {left right : Scope} (same : left.bindings = right.bindings) :
    left = right := by
  cases left
  cases right
  cases same
  rfl

theorem peek_push (other : String) :
    (scope.push name value).peek other = if other = name then .ok value else scope.peek other :=
  scope.bindings.peek_push name value other

theorem pop_push : (scope.push name value).pop name = .ok (value, scope) := by
  have popped : (scope.push name value).bindings.pop name = (.ok value, scope.bindings) :=
    scope.bindings.pop_push name value scope.tidy
  unfold pop
  generalize_proofs tidy
  revert tidy
  rw [popped]
  exact fun _ => rfl

theorem apply_push (symbol : Operator) (operand : Value) :
    (scope.push name value).apply symbol name operand =
      ((symbol.apply value operand).mapError EvalError.arithmetic).map (scope.push name) := by
  have applied : (scope.push name value).bindings.apply symbol name operand = _ :=
    scope.bindings.apply_push name value symbol operand
  unfold apply
  generalize_proofs tidy
  revert tidy
  rw [applied]
  cases symbol.apply value operand with
  | ok next => exact fun _ => rfl
  | error error => exact fun _ => rfl

end Scope

end TagTemplate
