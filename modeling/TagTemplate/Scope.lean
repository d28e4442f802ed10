import Std.Data.ExtTreeMap
import TagTemplate.EvalError

/-!
Scopes: the bindings of loop variables. The bindings of a name form a stack, of which only the
innermost one can be seen. The stacks are kept by name, and one that has lost its last binding is
removed, so that a name has a stack only as long as it is bound.
-/

namespace TagTemplate

/-- Stacks of values by name, each from the innermost value outwards. -/
structure Bindings where
  byName : Std.ExtTreeMap String (List Value)

namespace Bindings

def empty : Bindings :=
  ⟨∅⟩

def values (bindings : Bindings) (name : String) : List Value :=
  bindings.byName[name]?.getD []

def depth (bindings : Bindings) (name : String) : Nat :=
  match bindings.byName[name]? with
  | some stack => stack.length
  | none => 0

def isUnbound (bindings : Bindings) (name : String) : Bool :=
  !bindings.byName.contains name

def push (bindings : Bindings) (name : String) (value : Value) : Bindings :=
  match bindings.byName[name]? with
  | some stack => ⟨bindings.byName.insert name (value :: stack)⟩
  | none => ⟨bindings.byName.insert name [value]⟩

def pop (bindings : Bindings) (name : String) : Except EvalError Value × Bindings :=
  match bindings.byName[name]? with
  | none => (.error (.unbound name), bindings)
  | some [] => (.error (.unbound name), bindings)
  | some (innermost :: outer) =>
      if outer.isEmpty then (.ok innermost, ⟨bindings.byName.erase name⟩)
      else (.ok innermost, ⟨bindings.byName.insert name outer⟩)

def peek (bindings : Bindings) (name : String) : Except EvalError Value :=
  match bindings.byName[name]?.bind List.head? with
  | some innermost => .ok innermost
  | none => .error (.unbound name)

def apply (bindings : Bindings) (symbol : Operator) (name : String) (operand : Value) :
    Except EvalError Unit × Bindings :=
  match bindings.byName[name]? with
  | none => (.error (.unbound name), bindings)
  | some [] => (.error (.unbound name), bindings)
  | some (innermost :: outer) =>
      match symbol.apply innermost operand with
      | .ok value => (.ok (), ⟨bindings.byName.insert name (value :: outer)⟩)
      | .error error => (.error (.arithmetic error), bindings)

/-- No name has an empty stack. -/
def Tidy (bindings : Bindings) : Prop :=
  ∀ name : String, bindings.byName[name]? ≠ some []

namespace Tidy

variable {bindings : Bindings}

theorem empty : Bindings.empty.Tidy := by
  intro name
  simp [Bindings.empty]

theorem insert (tidy : bindings.Tidy) (name : String) {stack : List Value} (inhabited : stack ≠ []) :
    Tidy ⟨bindings.byName.insert name stack⟩ := by
  intro other
  rw [Std.ExtTreeMap.getElem?_insert]
  split
  · simpa using inhabited
  · exact tidy other

theorem push (tidy : bindings.Tidy) (name : String) (value : Value) :
    (bindings.push name value).Tidy := by
  unfold Bindings.push
  split
  · exact tidy.insert name (List.cons_ne_nil _ _)
  · exact tidy.insert name (List.cons_ne_nil _ _)

theorem pop (tidy : bindings.Tidy) (name : String) : (bindings.pop name).2.Tidy := by
  unfold Bindings.pop
  split
  · exact tidy
  · exact tidy
  · rename_i outer _
    split
    · intro other
      rw [Std.ExtTreeMap.getElem?_erase]
      split
      · exact nofun
      · exact tidy other
    · rename_i more
      exact tidy.insert name (by simpa using more)

theorem apply (tidy : bindings.Tidy) (symbol : Operator) (name : String) (operand : Value) :
    (bindings.apply symbol name operand).2.Tidy := by
  unfold Bindings.apply
  split
  · exact tidy
  · exact tidy
  · split
    · exact tidy.insert name (List.cons_ne_nil _ _)
    · exact tidy

end Tidy

end Bindings

structure Scope where
  bindings : Bindings
  tidy : bindings.Tidy

namespace Scope

def empty : Scope :=
  ⟨.empty, .empty⟩

def values (scope : Scope) (name : String) : List Value :=
  scope.bindings.values name

def depth (scope : Scope) (name : String) : Nat :=
  scope.bindings.depth name

def isUnbound (scope : Scope) (name : String) : Bool :=
  scope.bindings.isUnbound name

def push (scope : Scope) (name : String) (value : Value) : Scope :=
  ⟨scope.bindings.push name value, scope.tidy.push name value⟩

def pop (scope : Scope) (name : String) : Except EvalError (Value × Scope) :=
  (scope.bindings.pop name).1.map fun value =>
    (value, ⟨(scope.bindings.pop name).2, scope.tidy.pop name⟩)

def peek (scope : Scope) (name : String) : Except EvalError Value :=
  scope.bindings.peek name

def apply (scope : Scope) (symbol : Operator) (name : String) (operand : Value) :
    Except EvalError Scope :=
  (scope.bindings.apply symbol name operand).1.map fun _ =>
    ⟨(scope.bindings.apply symbol name operand).2, scope.tidy.apply symbol name operand⟩

end Scope

end TagTemplate
