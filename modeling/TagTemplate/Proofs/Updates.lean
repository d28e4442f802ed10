import TagTemplate.Proofs.NumberTexts

/-!
Arithmetic in place. An update combines what a cell holds with an operand and puts the result in its
place. An update that fails leaves the cell alone, so that a run of updates comes to what those of
them that succeed come to. The first of them leaves a number, and a double is never turned back into
an integer.
-/

namespace TagTemplate

namespace Value

inductive Denotes : Value → Number → Prop
  | integer (number : Int64) : Denotes (.integer number) (.integer number)
  | double (number : Double) : Denotes (.double number) (.double number)
  | string {content number} : SpellsNumber content.toList number → Denotes (.string content) number
  | empty : Denotes .empty (.integer 0)

def IsNoNumber (value : Value) (text : String) : Prop :=
  value = .string text ∧ ∀ number, ¬value.Denotes number

theorem denotes_string_iff {content : String} {number : Number} :
    (string content).Denotes number ↔ Number.ofText? content = some number := by
  rw [Number.ofText?_eq_some_iff]
  constructor
  · rintro ⟨⟩
    assumption
  · exact .string

theorem toNumber_eq_ok_iff {value : Value} {number : Number} :
    value.toNumber = .ok number ↔ value.Denotes number := by
  constructor
  · intro converted
    cases value with
    | integer integer =>
        obtain rfl := Except.ok.inj converted
        exact .integer integer
    | double double =>
        obtain rfl := Except.ok.inj converted
        exact .double double
    | string content =>
        rw [denotes_string_iff]
        rw [toNumber] at converted
        split at converted
        · rename_i found
          rw [found, Except.ok.inj converted]
        · contradiction
    | empty =>
        obtain rfl := Except.ok.inj converted
        exact .empty
  · intro denotes
    cases denotes with
    | integer _ => rfl
    | double _ => rfl
    | string spelled => rw [toNumber, Number.ofText?_eq_some_iff.mpr spelled]
    | empty => rfl

theorem IsNoNumber.toNumber_eq_error {value : Value} {text : String}
    (noNumber : value.IsNoNumber text) : value.toNumber = .error (.notANumber text) := by
  obtain ⟨rfl, undenoted⟩ := noNumber
  rw [toNumber]
  split
  · rename_i number found
    exact absurd (denotes_string_iff.mpr found) (undenoted number)
  · rfl

theorem denotes_or_isNoNumber (value : Value) :
    (∃ number, value.Denotes number) ∨ ∃ text, value.IsNoNumber text := by
  by_cases denotes : ∃ number, value.Denotes number
  · exact Or.inl denotes
  · right
    cases value with
    | integer number => exact absurd ⟨_, .integer number⟩ denotes
    | double number => exact absurd ⟨_, .double number⟩ denotes
    | string text => exact ⟨text, rfl, not_exists.mp denotes⟩
    | empty => exact absurd ⟨_, .empty⟩ denotes

end Value

/-- An operation in place, such as adding to a cell or dividing it: what the cell holds becomes the
left operand of an operator, and is replaced by the result. -/
structure Update where
  symbol : Operator
  operand : Value

/-- Why an update of a cell fails, the causes in the order in which they are looked for. -/
inductive Update.Fails (cell : Value) : Update → ArithmeticError → Prop
  | operator (operand : Value) : Fails cell ⟨.power, operand⟩ (.unsupportedOperator .power)
  | cell {symbol text} (operand : Value) : symbol ≠ .power → cell.IsNoNumber text →
      Fails cell ⟨symbol, operand⟩ (.notANumber text)
  | operand {symbol number operand text} : symbol ≠ .power → cell.Denotes number →
      operand.IsNoNumber text → Fails cell ⟨symbol, operand⟩ (.notANumber text)
  | division {dividend operand} : cell.Denotes (.integer dividend) → operand.Denotes (.integer 0) →
      Fails cell ⟨.divide, operand⟩ .divisionByZero

namespace Operator

variable {symbol : Operator} {operation : Number → Number → Except ArithmeticError Number}
  {left right : Value} {leftNumber rightNumber : Number}

theorem exists_operation (supported : symbol ≠ .power) :
    ∃ operation, symbol.operation? = some operation := by
  cases symbol with
  | add | subtract | multiply | divide => exact ⟨_, rfl⟩
  | power => contradiction

theorem apply_of_denotes (found : symbol.operation? = some operation)
    (leftDenotes : left.Denotes leftNumber) (rightDenotes : right.Denotes rightNumber) :
    symbol.apply left right = (operation leftNumber rightNumber).map .ofNumber := by
  simp only [apply, found, Value.toNumber_eq_ok_iff.mpr leftDenotes,
    Value.toNumber_eq_ok_iff.mpr rightDenotes]
  rfl

theorem apply_of_fails {error : ArithmeticError} (fails : Update.Fails left ⟨symbol, right⟩ error) :
    symbol.apply left right = .error error := by
  cases fails with
  | operator _ => rfl
  | cell _ supported noNumber =>
      obtain ⟨operation, found⟩ := exists_operation supported
      simp only [apply, found, noNumber.toNumber_eq_error]
      rfl
  | operand supported denotes noNumber =>
      obtain ⟨operation, found⟩ := exists_operation supported
      simp only [apply, found, Value.toNumber_eq_ok_iff.mpr denotes, noNumber.toNumber_eq_error]
      rfl
  | division leftDenotes rightDenotes =>
      rw [apply_of_denotes rfl leftDenotes rightDenotes]
      rfl

theorem operation_eq_error (found : symbol.operation? = some operation) {error : ArithmeticError}
    (failed : operation leftNumber rightNumber = .error error) :
    symbol = .divide ∧ (∃ dividend, leftNumber = .integer dividend) ∧
      rightNumber = .integer 0 := by
  cases symbol with
  | add | subtract | multiply =>
      obtain rfl := Option.some.inj found
      contradiction
  | divide =>
      obtain rfl := Option.some.inj found
      unfold Number.divide at failed
      split at failed
      · split at failed
        · rename_i zero
          exact ⟨rfl, ⟨_, rfl⟩, by rw [zero]⟩
        · contradiction
      · contradiction
  | power => contradiction

theorem fails_or_denotes (symbol : Operator) (left right : Value) :
    (∃ error, Update.Fails left ⟨symbol, right⟩ error) ∨
      ∃ operation leftNumber rightNumber number, symbol.operation? = some operation ∧
        left.Denotes leftNumber ∧ right.Denotes rightNumber ∧
        operation leftNumber rightNumber = .ok number := by
  rcases eq_or_ne symbol .power with rfl | supported
  · exact Or.inl ⟨_, .operator right⟩
  obtain ⟨operation, found⟩ := exists_operation supported
  rcases left.denotes_or_isNoNumber with ⟨leftNumber, leftDenotes⟩ | ⟨text, noNumber⟩
  · rcases right.denotes_or_isNoNumber with ⟨rightNumber, rightDenotes⟩ | ⟨text, noNumber⟩
    · cases computed : operation leftNumber rightNumber with
      | error _ =>
          obtain ⟨rfl, ⟨dividend, rfl⟩, rfl⟩ := operation_eq_error found computed
          exact Or.inl ⟨_, .division leftDenotes rightDenotes⟩
      | ok number =>
          exact Or.inr ⟨_, _, _, number, found, leftDenotes, rightDenotes, computed⟩
    · exact Or.inl ⟨_, .operand supported leftDenotes noNumber⟩
  · exact Or.inl ⟨_, .cell right supported noNumber⟩

theorem apply_eq_error_iff {error : ArithmeticError} :
    symbol.apply left right = .error error ↔ Update.Fails left ⟨symbol, right⟩ error := by
  constructor
  · intro failed
    rcases fails_or_denotes symbol left right with
      ⟨cause, fails⟩ | ⟨_, _, _, number, found, leftDenotes, rightDenotes, computed⟩
    · rw [apply_of_fails fails] at failed
      exact Except.error.inj failed ▸ fails
    · rw [apply_of_denotes found leftDenotes rightDenotes, computed] at failed
      contradiction
  · exact apply_of_fails

theorem apply_eq_ok {result : Value} (applied : symbol.apply left right = .ok result) :
    ∃ operation leftNumber rightNumber number, symbol.operation? = some operation ∧
      left.Denotes leftNumber ∧ right.Denotes rightNumber ∧
      operation leftNumber rightNumber = .ok number ∧ result = .ofNumber number := by
  rcases fails_or_denotes symbol left right with
    ⟨cause, fails⟩ | ⟨_, _, _, number, found, leftDenotes, rightDenotes, computed⟩
  · rw [apply_of_fails fails] at applied
    contradiction
  · rw [apply_of_denotes found leftDenotes rightDenotes, computed] at applied
    exact ⟨_, _, _, number, found, leftDenotes, rightDenotes, computed,
      (Except.ok.inj applied).symm⟩

theorem operation_double (found : symbol.operation? = some operation) {double : Double}
    {number : Number} (computed : operation (.double double) rightNumber = .ok number) :
    ∃ result, number = .double result := by
  cases symbol with
  | add | subtract | multiply | divide =>
      obtain rfl := Option.some.inj found
      exact ⟨_, (Except.ok.inj computed).symm⟩
  | power => contradiction

end Operator

namespace Update

def steps (update : Update) : ExceptT ArithmeticError (StateM Value) Unit :=
  match update.symbol.operation? with
  | none => throw (.unsupportedOperator update.symbol)
  | some operation => do
      let left ← liftExcept (← get).toNumber
      let right ← liftExcept update.operand.toNumber
      let result ← liftExcept (operation left right)
      set (Value.ofNumber result)

def run (update : Update) (cell : Value) : Except ArithmeticError Unit × Value :=
  update.steps.run cell

variable {update : Update} {cell : Value}

theorem run_eq_apply (update : Update) (cell : Value) :
    update.run cell =
      match update.symbol.apply cell update.operand with
      | .ok result => (.ok (), result)
      | .error error => (.error error, cell) := by
  rw [run, steps, Operator.apply]
  cases update.symbol.operation? with
  | none => rfl
  | some operation =>
      change (liftExcept cell.toNumber >>= fun left => do
        let right ← liftExcept update.operand.toNumber
        let result ← liftExcept (operation left right)
        set (Value.ofNumber result) : ExceptT ArithmeticError (StateM Value) Unit).run cell = _
      cases cell.toNumber with
      | error _ => rfl
      | ok left =>
          cases update.operand.toNumber with
          | error _ => rfl
          | ok right =>
              change (liftExcept (operation left right) >>= fun result =>
                  set (Value.ofNumber result) :
                  ExceptT ArithmeticError (StateM Value) Unit).run cell =
                match (operation left right).map Value.ofNumber with
                | .ok result => (.ok (), result)
                | .error error => (.error error, cell)
              cases operation left right <;> rfl

theorem run_of_ok {result : Value}
    (applied : update.symbol.apply cell update.operand = .ok result) :
    update.run cell = (.ok (), result) := by
  rw [run_eq_apply, applied]

theorem run_of_fails {error : ArithmeticError} (fails : update.Fails cell error) :
    update.run cell = (.error error, cell) := by
  rw [run_eq_apply, Operator.apply_of_fails fails]

theorem run_cases (update : Update) (cell : Value) :
    (∃ error, update.Fails cell error) ∨
      ∃ result, update.symbol.apply cell update.operand = .ok result := by
  cases applied : update.symbol.apply cell update.operand with
  | ok result => exact Or.inr ⟨result, rfl⟩
  | error error => exact Or.inl ⟨error, Operator.apply_eq_error_iff.mp applied⟩

theorem answer_eq_error_iff {error : ArithmeticError} :
    (update.run cell).1 = .error error ↔ update.Fails cell error := by
  rcases update.run_cases cell with ⟨cause, fails⟩ | ⟨result, applied⟩
  · rw [run_of_fails fails, ← Operator.apply_eq_error_iff, Operator.apply_of_fails fails]
    simp
  · rw [run_of_ok applied, ← Operator.apply_eq_error_iff, applied]
    simp

end Update

namespace Value

def updateAll (cell : Value) (updates : List Update) : Value :=
  updates.foldl (fun held update => (update.run held).2) cell

def successes (cell : Value) : List Update → List Update
  | [] => []
  | update :: others =>
      match update.run cell with
      | (.ok (), result) => update :: result.successes others
      | (.error _, held) => held.successes others

def IsNumber (value : Value) : Prop :=
  ∃ number, value = .ofNumber number

def IsDouble (value : Value) : Prop :=
  ∃ number, value = .double number

end Value

namespace Update

variable {update : Update} {cell : Value}

theorem isNumber_of_applied {result : Value}
    (applied : update.symbol.apply cell update.operand = .ok result) : result.IsNumber := by
  obtain ⟨_, _, _, number, _, _, _, _, shape⟩ := Operator.apply_eq_ok applied
  exact ⟨number, shape⟩

theorem isDouble_of_applied {result : Value}
    (applied : update.symbol.apply cell update.operand = .ok result) (double : cell.IsDouble) :
    result.IsDouble := by
  obtain ⟨_, rfl⟩ := double
  obtain ⟨_, _, _, number, found, leftDenotes, _, computed, rfl⟩ := Operator.apply_eq_ok applied
  cases leftDenotes
  obtain ⟨sum, rfl⟩ := Operator.operation_double found computed
  exact ⟨sum, rfl⟩

theorem isNumber_run (number : cell.IsNumber) : (update.run cell).2.IsNumber := by
  rcases update.run_cases cell with ⟨error, fails⟩ | ⟨result, applied⟩
  · rw [run_of_fails fails]
    exact number
  · rw [run_of_ok applied]
    exact isNumber_of_applied applied

theorem isDouble_run (double : cell.IsDouble) : (update.run cell).2.IsDouble := by
  rcases update.run_cases cell with ⟨error, fails⟩ | ⟨result, applied⟩
  · rw [run_of_fails fails]
    exact double
  · rw [run_of_ok applied]
    exact isDouble_of_applied applied double

end Update

namespace Value

theorem updateAll_append (cell : Value) (updates others : List Update) :
    cell.updateAll (updates ++ others) = (cell.updateAll updates).updateAll others :=
  List.foldl_append

theorem updateAll_of_fails {update : Update} {cell : Value} {error : ArithmeticError}
    (fails : update.Fails cell error) (others : List Update) :
    cell.updateAll (update :: others) = cell.updateAll others := by
  rw [updateAll, List.foldl_cons, Update.run_of_fails fails, updateAll]

theorem updateAll_of_ok {update : Update} {cell result : Value}
    (applied : update.symbol.apply cell update.operand = .ok result) (others : List Update) :
    cell.updateAll (update :: others) = result.updateAll others := by
  rw [updateAll, List.foldl_cons, Update.run_of_ok applied, updateAll]

theorem successes_of_fails {update : Update} {cell : Value} {error : ArithmeticError}
    (fails : update.Fails cell error) (others : List Update) :
    cell.successes (update :: others) = cell.successes others := by
  rw [successes, Update.run_of_fails fails]

theorem successes_of_ok {update : Update} {cell result : Value}
    (applied : update.symbol.apply cell update.operand = .ok result) (others : List Update) :
    cell.successes (update :: others) = update :: result.successes others := by
  rw [successes, Update.run_of_ok applied]

theorem isNumber_updateAll {cell : Value} (number : cell.IsNumber) (updates : List Update) :
    (cell.updateAll updates).IsNumber := by
  induction updates generalizing cell with
  | nil => exact number
  | cons update others ih => exact ih (Update.isNumber_run number)

theorem isDouble_updateAll {cell : Value} (double : cell.IsDouble) (updates : List Update) :
    (cell.updateAll updates).IsDouble := by
  induction updates generalizing cell with
  | nil => exact double
  | cons update others ih => exact ih (Update.isDouble_run double)

theorem updateAll_successes (cell : Value) (updates : List Update) :
    cell.updateAll (cell.successes updates) = cell.updateAll updates := by
  induction updates generalizing cell with
  | nil => rfl
  | cons update others ih =>
      rcases update.run_cases cell with ⟨error, fails⟩ | ⟨result, applied⟩
      · rw [successes_of_fails fails, updateAll_of_fails fails, ih]
      · rw [successes_of_ok applied, updateAll_of_ok applied, updateAll_of_ok applied, ih]

theorem successes_successes (cell : Value) (updates : List Update) :
    cell.successes (cell.successes updates) = cell.successes updates := by
  induction updates generalizing cell with
  | nil => rfl
  | cons update others ih =>
      rcases update.run_cases cell with ⟨error, fails⟩ | ⟨result, applied⟩
      · rw [successes_of_fails fails, ih]
      · rw [successes_of_ok applied, successes_of_ok applied, ih]

theorem isNumber_of_successes {cell : Value} {updates : List Update}
    (succeeded : cell.successes updates ≠ []) : (cell.updateAll updates).IsNumber := by
  induction updates generalizing cell with
  | nil => exact absurd rfl succeeded
  | cons update others ih =>
      rcases update.run_cases cell with ⟨error, fails⟩ | ⟨result, applied⟩
      · rw [updateAll_of_fails fails]
        rw [successes_of_fails fails] at succeeded
        exact ih succeeded
      · rw [updateAll_of_ok applied]
        exact isNumber_updateAll (Update.isNumber_of_applied applied) others

/-- In a run of updates on a cell, each one fails for the first cause there is, or else succeeds.
In the end the cell holds what the successful ones alone leave in it, which succeed without the
others as well. Once one has succeeded it holds an integer or a double, and once it holds a double
it does so to the end. -/
theorem updateAll_discounts_failures (cell : Value) (updates : List Update) :
    (∀ before update after, updates = before ++ update :: after → ∀ error,
      (update.run (cell.updateAll before)).1 = .error error ↔
        update.Fails (cell.updateAll before) error) ∧
    cell.updateAll updates = cell.updateAll (cell.successes updates) ∧
    cell.successes (cell.successes updates) = cell.successes updates ∧
    (cell.successes updates ≠ [] → (cell.updateAll updates).IsNumber) ∧
    ∀ before after, updates = before ++ after → (cell.updateAll before).IsDouble →
      (cell.updateAll updates).IsDouble := by
  refine ⟨?_, (cell.updateAll_successes updates).symm, cell.successes_successes updates,
    isNumber_of_successes, ?_⟩
  · intro before update after _ error
    exact Update.answer_eq_error_iff
  · rintro before after rfl double
    rw [updateAll_append]
    exact isDouble_updateAll double after

end Value

end TagTemplate
