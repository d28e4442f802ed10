import TagTemplate.Proofs.Expression
import TagTemplate.Proofs.NumberGrammar
import TagTemplate.Proofs.OperandText
import TagTemplate.Proofs.ScopeLaws

/-!
Arithmetic on integers that wraps around. An expression of sums, differences and products of
integers has an exact value, however large. What an echo tag writes of it is the one 64-bit integer
that is congruent to the exact value, so that overflow on the way does no harm as long as the exact
value itself is in range.
-/

namespace TagTemplate

def Operator.exactOperation? : Operator → Option (Int → Int → Int)
  | .add => some (· + ·)
  | .subtract => some (· - ·)
  | .multiply => some (· * ·)
  | .divide | .power => none

inductive Value.StandsFor : Value → Int64 → Prop
  | integer (number : Int64) : StandsFor (.integer number) number
  | string {content number} : SpellsInteger content.toList number.toInt →
      StandsFor (.string content) number

/-- The value of an expression over integers if nothing overflows. -/
inductive Expression.HasExactValue (scope : Scope) : Expression → Int → Prop
  | integer (number : Int64) : HasExactValue scope (.integer number) number.toInt
  | string {content} {number : Int64} : SpellsInteger content.toList number.toInt →
      HasExactValue scope (.string content) number.toInt
  | variable {name value number} : scope.peek name = .ok value → value.StandsFor number →
      HasExactValue scope (.variable name) number.toInt
  | binary {left symbol right operation leftExact rightExact} :
      symbol.exactOperation? = some operation → HasExactValue scope left leftExact →
      HasExactValue scope right rightExact →
      HasExactValue scope (.binary left symbol right) (operation leftExact rightExact)

theorem Value.toNumber_of_spells {content : String} {number : Int64}
    (spelled : SpellsInteger content.toList number.toInt) :
    (string content).toNumber = .ok (.integer number) := by
  simp only [toNumber, Number.ofText?, Integer.read?_eq_some_iff.mpr spelled]

theorem Value.toNumber_text_of_standsFor {value : Value} {number : Int64}
    (integral : value.StandsFor number) :
    (string value.text).toNumber = .ok (.integer number) := by
  cases integral with
  | integer number => exact toNumber_text (.integer number)
  | string spelled => exact toNumber_of_spells spelled

theorem Operator.apply_residues {symbol : Operator} {operation : Int → Int → Int}
    (wraps : symbol.exactOperation? = some operation) {left right : Value}
    {leftExact rightExact : Int}
    (leftDenotes : left.toNumber = .ok (.integer (Int64.ofInt leftExact)))
    (rightDenotes : right.toNumber = .ok (.integer (Int64.ofInt rightExact))) :
    symbol.apply left right = .ok (.integer (Int64.ofInt (operation leftExact rightExact))) := by
  have applied (onNumbers : Number → Number → Except ArithmeticError Number)
      (found : symbol.operation? = some onNumbers) :
      symbol.apply left right =
        (onNumbers (.integer (Int64.ofInt leftExact)) (.integer (Int64.ofInt rightExact))).map
          Value.ofNumber := by
    simp only [apply, found, leftDenotes, rightDenotes]
    rfl
  cases symbol with
  | add =>
      obtain rfl := Option.some.inj wraps
      rw [applied _ rfl, Int64.ofInt_add]
      rfl
  | subtract =>
      obtain rfl := Option.some.inj wraps
      rw [applied _ rfl, Int64.ofInt_sub]
      rfl
  | multiply =>
      obtain rfl := Option.some.inj wraps
      rw [applied _ rfl, Int64.ofInt_mul]
      rfl
  | divide => cases wraps
  | power => cases wraps

namespace Expression

theorem value_binary {left right : Expression} {symbol : Operator} {scope : Scope}
    {leftValue rightValue result : Value} (leftEvaluates : left.value scope = .ok leftValue)
    (rightEvaluates : right.value scope = .ok rightValue)
    (applied : symbol.apply leftValue rightValue = .ok result) :
    (binary left symbol right).value scope = .ok result := by
  rw [value, leftEvaluates, rightEvaluates]
  change (symbol.apply leftValue rightValue).mapError EvalError.arithmetic = _
  rw [applied]
  rfl

theorem exists_value_of_hasExactValue {expression : Expression} {scope : Scope} {exact : Int}
    (integral : expression.HasExactValue scope exact) :
    ∃ value, expression.value scope = .ok value ∧
      value.toNumber = .ok (.integer (Int64.ofInt exact)) := by
  induction integral with
  | integer number => exact ⟨_, rfl, by rw [Int64.ofInt_toInt]; rfl⟩
  | string spelled =>
      exact ⟨_, rfl, by rw [Int64.ofInt_toInt, Value.toNumber_of_spells spelled]⟩
  | @«variable» _ value _ bound integral =>
      refine ⟨.string value.text, by rw [Expression.value, bound]; rfl, ?_⟩
      rw [Int64.ofInt_toInt, Value.toNumber_text_of_standsFor integral]
  | binary wraps _ _ ihLeft ihRight =>
      obtain ⟨leftValue, leftEvaluates, leftDenotes⟩ := ihLeft
      obtain ⟨rightValue, rightEvaluates, rightDenotes⟩ := ihRight
      have applied := Operator.apply_residues wraps leftDenotes rightDenotes
      exact ⟨_, value_binary leftEvaluates rightEvaluates applied, rfl⟩

theorem value_of_hasExactValue {left right : Expression} {symbol : Operator} {scope : Scope}
    {exact : Int} (integral : (binary left symbol right).HasExactValue scope exact) :
    (binary left symbol right).value scope = .ok (.integer (Int64.ofInt exact)) := by
  cases integral with
  | binary wraps leftIntegral rightIntegral =>
      obtain ⟨leftValue, leftEvaluates, leftDenotes⟩ := exists_value_of_hasExactValue leftIntegral
      obtain ⟨rightValue, rightEvaluates, rightDenotes⟩ := exists_value_of_hasExactValue rightIntegral
      exact value_binary leftEvaluates rightEvaluates
        (Operator.apply_residues wraps leftDenotes rightDenotes)

theorem modEq_iff_eq_ofInt (number : Int64) (exact : Int) :
    number.toInt ≡ exact [ZMOD 2 ^ 64] ↔ number = Int64.ofInt exact := by
  constructor
  · intro congruent
    have residues : (number.toInt % (2 ^ 64 : Nat)).bmod (2 ^ 64) =
        (exact % (2 ^ 64 : Nat)).bmod (2 ^ 64) := congrArg (Int.bmod · (2 ^ 64)) congruent
    rw [Int.emod_bmod, Int.emod_bmod] at residues
    exact ((Int64.ofInt_eq_iff_bmod_eq_toInt exact number).mpr
      (residues.symm.trans number.toInt_bmod)).symm
  · rintro rfl
    rw [Int64.toInt_ofInt]
    exact Int.bmod_emod

/-- An echo tag made of an expression over integers, with an operator in it, succeeds in evaluating
it and writes the one integer of 64 bits that is congruent to the exact value of the expression,
which is the exact value itself if that is in range. -/
theorem echo_writes_residue {left right : Expression} {symbol : Operator} {machine : Machine}
    {exact : Int} (integral : (binary left symbol right).HasExactValue machine.scope exact) :
    (binary left symbol right).value machine.scope = .ok (.integer (Int64.ofInt exact)) ∧
    (Execution.echo (binary left symbol right).code).run machine =
      (Execution.write (Integer.text (Int64.ofInt exact))).run machine ∧
    (∀ number : Int64, number.toInt ≡ exact [ZMOD 2 ^ 64] ↔ number = Int64.ofInt exact) ∧
    (-2 ^ 63 ≤ exact → exact < 2 ^ 63 → Integer.text (Int64.ofInt exact) = toString exact) ∧
    (machine.context.Forwards → ∀ number : Int64, number.toInt ≡ exact [ZMOD 2 ^ 64] →
      (Execution.echo (binary left symbol right).code).run machine = (.ok (), { machine with
        context := machine.context.receive (toString number.toInt).toUTF8 })) := by
  have evaluates := value_of_hasExactValue integral
  have written := run_echo_code evaluates
  rw [Value.text] at written
  refine ⟨evaluates, written, (modEq_iff_eq_ofInt · exact), fun low high => ?_,
    fun forwards number congruent => ?_⟩
  · rw [Integer.text, Int64.toInt_ofInt_of_le low high]
  · rw [written, Execution.run_write forwards, (modEq_iff_eq_ofInt number exact).mp congruent,
      Integer.text]

def turnedSum : Expression :=
  .binary (.binary (.integer 9223372036854775807) .add (.variable "i")) .multiply (.string "-1")

theorem echo_writes_turnedSum :
    let machine : Machine :=
      ⟨Scope.empty.push "i" (.string "+1"), .new (.empty none) ∅ ∅ ∅ false⟩
    turnedSum.HasExactValue machine.scope (-9223372036854775808) ∧
      (Execution.echo turnedSum.code).run machine = (.ok (), { machine with
        context := machine.context.receive "-9223372036854775808".toUTF8 }) := by
  intro machine
  have one : SpellsInteger "+1".toList (1 : Int64).toInt := Integer.read?_eq_some_iff.mp rfl
  have minusOne : SpellsInteger "-1".toList (-1 : Int64).toInt := Integer.read?_eq_some_iff.mp rfl
  have bound : machine.scope.peek "i" = .ok (.string "+1") := by
    rw [Scope.peek_push, if_pos rfl]
  have sum := @HasExactValue.binary machine.scope _ .add _ (· + ·) _ _ rfl
    (.integer 9223372036854775807) (.variable bound (.string one))
  have integral : turnedSum.HasExactValue machine.scope (-9223372036854775808) :=
    @HasExactValue.binary machine.scope _ .multiply _ (· * ·) _ _ rfl sum (.string minusOne)
  obtain ⟨-, -, -, -, written⟩ := echo_writes_residue integral
  exact ⟨integral, written ⟨rfl, by decide⟩ (-9223372036854775808) (by decide)⟩

end Expression

end TagTemplate
