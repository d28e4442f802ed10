import TagTemplate.Double.Arithmetic
import TagTemplate.Double.Order
import TagTemplate.Element
import TagTemplate.Number

/-!
Values and their arithmetic. Operands become numbers first; an operation on two integers wraps
around, any other is carried out on doubles.
-/

namespace TagTemplate

inductive ArithmeticError where
  | notANumber (text : String)
  | divisionByZero
  | unsupportedOperator (symbol : Operator)
  deriving Repr, DecidableEq

def ArithmeticError.message : ArithmeticError → String
  | .notANumber text => s!"`{text}` is not a number"
  | .divisionByZero => "integer division by zero"
  | .unsupportedOperator symbol => s!"operator `{symbol.text}` is not supported"

namespace Number

/-- The order of integers among themselves is exact; a double brings the total order of doubles. -/
def compare : Number → Number → Ordering
  | .integer left, .integer right => Ord.compare left right
  | left, right => Double.totalCompare left.toDouble right.toDouble

def combine (onIntegers : Int64 → Int64 → Int64) (onDoubles : Double → Double → Double) :
    Number → Number → Number
  | .integer left, .integer right => .integer (onIntegers left right)
  | left, right => .double (onDoubles left.toDouble right.toDouble)

def add : Number → Number → Number :=
  combine (· + ·) Double.add

def subtract : Number → Number → Number :=
  combine (· - ·) Double.subtract

def multiply : Number → Number → Number :=
  combine (· * ·) Double.multiply

def divide : Number → Number → Except ArithmeticError Number
  | .integer left, .integer right =>
      if right = 0 then .error .divisionByZero else .ok (.integer (left / right))
  | left, right => .ok (.double (left.toDouble.divide right.toDouble))

end Number

inductive Value where
  | integer (number : Int64)
  | double (number : Double)
  | string (content : String)
  | empty

namespace Value

def ofNumber : Number → Value
  | .integer number => .integer number
  | .double number => .double number

def text : Value → String
  | .integer number => Integer.text number
  | .double number => Double.text number
  | .string content => content
  | .empty => ""

def kindName : Value → String
  | .integer _ => "int"
  | .double _ => "double"
  | .string _ => "string"
  | .empty => "empty"

def toNumber : Value → Except ArithmeticError Number
  | .integer number => .ok (.integer number)
  | .double number => .ok (.double number)
  | .empty => .ok (.integer 0)
  | .string content =>
      match Number.ofText? content with
      | some number => .ok number
      | none => .error (.notANumber content)

def toDouble (value : Value) : Except ArithmeticError Double :=
  value.toNumber.map Number.toDouble

def compare (left right : Value) : Except ArithmeticError Ordering := do
  let leftNumber ← left.toNumber
  let rightNumber ← right.toNumber
  return leftNumber.compare rightNumber

end Value

def Operator.operation? : Operator → Option (Number → Number → Except ArithmeticError Number)
  | .add => some fun left right => .ok (left.add right)
  | .subtract => some fun left right => .ok (left.subtract right)
  | .multiply => some fun left right => .ok (left.multiply right)
  | .divide => some Number.divide
  | .power => none

/-- An unsupported operator is reported before its operands are looked at, and the left operand
before the right one. -/
def Operator.apply (symbol : Operator) (left right : Value) : Except ArithmeticError Value :=
  match symbol.operation? with
  | none => .error (.unsupportedOperator symbol)
  | some operation => do
      let leftNumber ← left.toNumber
      let rightNumber ← right.toNumber
      return .ofNumber (← operation leftNumber rightNumber)

end TagTemplate
