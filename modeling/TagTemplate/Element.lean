import TagTemplate.Double.Arithmetic
import TagTemplate.Double.Text
import TagTemplate.Integer
import TagTemplate.Text.LineBreak

/-!
The elements inside a tag: constants, variables, functions and operators.
-/

namespace TagTemplate

inductive Operator where
  | add | subtract | multiply | divide | power
  deriving Repr, DecidableEq

namespace Operator

def symbol : Operator → Char
  | .add => '+'
  | .subtract => '-'
  | .multiply => '*'
  | .divide => '/'
  | .power => '^'

def text (operator : Operator) : String :=
  operator.symbol.toString

def ofChar? : Char → Option Operator
  | '+' => some .add
  | '-' => some .subtract
  | '*' => some .multiply
  | '/' => some .divide
  | '^' => some .power
  | _ => none

theorem ofChar?_symbol (operator : Operator) : ofChar? operator.symbol = some operator := by
  cases operator <;> rfl

end Operator

/-- Two elements are equal under `==` if they are of one kind with equal contents, where doubles
compare as numbers: a NaN differs from itself and the two zeros are equal. -/
inductive Element where
  | integer (number : Int64)
  | double (number : Double)
  | string (content : String)
  | variable (name : String)
  | function (name : String)
  | operator (symbol : Operator)
  deriving BEq

def Element.text : Element → String
  | .integer number => Integer.text number
  | .double number => Double.text number
  | .string content => "\"" ++ String.ofList (Text.escapeLineBreaks content.toList) ++ "\""
  | .variable name => name
  | .function name => "@" ++ name
  | .operator symbol => symbol.text

end TagTemplate
