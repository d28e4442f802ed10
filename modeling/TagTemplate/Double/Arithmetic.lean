import TagTemplate.Double.Grid

/-!
Arithmetic on doubles. A NaN among the operands goes through with its sign and payload, the left one
first; where no operand is a NaN but the result is, it is the one with its sign set.
-/

namespace TagTemplate.Double

/-- The number of a double. All NaN are one there. -/
def toFloat (number : Double) : Float :=
  Float.ofBits number.bits

instance : BEq Double :=
  ⟨fun left right => left.toFloat == right.toFloat⟩

def isBelowZero (number : Double) : Bool :=
  number.toFloat < 0.0

def ofResult (result : Float) : Double :=
  if result.isNaN then ⟨0xFFF8000000000000⟩ else ⟨result.toBits⟩

def quiet (number : Double) : Double :=
  ⟨number.bits ||| 0x0008000000000000⟩

def operate (operation : Float → Float → Float) (left right : Double) : Double :=
  if left.isNan then left.quiet
  else if right.isNan then right.quiet
  else ofResult (operation left.toFloat right.toFloat)

def add : Double → Double → Double :=
  operate (· + ·)

def subtract : Double → Double → Double :=
  operate (· - ·)

def multiply : Double → Double → Double :=
  operate (· * ·)

def divide : Double → Double → Double :=
  operate (· / ·)

def sine (number : Double) : Double :=
  if number.isNan then number.quiet else ofResult number.toFloat.sin

end TagTemplate.Double
