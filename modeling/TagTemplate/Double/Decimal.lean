import TagTemplate.Digits
import TagTemplate.Double.Grid

/-!
Decimal numerals and the doubles they denote.
-/

namespace TagTemplate.Double

structure Decimal where
  coefficient : Nat
  exponent : Int
  deriving Repr, DecidableEq

namespace Decimal

/-- The rank nearest to a decimal. Exponents far out of range are settled without their powers. -/
def rank (decimal : Decimal) : Nat :=
  if decimal.coefficient = 0 then 0
  else if 310 < decimal.exponent then infinityRank
  else if decimal.exponent + decimal.coefficient.log2 + 1 < -330 then 0
  else
    nearestRank (decimal.coefficient * Nat.pow 10 decimal.exponent.toNat)
      (Nat.pow 10 (-decimal.exponent).toNat)

def readExponent? : List Char → Option Int
  | [] => some 0
  | marker :: characters =>
      if marker = 'e' ∨ marker = 'E' then
        match characters with
        | '+' :: digits => (Digits.read? digits).map Int.ofNat
        | '-' :: digits => (Digits.read? digits).map fun number => -Int.ofNat number
        | digits => (Digits.read? digits).map Int.ofNat
      else none

def splitFraction : List Char → List Char × List Char
  | '.' :: characters => (characters.takeWhile Char.isDigit, characters.dropWhile Char.isDigit)
  | characters => ([], characters)

/-- A numeral without a sign: digits, perhaps a point among them or at either end, and perhaps an
exponent. At least one digit stands before the exponent. -/
def read? (characters : List Char) : Option Decimal :=
  let whole := characters.takeWhile Char.isDigit
  let (fraction, exponentPart) := splitFraction (characters.dropWhile Char.isDigit)
  if whole.isEmpty && fraction.isEmpty then none
  else
    (readExponent? exponentPart).map fun exponent =>
      ⟨Digits.value (whole ++ fraction), exponent - fraction.length⟩

end Decimal

end TagTemplate.Double
