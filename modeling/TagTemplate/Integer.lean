import TagTemplate.Digits

/-!
Decimal texts of 64-bit integers.
-/

namespace TagTemplate.Integer

def text (number : Int64) : String :=
  toString number.toInt

def ofInt? (number : Int) : Option Int64 :=
  if Int64.minValue.toInt ≤ number ∧ number ≤ Int64.maxValue.toInt then
    some (Int64.ofInt number)
  else none

/-- An optional sign and one or more digits that denote an integer in range. -/
def read? : List Char → Option Int64
  | '+' :: digits => (Digits.read? digits).bind fun number => ofInt? number
  | '-' :: digits => (Digits.read? digits).bind fun number => ofInt? (-number)
  | digits => (Digits.read? digits).bind fun number => ofInt? number

end TagTemplate.Integer
