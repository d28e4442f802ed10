import TagTemplate.Double.Grid

/-!
The total order of doubles: negative values, the negative zero, the positive zero and positive
values. A NaN is beyond the infinity of its sign, the farther the greater its payload.
-/

namespace TagTemplate.Double

def place (number : Double) : Int :=
  if isNegative number then -1 - rank number else rank number

def totalCompare (left right : Double) : Ordering :=
  compare (place left) (place right)

end TagTemplate.Double
