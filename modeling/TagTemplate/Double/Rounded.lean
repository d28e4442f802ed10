import TagTemplate.Digits
import TagTemplate.Double.Grid

/-!
Doubles rounded to a number of decimal places.
-/

namespace TagTemplate.Double

def roundRatio (numerator denominator : Nat) : Nat :=
  let below := numerator / denominator
  match compare (2 * (numerator % denominator)) denominator with
  | .lt => below
  | .eq => below + below % 2
  | .gt => below + 1

def padLeft (length : Nat) (digits : List Char) : List Char :=
  List.replicate (length - digits.length) '0' ++ digits

/-- The exact value at a finite rank, rounded: its whole digits and as many digits behind the point
as there are places. -/
def rounded (rank places : Nat) : List Char × List Char :=
  let number := roundRatio (units rank * Nat.pow 10 places) (1 <<< unitPower)
  let digits := padLeft (places + 1) (Digits.text number)
  digits.splitAt (digits.length - places)

end TagTemplate.Double
