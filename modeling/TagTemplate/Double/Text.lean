import TagTemplate.Double.Shortest

/-!
The canonical text of a double. It always has a point, so that it never reads as an integer.
-/

namespace TagTemplate.Double

def dropTrailingZeros (digits : List Char) : List Char :=
  (digits.reverse.dropWhile (· == '0')).reverse

/-- Digits with a point after the first `point` of them, filled up with zeros on either side so
that at least one digit stands before and behind it. -/
def positional (digits : List Char) (point : Int) : List Char :=
  if point ≤ 0 then
    '0' :: '.' :: (List.replicate (-point).toNat '0' ++ digits)
  else if digits.length ≤ point then
    digits ++ List.replicate (point.toNat - digits.length) '0' ++ ['.', '0']
  else
    digits.take point.toNat ++ '.' :: digits.drop point.toNat

def scientific (digits : List Char) (point : Int) : List Char :=
  positional digits 1 ++ 'E' :: (toString (point - 1)).toList

/-- The shortest digits of a positive finite rank: positional from a thousandth up to below ten
million, scientific elsewhere. -/
def magnitudeText (rank : Nat) : List Char :=
  let decimal := shortest rank
  let spelled := Digits.text decimal.coefficient
  let point := spelled.length + decimal.exponent
  let digits := dropTrailingZeros spelled
  if -2 ≤ point ∧ point ≤ 7 then positional digits point else scientific digits point

def text (number : Double) : String :=
  let magnitude := rank number
  if infinityRank < magnitude then "NaN"
  else
    let sign := if isNegative number then "-" else ""
    if magnitude = infinityRank then sign ++ "Infinity"
    else if magnitude = 0 then sign ++ "0.0"
    else sign ++ String.ofList (magnitudeText magnitude)

end TagTemplate.Double
