import TagTemplate.Double.Decimal

/-!
The shortest decimal that reads back as a given double. Of a decimal grid only the two neighbours
of the value need a test: if any point of the grid reads back, one of these does.
-/

namespace TagTemplate.Double

def decimalOrder (amount : Nat) : Int :=
  (Digits.text ((amount * Nat.pow 10 324) >>> unitPower)).length - 325

/-- The neighbours of a rank's value on the grid of multiples of a power of ten, the nearer one
first. From the middle between them the upper one counts as nearer. -/
def neighbours (rank : Nat) (exponent : Int) : List Decimal :=
  let numerator := units rank * Nat.pow 10 (-exponent).toNat
  let denominator := Nat.pow 10 exponent.toNat <<< unitPower
  let below := numerator / denominator
  if 2 * numerator < (2 * below + 1) * denominator then
    [⟨below, exponent⟩, ⟨below + 1, exponent⟩]
  else
    [⟨below + 1, exponent⟩, ⟨below, exponent⟩]

def exactDecimal (rank : Nat) : Decimal :=
  ⟨units rank * Nat.pow 5 unitPower, -unitPower⟩

/-- Of the decimals that read back as a positive finite rank, one with the fewest digits, and among
those the nearest. Seventeen digits are always enough. -/
def shortest (rank : Nat) : Decimal :=
  let order := decimalOrder (units rank)
  let found := (List.range 17).findSome? fun (more : Nat) =>
    (neighbours rank (order - more)).find? fun decimal => decimal.rank == rank
  found.getD (exactDecimal rank)

end TagTemplate.Double
