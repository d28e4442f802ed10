/-!
Doubles as points of a grid. Apart from its sign a double is a rank: its place among the values
from zero upwards, which is also what its bit pattern spells. The value at a rank is a whole number
of units, one unit being the least positive double, so that rounding compares natural numbers. The
number one is `2 ^ unitPower` units, and an octave of ranks leads from one power of two to the next.
-/

namespace TagTemplate

/-- A double as its bit pattern. Each of them is a double, and so a NaN has a sign and a payload. -/
structure Double where
  bits : UInt64

namespace Double

def unitPower : Nat := 1074

def octave : Nat := 0x10000000000000

def infinityRank : Nat := 0x7FF0000000000000

def signBit : Nat := 0x8000000000000000

/-- The value at a rank. At `infinityRank` it is the first power of two out of range. -/
def units (rank : Nat) : Nat :=
  -- Below the first octave, a rank is its own value.
  if rank < octave then rank
  else (octave + rank % octave) <<< (rank / octave - 1)

def floorRank (amount : Nat) : Nat :=
  if amount < 2 * octave then amount
  else
    let shift := amount.log2 - 52
    shift * octave + (amount >>> shift)

/-- The rank nearest to a ratio. A half goes to the even neighbour, and what lies beyond the
greatest finite value by half a step or more goes to infinity. -/
def nearestRank (numerator denominator : Nat) : Nat :=
  let amount := numerator <<< unitPower
  let below := floorRank (amount / denominator)
  let middle := (units below + units (below + 1)) * denominator
  let rank := match compare (2 * amount) middle with
    | .lt => below
    | .eq => below + below % 2
    | .gt => below + 1
  min rank infinityRank

def nan : Double :=
  ⟨0x7FF8000000000000⟩

def isNegative (number : Double) : Bool :=
  signBit ≤ number.bits.toNat

def rank (number : Double) : Nat :=
  number.bits.toNat % signBit

def ofRank (negative : Bool) (rank : Nat) : Double :=
  ⟨UInt64.ofNat (if negative then signBit + rank else rank)⟩

def ofInt (number : Int) : Double :=
  ofRank (number < 0) (nearestRank number.natAbs 1)

def isFinite (number : Double) : Bool :=
  rank number < infinityRank

def isNan (number : Double) : Bool :=
  infinityRank < rank number

end Double

end TagTemplate
