/-!
Sets of characters given by a table of code point intervals.
-/

namespace TagTemplate.Text

/-- Closed intervals of code points, each above the one before it. -/
structure CodePoints where
  intervals : List (Nat × Nat)

def covers : List (Nat × Nat) → Nat → Bool
  | [], _ => false
  | (low, high) :: others, point =>
      if point ≤ high then low ≤ point else covers others point

def CodePoints.contains (points : CodePoints) (character : Char) : Bool :=
  covers points.intervals character.toNat

end TagTemplate.Text
