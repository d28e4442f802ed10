import TagTemplate.Value
import TagTemplate.Proofs.Double.Bits
import TagTemplate.Proofs.Double.Rounding

/-!
The order of numbers. Two integers compare exactly, but against a double an integer compares as it
is rounded, so that the order is glued from two. Rounding never turns two integers round, which is
why comparison is antisymmetric and its strict part transitive in every mixture. As long as rounding
does not make integers equal, that is up to `2 ^ 53`, comparison is the order of the doubles alone.
-/

namespace TagTemplate

namespace Double

theorem place_ofInt (number : Int) :
    place (ofInt number) =
      if number < 0 then -1 - (nearestRank number.natAbs 1 : Int)
      else nearestRank number.natAbs 1 := by
  have within := nearestRank_le_infinityRank number.natAbs
  rw [place, ofInt, isNegative_ofRank within, rank_ofRank within]
  simp only [decide_eq_true_eq]

theorem place_ofInt_mono {left right : Int} (ordered : left ≤ right) :
    place (ofInt left) ≤ place (ofInt right) := by
  rw [place_ofInt, place_ofInt]
  by_cases rightNegative : right < 0
  · have ranks := nearestRank_mono (show right.natAbs ≤ left.natAbs by omega)
    rw [if_pos (show left < 0 by omega), if_pos rightNegative]
    omega
  · by_cases leftNegative : left < 0
    · rw [if_pos leftNegative, if_neg rightNegative]
      omega
    · have ranks := nearestRank_mono (show left.natAbs ≤ right.natAbs by omega)
      rw [if_neg leftNegative, if_neg rightNegative]
      omega

theorem place_ofInt_lt {left right : Int} (below : left < right) (smallLeft : left.natAbs ≤ 2 ^ 53)
    (smallRight : right.natAbs ≤ 2 ^ 53) : place (ofInt left) < place (ofInt right) := by
  rw [place_ofInt, place_ofInt]
  by_cases rightNegative : right < 0
  · have ranks := nearestRank_lt (show right.natAbs < left.natAbs by omega) smallLeft
    rw [if_pos (show left < 0 by omega), if_pos rightNegative]
    omega
  · by_cases leftNegative : left < 0
    · rw [if_pos leftNegative, if_neg rightNegative]
      omega
    · have ranks := nearestRank_lt (show left.natAbs < right.natAbs by omega) smallRight
      rw [if_neg leftNegative, if_neg rightNegative]
      omega

end Double

namespace Number

def place (number : Number) : Int :=
  Double.place number.toDouble

def IsDouble : Number → Prop
  | .integer _ => False
  | .double _ => True

/-- The number is a double, or an integer small enough to be one as it stands. -/
def IsExact : Number → Prop
  | .integer number => number.toInt.natAbs ≤ 2 ^ 53
  | .double _ => True

variable {left middle right : Number}

theorem compare_integers (left right : Int64) :
    (integer left).compare (integer right) = Ord.compare left.toInt right.toInt := by
  change compareOfLessAndEq left right = compareOfLessAndEq left.toInt right.toInt
  simp only [compareOfLessAndEq, Int64.lt_iff_toInt_lt, Int64.toInt_inj]

theorem compare_of_isDouble (mixed : left.IsDouble ∨ right.IsDouble) :
    left.compare right = Ord.compare left.place right.place := by
  cases left with
  | double _ => rfl
  | integer _ =>
      cases right with
      | double _ => rfl
      | integer _ => exact (mixed.elim id id).elim

theorem compare_self (number : Number) : number.compare number = .eq := by
  cases number with
  | integer _ => exact Std.compare_self
  | double _ => exact Std.compare_self

theorem compare_swap (left right : Number) : right.compare left = (left.compare right).swap := by
  cases left with
  | double _ => cases right <;> exact Std.OrientedOrd.eq_swap
  | integer _ => cases right <;> exact Std.OrientedOrd.eq_swap

theorem place_lt_of_compare (below : left.compare right = .lt)
    (mixed : left.IsDouble ∨ right.IsDouble) : left.place < right.place := by
  rw [compare_of_isDouble mixed] at below
  exact Int.compare_eq_lt.mp below

theorem place_le_of_compare (below : left.compare right = .lt) : left.place ≤ right.place := by
  cases left with
  | double _ => exact (place_lt_of_compare below (Or.inl trivial)).le
  | integer leftNumber =>
      cases right with
      | double _ => exact (place_lt_of_compare below (Or.inr trivial)).le
      | integer rightNumber =>
          rw [compare_integers] at below
          exact Double.place_ofInt_mono (Int.compare_eq_lt.mp below).le

theorem compare_of_place_lt (below : left.place < right.place) : left.compare right = .lt := by
  cases left with
  | double _ => exact Int.compare_eq_lt.mpr below
  | integer leftNumber =>
      cases right with
      | double _ => exact Int.compare_eq_lt.mpr below
      | integer rightNumber =>
          rw [compare_integers, Int.compare_eq_lt]
          by_contra crossed
          have turned := Double.place_ofInt_mono (Int.not_lt.mp crossed)
          exact absurd below (Int.not_lt.mpr turned)

theorem compare_lt_trans (first : left.compare middle = .lt) (second : middle.compare right = .lt) :
    left.compare right = .lt := by
  have firstPlaces := place_le_of_compare first
  have secondPlaces := place_le_of_compare second
  -- A double among the three takes part in a comparison that is strict after rounding as well.
  cases middle with
  | double _ =>
      have strict := place_lt_of_compare first (Or.inr trivial)
      exact compare_of_place_lt (by omega)
  | integer _ =>
      cases left with
      | double _ =>
          have strict := place_lt_of_compare first (Or.inl trivial)
          exact compare_of_place_lt (by omega)
      | integer _ =>
          cases right with
          | double _ =>
              have strict := place_lt_of_compare second (Or.inr trivial)
              exact compare_of_place_lt (by omega)
          | integer _ =>
              rw [compare_integers, Int.compare_eq_lt] at first second ⊢
              exact first.trans second

theorem compare_of_isExact (exactLeft : left.IsExact) (exactRight : right.IsExact) :
    left.compare right = Ord.compare left.place right.place := by
  cases left with
  | double _ => rfl
  | integer leftNumber =>
      cases right with
      | double _ => rfl
      | integer rightNumber =>
          rcases Int.lt_trichotomy leftNumber.toInt rightNumber.toInt with below | same | above
          · have places := Double.place_ofInt_lt below exactLeft exactRight
            rw [compare_integers, Int.compare_eq_lt.mpr below]
            exact (Int.compare_eq_lt.mpr places).symm
          · rw [Int64.toInt_inj.mp same, compare_self]
            exact Std.compare_self.symm
          · have places := Double.place_ofInt_lt above exactRight exactLeft
            rw [compare_integers, Int.compare_eq_gt.mpr above]
            exact (Int.compare_eq_gt.mpr places).symm

theorem compare_isLE_trans (exactLeft : left.IsExact) (exactMiddle : middle.IsExact)
    (exactRight : right.IsExact) (first : (left.compare middle).isLE = true)
    (second : (middle.compare right).isLE = true) : (left.compare right).isLE = true := by
  rw [compare_of_isExact exactLeft exactMiddle] at first
  rw [compare_of_isExact exactMiddle exactRight] at second
  rw [compare_of_isExact exactLeft exactRight]
  exact Std.TransCmp.isLE_trans first second

/-- Beyond `2 ^ 53` two different integers may equal the same double. -/
example :
    compare (.integer 9007199254740993) (.double (Double.ofInt 9007199254740992)) = .eq ∧
      compare (.double (Double.ofInt 9007199254740992)) (.integer 9007199254740992) = .eq ∧
      compare (.integer 9007199254740993) (.integer 9007199254740992) = .gt := by
  decide +kernel

end Number

namespace Value

def AtMost (left right : Value) : Prop :=
  ∃ order, left.compare right = .ok order ∧ order.isLE = true

variable {first second third : Value} {left right : Number}

theorem compare_numbers (leftDenotes : first.toNumber = .ok left)
    (rightDenotes : second.toNumber = .ok right) :
    first.compare second = .ok (left.compare right) := by
  simp only [compare, leftDenotes, rightDenotes]
  rfl

theorem atMost_iff (leftDenotes : first.toNumber = .ok left)
    (rightDenotes : second.toNumber = .ok right) :
    first.AtMost second ↔ (left.compare right).isLE = true := by
  simp [AtMost, compare_numbers leftDenotes rightDenotes]

theorem isExact_of_small (denotes : first.toNumber = .ok left)
    (small : ∀ number, first.toNumber = .ok (.integer number) → |number.toInt| ≤ 2 ^ 53) :
    left.IsExact := by
  cases left with
  | double _ => trivial
  | integer number =>
      have bound := small number denotes
      rw [Int.abs_eq_natAbs] at bound
      exact_mod_cast bound

/-- Values that stand for numbers are ordered by comparison in every mixture of integers and
doubles: comparing is reflexive and antisymmetric, and less than is transitive. Less than or equal
is transitive as well if no integer among them is beyond `2 ^ 53`. -/
theorem compare_ordered
    (numeric : ∀ value ∈ [first, second, third], ∃ number, value.toNumber = .ok number) :
    first.compare first = .ok .eq ∧
    (∃ order, first.compare second = .ok order ∧ second.compare first = .ok order.swap) ∧
    (first.compare second = .ok .lt → second.compare third = .ok .lt →
      first.compare third = .ok .lt) ∧
    ((∀ value ∈ [first, second, third], ∀ number,
        value.toNumber = .ok (.integer number) → |number.toInt| ≤ 2 ^ 53) →
      first.AtMost second → second.AtMost third → first.AtMost third) := by
  obtain ⟨left, leftDenotes⟩ := numeric first (by simp)
  obtain ⟨middle, middleDenotes⟩ := numeric second (by simp)
  obtain ⟨right, rightDenotes⟩ := numeric third (by simp)
  have leftMiddle := compare_numbers leftDenotes middleDenotes
  have middleRight := compare_numbers middleDenotes rightDenotes
  have leftRight := compare_numbers leftDenotes rightDenotes
  refine ⟨?_, ⟨left.compare middle, leftMiddle, ?_⟩, fun below above => ?_, fun small => ?_⟩
  · rw [compare_numbers leftDenotes leftDenotes, left.compare_self]
  · rw [compare_numbers middleDenotes leftDenotes, Number.compare_swap]
  · rw [leftMiddle, Except.ok.injEq] at below
    rw [middleRight, Except.ok.injEq] at above
    rw [leftRight, Number.compare_lt_trans below above]
  · rw [atMost_iff leftDenotes middleDenotes, atMost_iff middleDenotes rightDenotes,
      atMost_iff leftDenotes rightDenotes]
    exact Number.compare_isLE_trans (isExact_of_small leftDenotes (small first (by simp)))
      (isExact_of_small middleDenotes (small second (by simp)))
      (isExact_of_small rightDenotes (small third (by simp)))

/-- What infinity and its opposite add up to. -/
def signedNan : Double :=
  (Double.ofRank true Double.infinityRank).add (Double.ofRank false Double.infinityRank)

theorem compare_ordered_signedNan :
    (∀ value ∈ [double signedNan, string "-Infinity", empty],
        ∃ number, value.toNumber = .ok number) ∧
      compare (double signedNan) (string "-Infinity") = .ok .lt ∧
      compare (string "-Infinity") empty = .ok .lt ∧
      compare (double signedNan) empty = .ok .lt := by
  have numeric : ∀ value ∈ [double signedNan, string "-Infinity", empty],
      ∃ number, value.toNumber = .ok number := by
    simp only [List.mem_cons, List.not_mem_nil, or_false]
    rintro value (rfl | rfl | rfl) <;> exact ⟨_, rfl⟩
  have below : compare (double signedNan) (string "-Infinity") = .ok .lt := by rfl
  have above : compare (string "-Infinity") empty = .ok .lt := by rfl
  exact ⟨numeric, below, above, (compare_ordered numeric).2.2.1 below above⟩

end Value

end TagTemplate
