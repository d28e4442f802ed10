import TagTemplate.Proofs.SourceTiling
import TagTemplate.Report.CharRange

/-!
The characters that a span of bytes stands for, whatever its offsets are: a span may be reversed,
end behind the source or cut through a character. A character belongs to the span that holds its
first byte. Where a span holds no character, it stands for the one at its start, if there is one.
-/

namespace TagTemplate

def firstByte (source : String) (index : Nat) : Nat :=
  (String.ofList (source.toList.take index)).utf8ByteSize

def startedBefore (source : String) (offset : Nat) : Nat :=
  (List.range source.length).countP fun index => firstByte source index < offset

def Span.Holds (span : Span) (source : String) (index : Nat) : Prop :=
  span.start ≤ firstByte source index ∧ firstByte source index < span.stop

instance (span : Span) (source : String) : DecidablePred (span.Holds source) :=
  fun _ => instDecidableAnd

theorem lt_charactersBefore_iff {characters : List Char} {offset index : Nat} :
    index < charactersBefore characters offset ↔
      index < characters.length ∧ byteLength (characters.take index) < offset := by
  induction characters generalizing offset index with
  | nil => simp [charactersBefore]
  | cons character others ih =>
      have positive := character.utf8Size_pos
      cases offset with
      | zero => simp [charactersBefore]
      | succ offset =>
          rw [charactersBefore.eq_3 _ _ _ (Nat.succ_ne_zero offset)]
          cases index with
          | zero => simp [byteLength_nil]
          | succ index =>
              have size : byteLength ((character :: others).take (index + 1)) =
                  character.utf8Size + byteLength (others.take index) := rfl
              rw [Nat.add_lt_add_iff_right, ih, size, List.length_cons]
              omega

theorem lt_charactersBefore_toList_iff {source : String} {offset index : Nat} :
    index < charactersBefore source.toList offset ↔
      index < source.length ∧ firstByte source index < offset := by
  rw [lt_charactersBefore_iff, String.length_toList, firstByte, utf8ByteSize_ofList]

theorem charactersBefore_le_length (source : String) (offset : Nat) :
    charactersBefore source.toList offset ≤ source.length := by
  by_contra beyond
  exact absurd (lt_charactersBefore_toList_iff.mp (Nat.lt_of_not_le beyond)).1 (lt_irrefl _)

theorem countP_range_lt (bound length : Nat) :
    (List.range length).countP (· < bound) = min bound length := by
  induction length with
  | zero => simp
  | succ length ih =>
      rw [List.range_succ, List.countP_append, ih, List.countP_singleton]
      by_cases below : length < bound
      · simp only [below, decide_true, ↓reduceIte]
        omega
      · simp only [below, decide_false, Bool.false_eq_true, ↓reduceIte]
        omega

theorem charactersBefore_toList (source : String) (offset : Nat) :
    charactersBefore source.toList offset = startedBefore source offset := by
  have first := countP_range_lt (charactersBefore source.toList offset) source.length
  rw [Nat.min_eq_left (charactersBefore_le_length source offset)] at first
  rw [startedBefore, ← first]
  refine List.countP_congr fun index inRange => ?_
  rw [decide_eq_true_iff, decide_eq_true_iff, lt_charactersBefore_toList_iff]
  exact and_iff_right (List.mem_range.mp inRange)

theorem startedBefore_le_length (source : String) (offset : Nat) :
    startedBefore source offset ≤ source.length := by
  rw [← charactersBefore_toList]
  exact charactersBefore_le_length source offset

namespace Span

variable {span : Span} {source : String}

theorem holds_iff {index : Nat} (within : index < source.length) :
    span.Holds source index ↔
      startedBefore source span.start ≤ index ∧ index < startedBefore source span.stop := by
  rw [← Nat.not_lt, ← charactersBefore_toList, ← charactersBefore_toList,
    lt_charactersBefore_toList_iff, lt_charactersBefore_toList_iff, Holds]
  constructor
  · rintro ⟨after, before⟩
    exact ⟨fun early => absurd early.2 (Nat.not_lt.mpr after), within, before⟩
  · rintro ⟨late, -, before⟩
    exact ⟨Nat.not_lt.mp fun early => late ⟨within, early⟩, before⟩

theorem exists_holds_iff :
    (∃ index < source.length, span.Holds source index) ↔
      startedBefore source span.start < startedBefore source span.stop := by
  constructor
  · rintro ⟨index, within, held⟩
    obtain ⟨late, early⟩ := (holds_iff within).mp held
    exact Nat.lt_of_le_of_lt late early
  · intro ordered
    have within := Nat.lt_of_lt_of_le ordered (startedBefore_le_length source span.stop)
    exact ⟨_, within, (holds_iff within).mpr ⟨Nat.le_refl _, ordered⟩⟩

theorem charRange_toList (source : String) (span : Span) :
    span.charRange source.toList =
      let start := startedBefore source span.start
      let stop := startedBefore source span.stop
      (start,
        if start < stop then stop else if start < source.length then start + 1 else start) := by
  simp only [charRange, charactersBefore_toList, String.length_toList]
  rcases Nat.lt_or_ge (startedBefore source span.start) (startedBefore source span.stop) with
    ordered | reversed
  · rw [Nat.max_eq_right ordered.le, if_neg fun same => ordered.ne same.1, if_pos ordered]
  · rw [Nat.max_eq_left reversed, if_neg (Nat.not_lt.mpr reversed)]
    simp only [true_and]
    split <;> rfl

/-- The range of a span starts at the first character that does not start before the span, and ends
within the source. It selects exactly the characters whose first byte the span holds. If the span
holds none, it selects the character at its start, or nothing at the end of the source. -/
theorem charRange_selects (source : String) (span : Span) :
    let range := span.charRange source.toList
    range.1 = startedBefore source span.start ∧ range.1 ≤ range.2 ∧ range.2 ≤ source.length ∧
      ((∃ index < source.length, span.Holds source index) →
        ∀ index < source.length,
          range.1 ≤ index ∧ index < range.2 ↔ span.Holds source index) ∧
      ((¬∃ index < source.length, span.Holds source index) →
        range.2 = if range.1 = source.length then range.1 else range.1 + 1) := by
  have startWithin := startedBefore_le_length source span.start
  have stopWithin := startedBefore_le_length source span.stop
  intro range
  have found : range = _ := charRange_toList source span
  rw [exists_holds_iff]
  by_cases ordered : startedBefore source span.start < startedBefore source span.stop
  · simp only [ordered, ↓reduceIte] at found
    rw [found]
    refine ⟨rfl, ordered.le, stopWithin, fun _ index within => (holds_iff within).symm, ?_⟩
    exact fun reversed => absurd ordered reversed
  · simp only [ordered, ↓reduceIte] at found
    rw [found]
    refine ⟨rfl, ?_, ?_, fun held => absurd held ordered, fun _ => ?_⟩
    · simp only
      split <;> omega
    · simp only
      split <;> omega
    · simp only
      split <;> split <;> omega

theorem charRange_selects_cut :
    (∃ index < "aé$".length, (Span.mk 2 4).Holds "aé$" index) ∧
      ((Span.mk 2 4).charRange "aé$".toList).1 ≤ 2 ∧
      2 < ((Span.mk 2 4).charRange "aé$".toList).2 ∧
      (¬∃ index < "aé$".length, (Span.mk 2 1).Holds "aé$" index) ∧
      ((Span.mk 2 1).charRange "aé$".toList).2 = 3 := by
  have held : (Span.mk 2 4).Holds "aé$" 2 := by decide
  have holdsOne : ∃ index < "aé$".length, (Span.mk 2 4).Holds "aé$" index :=
    ⟨2, by decide, held⟩
  have holdsNone : ¬∃ index < "aé$".length, (Span.mk 2 1).Holds "aé$" index := by decide
  obtain ⟨-, -, -, selects, -⟩ := charRange_selects "aé$" ⟨2, 4⟩
  obtain ⟨-, -, -, -, widens⟩ := charRange_selects "aé$" ⟨2, 1⟩
  obtain ⟨start, stop⟩ := (selects holdsOne 2 (by decide)).mpr held
  exact ⟨holdsOne, start, stop, holdsNone, (widens holdsNone).trans (by decide)⟩

end Span

end TagTemplate
