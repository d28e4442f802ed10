import TagTemplate.Text.LineBreak

/-!
Line breaks in string literals. Reading puts one in the place of every written one, and leaves what
is between them as it is. Line breaks survive exactly in texts that do not hold the four characters
they are written with. These are also the texts that reading gives.
-/

namespace TagTemplate.Text

def writtenLineBreak : List Char :=
  ['\\', 'r', '\\', 'n']

/-- The same pieces of text, with written line breaks between them and with line breaks. No piece
holds a written one. -/
def ReplacesLineBreaks (written read : List Char) : Prop :=
  ∃ first pieces, written = writtenLineBreak.intercalate (first :: pieces) ∧
    read = ['\r', '\n'].intercalate (first :: pieces) ∧
    ∀ piece ∈ first :: pieces, ¬writtenLineBreak <:+: piece

theorem intercalate_head {α : Type} (separator first : List α) (start : α)
    (others : List (List α)) :
    separator.intercalate ((start :: first) :: others) =
      start :: separator.intercalate (first :: others) := by
  cases others <;> simp [List.intercalate]

theorem escapeLineBreaks_eq_cons {characters others : List Char} {first : Char}
    (escaped : escapeLineBreaks characters = first :: others) (plain : first ≠ '\\') :
    ∃ rest, characters = first :: rest ∧ escapeLineBreaks rest = others := by
  unfold escapeLineBreaks at escaped
  split at escaped
  · exact absurd (List.cons.inj escaped).1.symm plain
  · obtain ⟨rfl, rfl⟩ := List.cons.inj escaped
    exact ⟨_, rfl, rfl⟩
  · simp at escaped

theorem unescapeLineBreaks_eq_cons {characters others : List Char} {first : Char}
    (unescaped : unescapeLineBreaks characters = first :: others) (plain : first ≠ '\r') :
    ∃ rest, characters = first :: rest ∧ unescapeLineBreaks rest = others := by
  unfold unescapeLineBreaks at unescaped
  split at unescaped
  · exact absurd (List.cons.inj unescaped).1.symm plain
  · obtain ⟨rfl, rfl⟩ := List.cons.inj unescaped
    exact ⟨_, rfl, rfl⟩
  · simp at unescaped

theorem of_escapeLineBreaks_eq {characters others : List Char}
    (escaped : escapeLineBreaks characters = 'r' :: '\\' :: 'n' :: others) :
    ∃ rest, characters = 'r' :: '\\' :: 'n' :: rest := by
  obtain ⟨behind, rfl, tail⟩ := escapeLineBreaks_eq_cons escaped (by decide)
  unfold escapeLineBreaks at tail
  split at tail
  · simp at tail
  · obtain ⟨rfl, last⟩ := List.cons.inj tail
    obtain ⟨rest, rfl, _⟩ := escapeLineBreaks_eq_cons last (by decide)
    exact ⟨rest, rfl⟩
  · simp at tail

theorem of_unescapeLineBreaks_eq {characters others : List Char}
    (unescaped : unescapeLineBreaks characters = 'r' :: '\\' :: 'n' :: others) :
    ∃ rest, characters = 'r' :: '\\' :: 'n' :: rest := by
  obtain ⟨behind, rfl, tail⟩ := unescapeLineBreaks_eq_cons unescaped (by decide)
  obtain ⟨behind, rfl, last⟩ := unescapeLineBreaks_eq_cons tail (by decide)
  obtain ⟨rest, rfl, _⟩ := unescapeLineBreaks_eq_cons last (by decide)
  exact ⟨rest, rfl⟩

theorem unescape_escapeLineBreaks {characters : List Char}
    (plain : ¬writtenLineBreak <:+: characters) :
    unescapeLineBreaks (escapeLineBreaks characters) = characters := by
  fun_induction escapeLineBreaks characters with
  | case1 others ih =>
      have inner : ¬writtenLineBreak <:+: others := fun found =>
        plain (found.trans (List.suffix_append ['\r', '\n'] others).isInfix)
      simp [unescapeLineBreaks, ih inner]
  | case2 first others notBreak ih =>
      have inner : ¬writtenLineBreak <:+: others := fun found =>
        plain (found.trans (List.suffix_cons first others).isInfix)
      have notWritten : ∀ behind, first :: escapeLineBreaks others ≠
          '\\' :: 'r' :: '\\' :: 'n' :: behind := by
        intro behind shape
        obtain ⟨rfl, escaped⟩ := List.cons.inj shape
        obtain ⟨rest, rfl⟩ := of_escapeLineBreaks_eq escaped
        exact plain (List.prefix_append writtenLineBreak rest).isInfix
      unfold unescapeLineBreaks
      split
      · rename_i behind shape
        exact absurd shape (notWritten _)
      · rename_i shape
        obtain ⟨rfl, rfl⟩ := List.cons.inj shape
        rw [ih inner]
      · contradiction
  | case3 => rfl

theorem writtenLineBreak_not_infix_unescape (characters : List Char) :
    ¬writtenLineBreak <:+: unescapeLineBreaks characters := by
  fun_induction unescapeLineBreaks characters with
  | case1 others ih =>
      simpa [List.infix_cons_iff, writtenLineBreak] using ih
  | case2 first others notWritten ih =>
      rw [List.infix_cons_iff]
      rintro (atFront | later)
      · obtain ⟨behind, shape⟩ := atFront
        obtain ⟨rfl, unescaped⟩ := List.cons.inj shape
        obtain ⟨rest, rfl⟩ := of_unescapeLineBreaks_eq unescaped.symm
        exact notWritten rest rfl rfl
      · exact ih later
  | case3 => simp [writtenLineBreak]

theorem replaces_unescapeLineBreaks (characters : List Char) :
    ReplacesLineBreaks characters (unescapeLineBreaks characters) := by
  fun_induction unescapeLineBreaks characters with
  | case1 others ih =>
      obtain ⟨first, pieces, written, read, plain⟩ := ih
      have nothing : ¬writtenLineBreak <:+: [] := by simp [writtenLineBreak]
      refine ⟨[], first :: pieces, ?_, ?_, List.forall_mem_cons.mpr ⟨nothing, plain⟩⟩
      · rw [written, List.intercalate_cons_cons]
        rfl
      · rw [read, List.intercalate_cons_cons]
        rfl
  | case2 character others notWritten ih =>
      obtain ⟨first, pieces, rfl, read, plain⟩ := ih
      obtain ⟨plainFirst, plainPieces⟩ := List.forall_mem_cons.mp plain
      have plainStart : ¬writtenLineBreak <+: character :: first := by
        rintro ⟨behind, shape⟩
        obtain ⟨rfl, rfl⟩ := List.cons.inj shape
        refine notWritten (writtenLineBreak.intercalate (behind :: pieces)) rfl ?_
        simp only [List.append_eq, List.cons_append, List.nil_append, intercalate_head]
      refine ⟨character :: first, pieces, (intercalate_head _ _ _ _).symm, ?_,
        List.forall_mem_cons.mpr ⟨?_, plainPieces⟩⟩
      · rw [read, intercalate_head]
      · exact fun found => (List.infix_cons_iff.mp found).elim plainStart plainFirst
  | case3 => exact ⟨[], [], rfl, rfl, by simp [writtenLineBreak]⟩

theorem quote_not_mem_escapeLineBreaks {characters : List Char} (unquoted : '"' ∉ characters) :
    '"' ∉ escapeLineBreaks characters := by
  fun_induction escapeLineBreaks characters with
  | case1 others ih => simp_all
  | case2 first others _ ih => simp_all
  | case3 => exact unquoted

theorem quote_not_mem_unescapeLineBreaks {characters : List Char} (unquoted : '"' ∉ characters) :
    '"' ∉ unescapeLineBreaks characters := by
  fun_induction unescapeLineBreaks characters with
  | case1 others ih => simp_all
  | case2 first others _ ih => simp_all
  | case3 => exact unquoted

end TagTemplate.Text
