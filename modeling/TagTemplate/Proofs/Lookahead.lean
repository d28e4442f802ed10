import TagTemplate.Proofs.Lexemes

/-!
How far the lexer looks ahead. A cut that leaves characters over has seen all that it goes by, so
that it stays the same, whatever is appended behind the characters it leaves.
-/

namespace TagTemplate

def Scan.extend (scan : Scan) (more : List Char) : Scan :=
  { scan with rest := scan.rest ++ more }

theorem span_extend {test : Char → Bool} {characters : List Char} (more : List Char)
    (stopped : characters.dropWhile test ≠ []) :
    (characters ++ more).takeWhile test = characters.takeWhile test ∧
      (characters ++ more).dropWhile test = characters.dropWhile test ++ more := by
  have whole := congrArg List.length (List.takeWhile_append_dropWhile (p := test) (l := characters))
  have left := List.length_pos_iff.mpr stopped
  rw [List.length_append] at whole
  constructor
  · rw [List.takeWhile_append, if_neg (by omega)]
  · rw [List.dropWhile_append, if_neg (by simpa using stopped)]

namespace Scan

theorem ofNumber_append {characters : List Char} (more : List Char)
    (left : (ofNumber characters).rest ≠ []) :
    ofNumber (characters ++ more) = (ofNumber characters).extend more := by
  have stopped : characters.dropWhile isLiteralCharacter ≠ [] := by
    simp only [ofNumber] at left
    split at left <;> exact left
  obtain ⟨taken, dropped⟩ := span_extend more stopped
  simp only [ofNumber, taken, dropped]
  split <;> rfl

theorem ofFunction_append {characters : List Char} (more : List Char)
    (left : (ofFunction characters).rest ≠ []) :
    ofFunction (characters ++ more) = (ofFunction characters).extend more := by
  have stopped : characters.dropWhile isNameCharacter ≠ [] := by
    intro ended
    simp [ofFunction, ended, failure] at left
  obtain ⟨taken, dropped⟩ := span_extend more stopped
  obtain ⟨character, others, shape⟩ := List.exists_cons_of_ne_nil stopped
  simp only [ofFunction, taken, dropped, shape, List.cons_append]
  split
  · split <;> rfl
  · rfl

theorem ofString_append {characters : List Char} (more : List Char)
    (left : (ofString characters).rest ≠ []) :
    ofString (characters ++ more) = (ofString characters).extend more := by
  have stopped : characters.dropWhile (· ≠ '"') ≠ [] := by
    intro ended
    simp only [ofString, ended, failure] at left
    contradiction
  obtain ⟨taken, dropped⟩ := span_extend more stopped
  obtain ⟨character, others, shape⟩ := List.exists_cons_of_ne_nil stopped
  simp only [ofString, taken, dropped, shape, List.cons_append]
  rfl

theorem ofVariable_append {characters : List Char} (more : List Char)
    (left : (ofVariable characters).rest ≠ []) :
    ofVariable (characters ++ more) = (ofVariable characters).extend more := by
  have stopped : characters.dropWhile isNameCharacter ≠ [] := by
    intro ended
    simp [ofVariable, ended, token] at left
  obtain ⟨taken, dropped⟩ := span_extend more stopped
  obtain ⟨character, others, shape⟩ := List.exists_cons_of_ne_nil stopped
  simp only [ofVariable, taken, dropped, shape, List.cons_append]
  split <;> rfl

theorem others_ne_nil_of_tiles {scan : Scan} {first : Char} {others : List Char}
    (tiles : scan.Tiles (first :: others)) (left : scan.rest ≠ []) : others ≠ [] := by
  rintro rfl
  have size := congrArg List.length tiles.1
  have lexeme := List.length_pos_iff.mpr tiles.2
  have rest := List.length_pos_iff.mpr left
  simp only [List.length_append, List.length_singleton] at size
  omega

theorem ofCharacter_append {first : Char} {others : List Char} (more : List Char)
    (left : (ofCharacter first others).rest ≠ []) :
    ofCharacter first (others ++ more) = (ofCharacter first others).extend more := by
  have digit : startsWithDigit (others ++ more) = startsWithDigit others := by
    obtain ⟨second, rest, rfl⟩ := List.exists_cons_of_ne_nil
      (others_ne_nil_of_tiles (ofCharacter_tiles first others) left)
    rfl
  revert left
  simp only [ofCharacter, digit]
  split
  · exact fun _ => rfl
  split
  · exact ofNumber_append more
  split
  · exact ofFunction_append more
  split
  · exact ofString_append more
  split
  · exact ofNumber_append more
  split
  · exact ofVariable_append more
  split <;> exact fun _ => rfl

theorem dropText_append_of_ne_nil {characters : List Char} (more : List Char)
    (left : dropText characters ≠ []) :
    dropText (characters ++ more) = dropText characters ++ more := by
  fun_induction dropText characters with
  | case1 others => rfl
  | case2 others ih => exact ih left
  | case3 first others noTag noEscape ih =>
      obtain ⟨second, rest, rfl⟩ : ∃ second rest, others = second :: rest := by
        apply List.exists_cons_of_ne_nil
        rintro rfl
        simp [dropText] at left
      rw [List.cons_append, dropText_cons, ih left]
      · intro _ brace shape
        obtain ⟨rfl, _⟩ := List.cons.inj shape
        exact noTag rest brace rfl
      · intro _ backslash shape
        obtain ⟨rfl, _⟩ := List.cons.inj shape
        exact noEscape rest backslash rfl
  | case4 => contradiction

theorem ofText_append {characters : List Char} (more : List Char)
    (left : (ofText characters).rest ≠ []) :
    ofText (characters ++ more) = (ofText characters).extend more := by
  have dropped := dropText_append_of_ne_nil more left
  have lexeme : (characters ++ more).take
      ((characters ++ more).length - (dropText characters ++ more).length) =
        characters.take (characters.length - (dropText characters).length) := by
    rw [List.length_append, List.length_append, Nat.add_sub_add_right,
      List.take_append_of_le_length (Nat.sub_le _ _)]
  simp only [ofText, dropped, lexeme]
  rfl

end Scan

namespace LexMode

/-- A word that is ahead only together with what is appended would leave nothing over. -/
theorem prefix_of_scan_append {mode : LexMode} {characters more word : List Char}
    (ahead : word <+: characters ++ more) (left : (mode.scan characters).rest ≠ [])
    (stuck : ∀ count < word.length, (mode.scan (word.take count)).rest = []) :
    word <+: characters := by
  rcases List.prefix_or_prefix_of_prefix ahead (List.prefix_append characters more) with
    whole | part
  · exact whole
  · have taken := List.prefix_iff_eq_take.mp part
    by_cases short : characters.length < word.length
    · rw [taken] at left
      exact absurd (stuck _ short) left
    · rw [taken, List.take_of_length_le (by omega)]

theorem scan_eq_ofText {characters : List Char} (nonempty : characters ≠ [])
    (noTag : ¬['{', '$'] <+: characters) : text.scan characters = Scan.ofText characters := by
  unfold scan
  split
  · contradiction
  · rename_i others
    exact absurd ⟨others, rfl⟩ noTag
  · rfl

theorem scan_append {mode : LexMode} {characters : List Char} (more : List Char)
    (left : (mode.scan characters).rest ≠ []) :
    mode.scan (characters ++ more) = (mode.scan characters).extend more := by
  obtain ⟨first, others, rfl⟩ := List.exists_cons_of_ne_nil
    (show characters ≠ [] by rintro rfl; exact left rfl)
  by_cases startTag : ['{', '$'] <+: first :: others
  · obtain ⟨rest, shape⟩ := startTag
    rw [← shape]
    rfl
  cases mode with
  | text =>
      have noTag : ¬['{', '$'] <+: first :: others ++ more := fun ahead =>
        startTag (prefix_of_scan_append ahead left (by decide))
      rw [scan_eq_ofText (by simp) noTag, scan_eq_ofText (by simp) startTag]
      rw [scan_eq_ofText (by simp) startTag] at left
      exact Scan.ofText_append more left
  | tag =>
      by_cases endTag : ['$', '}'] <+: first :: others
      · obtain ⟨rest, shape⟩ := endTag
        rw [← shape]
        rfl
      by_cases loopWord : ['F', 'O', 'R'] <+: first :: others
      · obtain ⟨rest, shape⟩ := loopWord
        rw [← shape]
        rfl
      by_cases endWord : ['E', 'N', 'D'] <+: first :: others
      · obtain ⟨rest, shape⟩ := endWord
        rw [← shape]
        rfl
      have same := Scan.scan_eq_ofCharacter startTag endTag loopWord endWord
      have sameAppended : tag.scan (first :: (others ++ more)) =
          Scan.ofCharacter first (others ++ more) := by
        apply Scan.scan_eq_ofCharacter
        · exact fun ahead => startTag (prefix_of_scan_append ahead left (by decide))
        · exact fun ahead => endTag (prefix_of_scan_append ahead left (by decide))
        · exact fun ahead => loopWord (prefix_of_scan_append ahead left (by decide))
        · exact fun ahead => endWord (prefix_of_scan_append ahead left (by decide))
      rw [List.cons_append, sameAppended, same]
      rw [same] at left
      exact Scan.ofCharacter_append more left

theorem cut_tag (characters : List Char) :
    tag.cut characters = tag.scan (characters.dropWhile isTagBlank) := by
  have whole := List.takeWhile_append_dropWhile (p := isTagBlank) (l := characters)
  have dropped := congrArg (List.drop (characters.takeWhile isTagBlank).length) whole
  rw [List.drop_left] at dropped
  rw [cut, blanks, dropped]

theorem cut_append {mode : LexMode} {characters : List Char} (more : List Char)
    (left : (mode.cut characters).rest ≠ []) :
    mode.cut (characters ++ more) = (mode.cut characters).extend more := by
  cases mode with
  | text => exact scan_append more left
  | tag =>
      rw [cut_tag] at left ⊢
      have solid : characters.dropWhile isTagBlank ≠ [] := by
        intro ended
        rw [ended] at left
        exact left rfl
      rw [cut_tag, (span_extend more solid).2, scan_append more left]

end LexMode

end TagTemplate
