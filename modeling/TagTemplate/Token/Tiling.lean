import TagTemplate.Token.Scan

/-!
Every cut tiles the characters it was made from: what it passed over, its lexeme and the rest are
the characters again, and the lexeme is not empty.
-/

namespace TagTemplate.Scan

def Tiles (scan : Scan) (characters : List Char) : Prop :=
  scan.passed ++ scan.lexeme ++ scan.rest = characters ∧ scan.lexeme ≠ []

theorem dropText_suffix (characters : List Char) : dropText characters <:+ characters := by
  fun_induction dropText characters with
  | case1 others => exact List.suffix_rfl
  | case2 others ih => exact ih.trans ⟨['\\', '{'], rfl⟩
  | case3 first others _ _ ih => exact ih.trans ⟨[first], rfl⟩
  | case4 => exact List.suffix_rfl

theorem take_append_of_suffix {rest characters : List Char} (suffix : rest <:+ characters) :
    characters.take (characters.length - rest.length) ++ rest = characters := by
  obtain ⟨front, rfl⟩ := suffix
  simp

theorem dropText_shorter {first : Char} {others : List Char}
    (closed : ∀ more, first :: others ≠ '{' :: '$' :: more) :
    (dropText (first :: others)).length < (first :: others).length := by
  unfold dropText
  split
  · rename_i more shape
    exact absurd shape (closed more)
  · rename_i more shape
    have bound := (dropText_suffix more).length_le
    rw [shape]
    simp only [List.length_cons]
    omega
  · rename_i more _ _ shape
    have bound := (dropText_suffix more).length_le
    rw [shape]
    simp only [List.length_cons]
    omega
  · contradiction

theorem ofText_tiles {first : Char} {others : List Char}
    (closed : ∀ more, first :: others ≠ '{' :: '$' :: more) :
    (ofText (first :: others)).Tiles (first :: others) := by
  have shorter := dropText_shorter closed
  refine ⟨take_append_of_suffix (dropText_suffix _), ?_⟩
  simp only [ofText, token, ne_eq, List.take_eq_nil_iff]
  simp at shorter ⊢
  omega

theorem isLiteralCharacter_of_isDigit {character : Char} (digit : character.isDigit = true) :
    isLiteralCharacter character = true := by
  simp only [isLiteralCharacter, isTagBlank, Bool.and_eq_true, Bool.not_eq_true',
    Bool.or_eq_false_iff, decide_eq_false_iff_not, decide_eq_true_eq]
  refine ⟨⟨⟨⟨?_, ?_⟩, ?_⟩, ?_⟩, ?_⟩ <;> rintro rfl <;> simp at digit

theorem ofNumber_tiles {first : Char} (others : List Char)
    (accepted : isLiteralCharacter first = true) :
    (ofNumber (first :: others)).Tiles (first :: others) := by
  have whole := List.takeWhile_append_dropWhile (p := isLiteralCharacter) (l := first :: others)
  have nonempty : (first :: others).takeWhile isLiteralCharacter ≠ [] := by simp [accepted]
  simp only [ofNumber]
  split <;> exact ⟨whole, nonempty⟩

theorem ofFunction_tiles (others : List Char) : (ofFunction others).Tiles ('@' :: others) := by
  have whole := List.takeWhile_append_dropWhile (p := isNameCharacter) (l := others)
  simp only [ofFunction]
  generalize others.takeWhile isNameCharacter = name at whole
  generalize others.dropWhile isNameCharacter = rest at whole
  subst whole
  cases rest with
  | nil => simp [Tiles, failure]
  | cons character more =>
    simp only
    split
    · cases name <;> simp [Tiles, failure, token]
    · simp [Tiles]

theorem ofString_tiles (others : List Char) : (ofString others).Tiles ('"' :: others) := by
  have whole := List.takeWhile_append_dropWhile (p := (· ≠ '"')) (l := others)
  simp only [ofString]
  generalize others.takeWhile _ = body at whole
  generalize others.dropWhile _ = rest at whole
  subst whole
  cases rest <;> simp [Tiles, failure, token]

theorem ofVariable_tiles {first : Char} (others : List Char)
    (accepted : isNameCharacter first = true) :
    (ofVariable (first :: others)).Tiles (first :: others) := by
  have whole := List.takeWhile_append_dropWhile (p := isNameCharacter) (l := first :: others)
  have nonempty : (first :: others).takeWhile isNameCharacter ≠ [] := by simp [accepted]
  simp only [ofVariable]
  generalize (first :: others).takeWhile isNameCharacter = name at whole nonempty
  generalize (first :: others).dropWhile isNameCharacter = rest at whole
  rw [← whole]
  cases rest with
  | nil => simp [Tiles, token, nonempty]
  | cons character more =>
    simp only
    split <;> simp [Tiles, token, nonempty]

theorem ofCharacter_tiles (first : Char) (others : List Char) :
    (ofCharacter first others).Tiles (first :: others) := by
  unfold ofCharacter
  split
  · simp [Tiles, token]
  split
  · rename_i _ sign
    simp only [Bool.and_eq_true, decide_eq_true_eq] at sign
    exact ofNumber_tiles others (by rw [sign.1]; decide)
  split
  · rename_i _ _ function
    rw [function]
    exact ofFunction_tiles others
  split
  · rename_i _ _ _ quote
    rw [quote]
    exact ofString_tiles others
  split
  · rename_i digit
    exact ofNumber_tiles others (isLiteralCharacter_of_isDigit digit)
  split
  · rename_i letter
    exact ofVariable_tiles others (by simp [isNameCharacter, letter])
  split <;> simp [Tiles, token, failure]

theorem ofTag_tiles (first : Char) (others : List Char) :
    (ofTag (first :: others)).Tiles (first :: others) := by
  unfold ofTag
  split
  · rename_i shape
    simp [shape, Tiles, delimiter]
  · rename_i shape
    simp [shape, Tiles, token]
  · rename_i shape
    simp [shape, Tiles, token]
  · rename_i shape
    rw [shape]
    exact ofCharacter_tiles _ _
  · contradiction

end TagTemplate.Scan
