import TagTemplate.Proofs.Lexemes

/-!
What the tokens of a template can hold, and what can stand behind them. Names, texts and strings
that the lexer finds are ones that can be written, and a text is followed by a tag or by nothing.
-/

namespace TagTemplate

namespace Token.Kind

def InTag : Kind → Prop
  | .text _ => False
  | .variable name => IsVariableName name.toList
  | .function name => IsFunctionName name.toList
  | .string content => IsStringContent content.toList
  | .startTag | .endTag | .loopWord | .endWord | .tagName | .integer _ | .double _ | .operator _
  | .endOfInput => True

def Readable : Kind → Prop
  | .text content => IsText content.toList
  | kind => kind.InTag

theorem InTag.readable {kind : Kind} (inTag : kind.InTag) : kind.Readable := by
  cases kind with
  | text content => exact inTag.elim
  | _ => exact inTag

def Precedes (left right : Kind) : Prop :=
  ∀ content, left = .text content →
    right = .endOfInput ∨ right = .startTag ∧ ¬EndsInBackslash content.toList

end Token.Kind

namespace Scan

theorem inTag_ofNumber {characters : List Char} {kind : Token.Kind}
    (cut : (ofNumber characters).outcome = .ok kind) : kind.InTag := by
  simp only [ofNumber] at cut
  split at cut
  · cases cut
    trivial
  · cases cut
    trivial
  · simp [failure] at cut

theorem inTag_ofFunction {characters : List Char} {kind : Token.Kind}
    (cut : (ofFunction characters).outcome = .ok kind) : kind.InTag := by
  simp only [ofFunction] at cut
  split at cut
  · simp [failure] at cut
  · split at cut
    · split at cut
      · simp [failure] at cut
      · rename_i nonempty
        cases cut
        rw [Token.Kind.InTag, String.toList_ofList]
        exact ⟨by simpa using nonempty, passes_of_mem_takeWhile⟩
    · simp at cut

theorem inTag_ofString {characters : List Char} {kind : Token.Kind}
    (cut : (ofString characters).outcome = .ok kind) : kind.InTag := by
  have unquoted : '"' ∉ characters.takeWhile (· ≠ '"') := by
    intro member
    simpa using passes_of_mem_takeWhile _ member
  simp only [ofString] at cut
  split at cut
  · simp [failure] at cut
  · cases cut
    rw [Token.Kind.InTag, String.toList_ofList]
    exact ⟨Text.quote_not_mem_unescapeLineBreaks unquoted,
      Text.writtenLineBreak_not_infix_unescape _⟩

theorem inTag_ofVariable {first : Char} {others : List Char} {kind : Token.Kind}
    (letter : Text.isAlphabetic first = true)
    (noLoopWord : ¬['F', 'O', 'R'] <+: first :: others)
    (noEndWord : ¬['E', 'N', 'D'] <+: first :: others)
    (cut : (ofVariable (first :: others)).outcome = .ok kind) : kind.InTag := by
  have ahead := List.takeWhile_prefix isNameCharacter (l := first :: others)
  have named : IsVariableName ((first :: others).takeWhile isNameCharacter) := by
    refine ⟨⟨first, others.takeWhile isNameCharacter, ?_, letter⟩, passes_of_mem_takeWhile,
      fun word => noLoopWord (word.trans ahead), fun word => noEndWord (word.trans ahead)⟩
    simp [isNameCharacter, letter]
  simp only [ofVariable] at cut
  split at cut
  · cases cut
    rwa [Token.Kind.InTag, String.toList_ofList]
  · split at cut
    · simp at cut
    · cases cut
      rwa [Token.Kind.InTag, String.toList_ofList]

theorem inTag_ofCharacter {first : Char} {others : List Char} {kind : Token.Kind}
    (noLoopWord : ¬['F', 'O', 'R'] <+: first :: others)
    (noEndWord : ¬['E', 'N', 'D'] <+: first :: others)
    (cut : (ofCharacter first others).outcome = .ok kind) : kind.InTag := by
  unfold ofCharacter at cut
  split at cut
  · cases cut
    trivial
  split at cut
  · exact inTag_ofNumber cut
  split at cut
  · exact inTag_ofFunction cut
  split at cut
  · exact inTag_ofString cut
  split at cut
  · exact inTag_ofNumber cut
  split at cut
  · rename_i letter
    exact inTag_ofVariable letter noLoopWord noEndWord cut
  split at cut
  · cases cut
    trivial
  · simp [failure] at cut

theorem inTag_ofTag {characters : List Char} {kind : Token.Kind}
    (cut : (ofTag characters).outcome = .ok kind) : kind.InTag := by
  unfold ofTag at cut
  split at cut
  · cases cut
    trivial
  · cases cut
    trivial
  · cases cut
    trivial
  · rename_i noEndTag noLoopWord noEndWord
    refine inTag_ofCharacter ?_ ?_ cut
    · rintro ⟨more, shape⟩
      obtain ⟨rfl, rfl⟩ := List.cons.inj shape
      exact noLoopWord more rfl rfl
    · rintro ⟨more, shape⟩
      obtain ⟨rfl, rfl⟩ := List.cons.inj shape
      exact noEndWord more rfl rfl
  · cases cut
    trivial

theorem ofText_spec {first : Char} {others : List Char}
    (closed : ∀ more, first :: others ≠ '{' :: '$' :: more) :
    ∃ content, (ofText (first :: others)).outcome = .ok (.text (String.ofList content)) ∧
      IsText content ∧ StopsText content (ofText (first :: others)).rest := by
  obtain ⟨content, whole, opensNoTag, stops⟩ := dropText_split (first :: others)
  obtain ⟨_, nonempty⟩ := ofText_tiles closed
  simp only [ofText, token] at nonempty ⊢
  generalize dropText (first :: others) = rest at *
  have lexeme : (first :: others).take ((first :: others).length - rest.length) = content := by
    rw [whole]
    simp
  rw [lexeme] at nonempty ⊢
  exact ⟨content, rfl, ⟨nonempty, opensNoTag⟩, stops⟩

end Scan

namespace LexMode

theorem text_of_scan {mode : LexMode} {characters : List Char} {content : String}
    (cut : (mode.scan characters).outcome = .ok (.text content)) :
    mode = .text ∧ IsText content.toList ∧
      StopsText content.toList (mode.scan characters).rest := by
  unfold scan at cut ⊢
  split at cut
  · simp [Scan.token] at cut
  · simp [Scan.delimiter] at cut
  · rename_i nonempty closed
    cases mode with
    | tag => exact (Scan.inTag_ofTag cut).elim
    | text =>
        obtain ⟨first, others, rfl⟩ := List.exists_cons_of_ne_nil nonempty
        obtain ⟨found, outcome, isText, stops⟩ := Scan.ofText_spec closed
        simp only at cut
        rw [outcome] at cut
        cases cut
        rw [String.toList_ofList]
        exact ⟨rfl, isText, stops⟩

theorem readable_of_scan {mode : LexMode} {characters : List Char} {kind : Token.Kind}
    (cut : (mode.scan characters).outcome = .ok kind) : kind.Readable := by
  unfold scan at cut
  split at cut
  · cases cut
    trivial
  · cases cut
    trivial
  · rename_i nonempty closed
    cases mode with
    | tag => exact (Scan.inTag_ofTag cut).readable
    | text =>
        obtain ⟨first, others, rfl⟩ := List.exists_cons_of_ne_nil nonempty
        obtain ⟨found, outcome, isText, _⟩ := Scan.ofText_spec closed
        simp only at cut
        rw [outcome] at cut
        cases cut
        rwa [Token.Kind.Readable, String.toList_ofList]

end LexMode

namespace Lexes

theorem readable {mode : LexMode} {characters : List Char} {kinds : List Token.Kind}
    (lexes : Lexes mode characters kinds) : ∀ kind ∈ kinds, kind.Readable := by
  induction lexes with
  | finish outcome => simp [Token.Kind.Readable, Token.Kind.InTag]
  | token outcome _ _ ih => exact List.forall_mem_cons.mpr ⟨LexMode.readable_of_scan outcome, ih⟩

theorem head_of_stopsText {content rest : List Char} {kinds : List Token.Kind}
    (lexes : Lexes .text rest kinds) (stops : StopsText content rest) :
    ∀ kind ∈ kinds.head?,
      kind = .endOfInput ∨ kind = .startTag ∧ ¬EndsInBackslash content := by
  rcases stops with rfl | ⟨unescaped, more, rfl⟩
  · cases lexes with
    | finish outcome => simp
    | token outcome more later =>
        cases outcome
        simp [Token.Kind.isEndOfInput] at more
  · cases lexes with
    | finish outcome => simp
    | token outcome more later =>
        cases outcome
        simp [unescaped]

theorem precedes {mode : LexMode} {characters : List Char} {kinds : List Token.Kind}
    (lexes : Lexes mode characters kinds) : kinds.IsChain Token.Kind.Precedes := by
  induction lexes with
  | finish outcome => exact List.isChain_singleton _
  | @token mode characters kind kinds outcome more later ih =>
      refine List.isChain_cons.mpr ⟨?_, ih⟩
      rintro next ahead content rfl
      obtain ⟨rfl, _, stops⟩ := LexMode.text_of_scan outcome
      exact head_of_stopsText later stops next ahead

theorem endOfInput_last {mode : LexMode} {characters : List Char} {kinds : List Token.Kind}
    (lexes : Lexes mode characters kinds) :
    ∃ front, kinds = front ++ [.endOfInput] ∧ ∀ kind ∈ front, kind.isEndOfInput = false := by
  induction lexes with
  | finish outcome => exact ⟨[], rfl, by simp⟩
  | @token mode characters kind kinds outcome more later ih =>
      obtain ⟨front, rfl, before⟩ := ih
      exact ⟨kind :: front, rfl, List.forall_mem_cons.mpr ⟨more, before⟩⟩

end Lexes

end TagTemplate
