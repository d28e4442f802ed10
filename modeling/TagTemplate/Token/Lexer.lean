import TagTemplate.Token.Tiling

/-!
The lexer, which cuts a template into tokens. Outside tags it reads text, inside tags it reads tag
tokens with blanks between them. It may be asked for the next token even after an error.
-/

namespace TagTemplate

def LexMode.blanks (mode : LexMode) (characters : List Char) : List Char :=
  match mode with
  | .text => []
  | .tag => characters.takeWhile isTagBlank

/-- A tag may open in either mode. -/
def LexMode.scan (mode : LexMode) : List Char → Scan
  | [] => .token [] [] .endOfInput
  | '{' :: '$' :: others => .delimiter ['{', '$'] others .startTag .tag
  | characters =>
      match mode with
      | .text => .ofText characters
      | .tag => .ofTag characters

theorem LexMode.scan_tiles (mode : LexMode) (first : Char) (others : List Char) :
    (mode.scan (first :: others)).Tiles (first :: others) := by
  unfold LexMode.scan
  split
  · contradiction
  · simp_all [Scan.Tiles, Scan.delimiter]
  · rename_i closed
    cases mode with
    | text => exact Scan.ofText_tiles closed
    | tag => exact Scan.ofTag_tiles first others

/-- A lexer between two tokens: the characters left, the offset of the first of them, the mode,
and whether the end of input has been given out. -/
structure Lexer where
  rest : List Char
  offset : Nat
  mode : LexMode
  finished : Bool

namespace Lexer

def ofSource (source : String) : Lexer :=
  ⟨source.toList, 0, .text, false⟩

def next (lexer : Lexer) : Except LexError Token × Lexer :=
  if lexer.finished then
    (.error ⟨.exhausted, .ofRange lexer.offset lexer.offset⟩, lexer)
  else
    let blanks := lexer.mode.blanks lexer.rest
    let scan := lexer.mode.scan (lexer.rest.drop blanks.length)
    let start := lexer.offset + byteLength blanks + byteLength scan.passed
    let stop := start + byteLength scan.lexeme
    let mode := scan.switch.getD lexer.mode
    match scan.outcome with
    | .ok kind => (.ok ⟨kind, .ofRange start stop⟩, ⟨scan.rest, stop, mode, kind.isEndOfInput⟩)
    | .error cause => (.error ⟨cause, .ofRange start stop⟩, ⟨scan.rest, stop, mode, false⟩)

theorem next_shorter {lexer after : Lexer} {token : Token}
    (step : lexer.next = (.ok token, after)) (more : token.kind.isEndOfInput = false) :
    after.rest.length < lexer.rest.length := by
  unfold next at step
  split at step
  · simp at step
  · simp only at step
    have bound : (lexer.rest.drop (lexer.mode.blanks lexer.rest).length).length ≤
        lexer.rest.length := by simp
    generalize lexer.rest.drop (lexer.mode.blanks lexer.rest).length = ahead at step bound
    cases ahead with
    | nil =>
      simp [LexMode.scan, Scan.token] at step
      rw [← step.1] at more
      simp [Token.Kind.isEndOfInput] at more
    | cons first others =>
      have tiles := lexer.mode.scan_tiles first others
      generalize lexer.mode.scan (first :: others) = scan at step tiles
      obtain ⟨whole, nonempty⟩ := tiles
      have size := congrArg List.length whole
      have := List.length_pos_iff.mpr nonempty
      split at step
      · simp only [Prod.mk.injEq] at step
        rw [← step.2]
        simp at size bound ⊢
        omega
      · simp at step

def collect (lexer : Lexer) (seen : List Token) : Except LexError (List Token) :=
  match _ : lexer.next with
  | (.error error, _) => .error error
  | (.ok token, after) =>
      if _ : token.kind.isEndOfInput = false then after.collect (token :: seen)
      else .ok (token :: seen).reverse
termination_by lexer.rest.length
decreasing_by exact next_shorter ‹_› ‹_›

end Lexer

def tokenize (source : String) : Except LexError (List Token) :=
  (Lexer.ofSource source).collect []

end TagTemplate
