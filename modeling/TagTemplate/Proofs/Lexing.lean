import TagTemplate.Token.Lexer

/-!
Lexing as a relation between characters and the kinds of the tokens they are cut into. The lexer
finds the tokens of a template exactly if the relation holds, which leaves out offsets and errors.
The mode that a cut sets is the one that its token asks for.
-/

namespace TagTemplate

def Token.Kind.switch? : Token.Kind → Option LexMode
  | .startTag => some .tag
  | .endTag => some .text
  | _ => none

def LexMode.after (mode : LexMode) (kind : Token.Kind) : LexMode :=
  kind.switch?.getD mode

namespace Scan

def ofKind (lexeme rest : List Char) (kind : Token.Kind) : Scan :=
  ⟨[], lexeme, rest, .ok kind, kind.switch?⟩

theorem ofKind_inj {left leftRest right rightRest : List Char} {leftKind rightKind : Token.Kind} :
    ofKind left leftRest leftKind = ofKind right rightRest rightKind ↔
      left = right ∧ leftRest = rightRest ∧ leftKind = rightKind := by
  constructor
  · intro same
    simp only [ofKind, mk.injEq, Except.ok.injEq, true_and] at same
    exact ⟨same.1, same.2.1, same.2.2.1⟩
  · rintro ⟨rfl, rfl, rfl⟩
    rfl

theorem ofKind_eq_token {kind : Token.Kind} (plain : kind.switch? = none)
    (lexeme rest : List Char) : ofKind lexeme rest kind = token lexeme rest kind := by
  rw [ofKind, plain, token]

/-- The mode set is the one that the token asks for; an error sets none. -/
def Switches (scan : Scan) : Prop :=
  scan.switch = scan.outcome.toOption.bind Token.Kind.switch?

structure Plain (scan : Scan) : Prop where
  still : scan.switch = none
  switches : scan.Switches

theorem ofNumber_plain (characters : List Char) : (ofNumber characters).Plain := by
  simp only [ofNumber]
  split <;> exact ⟨rfl, rfl⟩

theorem ofFunction_plain (others : List Char) : (ofFunction others).Plain := by
  simp only [ofFunction]
  split
  · exact ⟨rfl, rfl⟩
  split
  · split <;> exact ⟨rfl, rfl⟩
  · exact ⟨rfl, rfl⟩

theorem ofString_plain (others : List Char) : (ofString others).Plain := by
  simp only [ofString]
  split <;> exact ⟨rfl, rfl⟩

theorem ofVariable_plain (characters : List Char) : (ofVariable characters).Plain := by
  simp only [ofVariable]
  split
  · exact ⟨rfl, rfl⟩
  split <;> exact ⟨rfl, rfl⟩

theorem ofCharacter_plain (first : Char) (others : List Char) :
    (ofCharacter first others).Plain := by
  unfold ofCharacter
  split
  · exact ⟨rfl, rfl⟩
  split
  · exact ofNumber_plain _
  split
  · exact ofFunction_plain _
  split
  · exact ofString_plain _
  split
  · exact ofNumber_plain _
  split
  · exact ofVariable_plain _
  split <;> exact ⟨rfl, rfl⟩

theorem ofTag_switches (characters : List Char) : (ofTag characters).Switches := by
  unfold ofTag
  split
  case h_4 first others _ _ _ => exact (ofCharacter_plain first others).switches
  all_goals rfl

end Scan

theorem LexMode.scan_switches (mode : LexMode) (characters : List Char) :
    (mode.scan characters).Switches := by
  unfold scan
  split
  · rfl
  · rfl
  · cases mode with
    | text => rfl
    | tag => exact Scan.ofTag_switches characters

def LexMode.cut (mode : LexMode) (characters : List Char) : Scan :=
  mode.scan (characters.drop (mode.blanks characters).length)

/-- In a mode, characters are cut into tokens of these kinds, the last of them the end of input. -/
inductive Lexes : LexMode → List Char → List Token.Kind → Prop
  | finish {mode characters} : (mode.cut characters).outcome = .ok .endOfInput →
      Lexes mode characters [.endOfInput]
  | token {mode characters kind kinds} : (mode.cut characters).outcome = .ok kind →
      kind.isEndOfInput = false → Lexes (mode.after kind) (mode.cut characters).rest kinds →
      Lexes mode characters (kind :: kinds)

theorem Lexes.unique {mode : LexMode} {characters : List Char} {kinds others : List Token.Kind}
    (lexes : Lexes mode characters kinds) (lexesOthers : Lexes mode characters others) :
    kinds = others := by
  induction lexes generalizing others with
  | finish outcome =>
      cases lexesOthers with
      | finish _ => rfl
      | token otherOutcome more _ =>
          cases outcome.symm.trans otherOutcome
          simp [Token.Kind.isEndOfInput] at more
  | token outcome more _ ih =>
      cases lexesOthers with
      | finish otherOutcome =>
          cases outcome.symm.trans otherOutcome
          simp [Token.Kind.isEndOfInput] at more
      | token otherOutcome _ otherLater =>
          cases outcome.symm.trans otherOutcome
          rw [ih otherLater]

theorem Token.Kind.eq_endOfInput {kind : Token.Kind} (ended : kind.isEndOfInput = true) :
    kind = .endOfInput := by
  cases kind <;> simp [Token.Kind.isEndOfInput] at ended
  rfl

theorem Token.Kind.isEndOfInput_eq_false {kind : Token.Kind} (more : kind ≠ .endOfInput) :
    kind.isEndOfInput = false :=
  Bool.eq_false_iff.mpr (mt eq_endOfInput more)

namespace Lexer

theorem next_mode (lexer : Lexer) :
    lexer.next.2.mode =
      (lexer.next.1.toOption.bind (·.kind.switch?)).getD lexer.mode := by
  unfold next
  split
  · rfl
  have switches : (lexer.mode.cut lexer.rest).Switches := lexer.mode.scan_switches _
  simp only [Scan.Switches, LexMode.cut] at switches
  simp only
  split
  · rename_i kind cut
    rw [switches, cut]
    rfl
  · rename_i cause cut
    rw [switches, cut]
    rfl

theorem next_eq_ok {lexer after : Lexer} {token : Token}
    (stepped : lexer.next = (.ok token, after)) :
    (lexer.mode.cut lexer.rest).outcome = .ok token.kind ∧
      after.rest = (lexer.mode.cut lexer.rest).rest ∧
      after.mode = lexer.mode.after token.kind ∧ after.finished = token.kind.isEndOfInput := by
  have mode := lexer.next_mode
  rw [stepped] at mode
  unfold next at stepped
  split at stepped
  · simp at stepped
  · simp only at stepped
    split at stepped
    · rename_i kind cut
      simp only [Prod.mk.injEq, Except.ok.injEq] at stepped
      obtain ⟨rfl, rfl⟩ := stepped
      exact ⟨cut, rfl, mode, rfl⟩
    · simp at stepped

theorem exists_next {lexer : Lexer} {kind : Token.Kind} (active : lexer.finished = false)
    (cut : (lexer.mode.cut lexer.rest).outcome = .ok kind) :
    ∃ token after, lexer.next = (.ok token, after) ∧ token.kind = kind := by
  unfold LexMode.cut at cut
  simp [next, active, cut]

theorem collect_of_next {lexer after : Lexer} {token : Token}
    (stepped : lexer.next = (.ok token, after)) (seen : List Token) :
    lexer.collect seen = if token.kind.isEndOfInput then .ok (token :: seen).reverse
      else after.collect (token :: seen) := by
  rw [collect]
  split
  · simp_all
  · rename_i found behind again
    rw [stepped] at again
    obtain ⟨same, rfl⟩ := Prod.mk.inj again
    obtain rfl := Except.ok.inj same
    cases token.kind.isEndOfInput <;> rfl

theorem lexes_of_collect {lexer : Lexer} {seen tokens : List Token}
    (collected : lexer.collect seen = .ok tokens) :
    ∃ kinds, tokens.map Token.kind = seen.reverse.map Token.kind ++ kinds ∧
      Lexes lexer.mode lexer.rest kinds := by
  fun_induction collect lexer seen with
  | case1 lexer seen error after stepped => simp at collected
  | case2 lexer seen token after stepped more ih =>
      obtain ⟨kinds, found, lexes⟩ := ih collected
      obtain ⟨cut, rest, mode, _⟩ := next_eq_ok stepped
      rw [rest, mode] at lexes
      exact ⟨token.kind :: kinds, by simp [found], .token cut more lexes⟩
  | case3 lexer seen token after stepped ended =>
      obtain ⟨cut, _⟩ := next_eq_ok stepped
      have last : token.kind = .endOfInput := Token.Kind.eq_endOfInput (by simpa using ended)
      rw [last] at cut
      simp only [Except.ok.injEq] at collected
      exact ⟨[.endOfInput], by simp [← collected, last], .finish cut⟩

theorem collect_of_lexes (lexer : Lexer) {kinds : List Token.Kind}
    (lexes : Lexes lexer.mode lexer.rest kinds) (active : lexer.finished = false)
    (seen : List Token) :
    ∃ tokens, lexer.collect seen = .ok tokens ∧
      tokens.map Token.kind = seen.reverse.map Token.kind ++ kinds := by
  generalize place : lexer.mode = mode at lexes
  generalize ahead : lexer.rest = characters at lexes
  induction lexes generalizing lexer seen with
  | finish cut =>
      rw [← place, ← ahead] at cut
      obtain ⟨token, after, stepped, last⟩ := exists_next active cut
      refine ⟨(token :: seen).reverse, ?_, by simp [last]⟩
      simp [collect_of_next stepped, last, Token.Kind.isEndOfInput]
  | @token mode characters kind kinds cut more later ih =>
      rw [← place, ← ahead] at cut
      obtain ⟨token, after, stepped, rfl⟩ := exists_next active cut
      obtain ⟨_, rest, mode, finished⟩ := next_eq_ok stepped
      obtain ⟨tokens, collected, found⟩ := ih after (finished.trans more) (token :: seen)
        (by rw [mode, place]) (by rw [rest, place, ahead])
      refine ⟨tokens, ?_, by simp [found]⟩
      simp [collect_of_next stepped, more, collected]

end Lexer

theorem tokenize_kinds_iff (source : String) (kinds : List Token.Kind) :
    (∃ tokens, tokenize source = .ok tokens ∧ tokens.map Token.kind = kinds) ↔
      Lexes .text source.toList kinds := by
  constructor
  · rintro ⟨tokens, collected, rfl⟩
    obtain ⟨kinds, found, lexes⟩ := Lexer.lexes_of_collect collected
    rw [found]
    exact lexes
  · intro lexes
    obtain ⟨tokens, collected, found⟩ :=
      Lexer.collect_of_lexes (.ofSource source) lexes rfl []
    exact ⟨tokens, collected, found⟩

end TagTemplate
