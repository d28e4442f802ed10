import TagTemplate.Proofs.Lookahead
import TagTemplate.Proofs.Payloads
import TagTemplate.Proofs.SourceTiling

/-!
Where tokens end. A token goes by its lexeme and by what may follow it, so that it is read in the
same way in front of anything else that may follow it.
-/

namespace TagTemplate

def Token.Kind.Admits (rest : List Char) : Kind → Prop
  | .startTag | .endTag | .loopWord | .endWord | .tagName | .string _ => True
  | .text content => StopsText content.toList rest
  | .variable _ | .integer _ | .double _ => StopsAt Scan.isLiteralCharacter rest
  | .function _ => StartsBlank rest
  | .operator symbol => symbol = .subtract → Scan.startsWithDigit rest = false
  | .endOfInput => rest = []

/-- A token that a reader takes in front of the rest is one that it takes in front of anything that
the token admits. -/
structure Scan.Bounded (reader : List Char → Scan) (lexeme rest : List Char) (kind : Token.Kind) :
    Prop where
  admits : kind.Admits rest
  again : ∀ more, kind.Admits more → reader more = .ofKind lexeme more kind

namespace Scan

variable {lexeme rest : List Char} {kind : Token.Kind}

theorem startsWithDigit_append {left : List Char} (nonempty : left ≠ []) (right other : List Char) :
    startsWithDigit (left ++ right) = startsWithDigit (left ++ other) := by
  obtain ⟨first, others, rfl⟩ := List.exists_cons_of_ne_nil nonempty
  rfl

theorem bounded_number {first : Char} {others : List Char}
    (starts : first.isDigit = true ∨ first = '-' ∧ startsWithDigit (others ++ rest) = true)
    (taken : ofNumber (first :: others ++ rest) = token (first :: others) rest kind) :
    Bounded (fun more => ofCharacter first (others ++ more)) (first :: others) rest kind := by
  obtain ⟨run, number, read, rfl⟩ := ofNumber_eq_token_iff.mp taken
  obtain ⟨plain, stops⟩ := takeWhile_eq_left_iff.mp run
  have admits_iff (more : List Char) :
      number.kind.Admits more ↔ StopsAt isLiteralCharacter more := by
    cases number <;> exact Iff.rfl
  refine ⟨(admits_iff rest).mpr stops, fun more admits => ?_⟩
  have startsAgain : first.isDigit = true ∨
      first = '-' ∧ startsWithDigit (others ++ more) = true := by
    refine starts.imp_right fun ⟨sign, digit⟩ => ⟨sign, ?_⟩
    -- The digit behind the sign is a part of the literal.
    have nonempty : others ≠ [] := by
      rintro rfl
      cases rest with
      | nil => simp [startsWithDigit] at digit
      | cons next rest =>
          have literal := stops next rfl
          rw [isLiteralCharacter_of_isDigit digit] at literal
          contradiction
    rw [startsWithDigit_append nonempty more rest, digit]
  rw [ofCharacter_of_number startsAgain, ofKind_eq_token (by cases number <;> rfl)]
  exact ofNumber_eq_token_iff.mpr
    ⟨takeWhile_eq_left_iff.mpr ⟨plain, (admits_iff more).mp admits⟩, number, read, rfl⟩

theorem ofCharacter_bounded {first : Char} {others : List Char}
    (taken : ofCharacter first (others ++ rest) = token (first :: others) rest kind) :
    Bounded (fun more => ofCharacter first (others ++ more)) (first :: others) rest kind := by
  unfold ofCharacter at taken
  split at taken
  · rename_i sign
    obtain ⟨same, -, rfl⟩ := token_inj.mp taken
    obtain rfl := (List.cons.inj same).2
    refine ⟨trivial, fun more _ => ?_⟩
    rw [ofKind_eq_token rfl]
    simp [ofCharacter, sign]
  split at taken
  · rename_i number
    simp only [Bool.and_eq_true, decide_eq_true_eq] at number
    exact bounded_number (Or.inr number) taken
  split at taken
  · rename_i sign
    subst sign
    obtain ⟨named, stopped, rfl⟩ := ofFunction_eq_token_iff.mp taken
    refine ⟨stopped, fun more stoppedAgain => ?_⟩
    have dispatched : ofCharacter '@' (others ++ more) = ofFunction (others ++ more) := by
      simp [ofCharacter]
    rw [dispatched]
    exact ofFunction_eq_token_iff.mpr ⟨named, stoppedAgain, rfl⟩
  split at taken
  · rename_i quote
    subst quote
    obtain ⟨body, rfl, unquoted, rfl⟩ := ofString_eq_token_iff.mp taken
    refine ⟨trivial, fun more _ => ?_⟩
    have dispatched : ofCharacter '"' (body ++ ['"'] ++ more) =
        ofString (body ++ ['"'] ++ more) := by
      simp [ofCharacter]
    rw [dispatched]
    exact ofString_eq_token_iff.mpr ⟨body, rfl, unquoted, rfl⟩
  split at taken
  · rename_i digit
    exact bounded_number (Or.inl digit) taken
  split at taken
  · rename_i letter
    rw [← List.cons_append] at taken
    obtain ⟨plain, stops, rfl⟩ := ofVariable_eq_token_iff.mp taken
    refine ⟨stops, fun more stopsAgain => ?_⟩
    rw [ofCharacter_of_isAlphabetic _ letter]
    exact ofVariable_eq_token_iff.mpr ⟨plain, stopsAgain, rfl⟩
  split at taken
  · rename_i noNumber _ _ _ _ _ symbol found
    obtain ⟨same, -, rfl⟩ := token_inj.mp taken
    obtain rfl := (List.cons.inj same).2
    obtain rfl := Operator.symbol_of_ofChar? found
    refine ⟨?_, fun more admits => ofCharacter_operator admits⟩
    rintro rfl
    simpa [Operator.symbol] using noNumber
  · simp [failure, token] at taken

theorem no_mark_of_token {first : Char} {others : List Char}
    (taken : ofCharacter first others = token lexeme rest kind) : first ≠ '{' ∧ first ≠ '$' := by
  constructor <;> rintro rfl
  · have noLetter : Text.isAlphabetic '{' = false := by decide
    simp [ofCharacter, noLetter, Operator.ofChar?, failure, token] at taken
  · have noLetter : Text.isAlphabetic '$' = false := by decide
    simp [ofCharacter, noLetter, Operator.ofChar?, failure, token] at taken

theorem no_word_of_admits {first letter : Char} {others letters more : List Char}
    (taken : ofCharacter first (others ++ rest) = token (first :: others) rest kind)
    (alphabetic : Text.isAlphabetic letter = true)
    (plain : ∀ character ∈ letter :: letters, isLiteralCharacter character = true)
    (noWord : ¬letter :: letters <+: first :: others ++ rest) (admits : kind.Admits more) :
    ¬letter :: letters <+: first :: others ++ more := by
  intro ahead
  obtain rfl := (List.cons_prefix_cons.mp ahead).1
  rw [ofCharacter_of_isAlphabetic _ alphabetic, ← List.cons_append] at taken
  obtain ⟨_, _, rfl⟩ := ofVariable_eq_token_iff.mp taken
  have inside := prefix_of_prefix_append plain admits ahead
  exact noWord (inside.trans (List.prefix_append _ rest))

end Scan

namespace LexMode.Takes

variable {mode : LexMode} {lexeme rest more : List Char} {kind : Token.Kind}

theorem bounded_end (takes : mode.Takes lexeme rest kind) (ended : lexeme ++ rest = []) :
    Scan.Bounded (fun more => mode.scan (lexeme ++ more)) lexeme rest kind := by
  obtain ⟨rfl, rfl⟩ := List.append_eq_nil_iff.mp ended
  obtain ⟨_, _, rfl⟩ := Scan.ofKind_inj.mp takes
  refine ⟨rfl, ?_⟩
  rintro _ rfl
  rfl

theorem bounded_word {word : List Char} (wordKind : Token.Kind)
    (taken : ∀ others, mode.scan (word ++ others) = .ofKind word others wordKind)
    (free : ∀ others, wordKind.Admits others) (takes : mode.Takes lexeme rest kind)
    (ahead : word <+: lexeme ++ rest) :
    Scan.Bounded (fun more => mode.scan (lexeme ++ more)) lexeme rest kind := by
  obtain ⟨others, shape⟩ := ahead
  rw [Takes, ← shape, taken, Scan.ofKind_inj] at takes
  obtain ⟨rfl, rfl, rfl⟩ := takes
  exact ⟨free _, fun more _ => taken more⟩

theorem bounded_tag (takes : tag.Takes lexeme rest kind) (unfinished : lexeme ++ rest ≠ [])
    (noStartTag : ¬['{', '$'] <+: lexeme ++ rest) :
    Scan.Bounded (fun more => tag.scan (lexeme ++ more)) lexeme rest kind := by
  by_cases endTag : ['$', '}'] <+: lexeme ++ rest
  · exact bounded_word .endTag (fun _ => rfl) (fun _ => trivial) takes endTag
  by_cases loopWord : ['F', 'O', 'R'] <+: lexeme ++ rest
  · exact bounded_word .loopWord (fun _ => rfl) (fun _ => trivial) takes loopWord
  by_cases endWord : ['E', 'N', 'D'] <+: lexeme ++ rest
  · exact bounded_word .endWord (fun _ => rfl) (fun _ => trivial) takes endWord
  obtain ⟨first, others, rfl⟩ :=
    List.exists_cons_of_ne_nil (takes.lexeme_ne_nil (mt takes.ended_iff.mp unfinished))
  have dispatched : tag.scan (first :: others ++ rest) = Scan.ofCharacter first (others ++ rest) :=
    Scan.scan_eq_ofCharacter noStartTag endTag loopWord endWord
  have plain : kind.switch? = none := by
    have switch := congrArg Scan.switch takes
    rw [dispatched, (Scan.ofCharacter_plain _ _).still] at switch
    exact switch.symm
  rw [Takes, dispatched, Scan.ofKind_eq_token plain] at takes
  obtain ⟨admits, again⟩ := Scan.ofCharacter_bounded takes
  obtain ⟨noBrace, noDollar⟩ := Scan.no_mark_of_token takes
  refine ⟨admits, fun more admitsMore => ?_⟩
  rw [List.cons_append, Scan.scan_eq_ofCharacter]
  · exact again more admitsMore
  · exact fun ahead => noBrace (List.cons_prefix_cons.mp ahead).1.symm
  · exact fun ahead => noDollar (List.cons_prefix_cons.mp ahead).1.symm
  · exact Scan.no_word_of_admits takes (by decide)
      (by simp [Scan.isLiteralCharacter, isTagBlank]) loopWord admitsMore
  · exact Scan.no_word_of_admits takes (by decide)
      (by simp [Scan.isLiteralCharacter, isTagBlank]) endWord admitsMore

theorem bounded_text (takes : text.Takes lexeme rest kind) (unfinished : lexeme ++ rest ≠ [])
    (noStartTag : ¬['{', '$'] <+: lexeme ++ rest) :
    Scan.Bounded (fun more => text.scan (lexeme ++ more)) lexeme rest kind := by
  have shape := scan_eq_ofText unfinished noStartTag
  obtain ⟨same, -, rfl⟩ := Scan.ofKind_inj.mp (shape.symm.trans takes)
  rw [same]
  have outcome : (text.scan (lexeme ++ rest)).outcome = .ok (.text (String.ofList lexeme)) := by
    rw [takes, same]
    rfl
  obtain ⟨_, isText, stops⟩ := text_of_scan outcome
  rw [takes] at stops
  refine ⟨stops, fun more stopsAgain => ?_⟩
  rw [String.toList_ofList] at isText
  rw [Token.Kind.Admits, String.toList_ofList] at stopsAgain
  obtain ⟨again, left⟩ := cuts_text isText stopsAgain
  exact of_rest again left

theorem bounded (takes : mode.Takes lexeme rest kind) :
    Scan.Bounded (fun more => mode.scan (lexeme ++ more)) lexeme rest kind := by
  by_cases ended : lexeme ++ rest = []
  · exact takes.bounded_end ended
  by_cases startTag : ['{', '$'] <+: lexeme ++ rest
  · exact bounded_word .startTag (fun _ => rfl) (fun _ => trivial) takes startTag
  cases mode with
  | tag => exact takes.bounded_tag ended startTag
  | text => exact takes.bounded_text ended startTag

end LexMode.Takes

end TagTemplate
