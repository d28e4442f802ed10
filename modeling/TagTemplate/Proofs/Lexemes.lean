import TagTemplate.Proofs.Lexing
import TagTemplate.Proofs.Numeral
import TagTemplate.Proofs.WellFormed

/-!
Lexemes in front of other characters. For each kind of token there is one condition on the lexeme
and the rest under which the lexeme is taken. Each lexeme that a document is written with is
therefore cut off again as the token it stands for, whatever follows, as long as text runs up to a
tag or the end and names and numbers are followed by a blank.
-/

namespace TagTemplate

def LexMode.Cuts (mode : LexMode) (lexeme rest : List Char) (kind : Token.Kind) : Prop :=
  (mode.cut (lexeme ++ rest)).outcome = .ok kind ∧ (mode.cut (lexeme ++ rest)).rest = rest

theorem LexMode.Cuts.lexes {mode : LexMode} {lexeme rest : List Char} {kind : Token.Kind}
    {kinds : List Token.Kind} (cuts : mode.Cuts lexeme rest kind)
    (later : Lexes (mode.after kind) rest kinds) (more : kind.isEndOfInput = false) :
    Lexes mode (lexeme ++ rest) (kind :: kinds) := by
  obtain ⟨outcome, left⟩ := cuts
  exact .token outcome more (by rw [left]; exact later)

theorem lexes_nil (mode : LexMode) : Lexes mode [] [.endOfInput] := by
  apply Lexes.finish
  cases mode <;> rfl

/-- What may stand behind a run of text: nothing, or a tag unless a backslash is before it. -/
def StopsText (content rest : List Char) : Prop :=
  rest = [] ∨ ¬EndsInBackslash content ∧ ['{', '$'] <+: rest

theorem endsInBackslash_cons {first : Char} {others : List Char} :
    EndsInBackslash (first :: others) ↔
      others = [] ∧ first = '\\' ∨ EndsInBackslash others := by
  cases others <;> simp [EndsInBackslash, List.getLast?_cons_cons]

theorem endsInBackslash_append {left right : List Char} (nonempty : right ≠ []) :
    EndsInBackslash (left ++ right) ↔ EndsInBackslash right := by
  rw [EndsInBackslash, EndsInBackslash, List.getLast?_append_of_ne_nil left nonempty]

theorem opensNoTag_nil : OpensNoTag [] := by
  intro front back shape
  simp at shape

theorem OpensNoTag.cons {first : Char} {others : List Char} (inner : OpensNoTag others)
    (noTag : ∀ more, first = '{' → others ≠ '$' :: more) : OpensNoTag (first :: others) := by
  intro front back shape
  cases front with
  | nil =>
      obtain ⟨brace, dollar⟩ := List.cons.inj shape
      exact absurd dollar (noTag back brace)
  | cons before front =>
      have ends := inner front back (List.cons.inj shape).2
      simp [List.getLast?_cons, ends]

theorem OpensNoTag.of_cons {first : Char} {others : List Char}
    (outer : OpensNoTag (first :: others))
    (noEscape : ∀ more, first = '\\' → others ≠ '{' :: more) : OpensNoTag others := by
  intro front back shape
  have ends := outer (first :: front) back (by rw [shape]; rfl)
  cases front with
  | nil => exact absurd shape (noEscape _ (by simpa using ends))
  | cons before front => simpa [List.getLast?_cons] using ends

theorem opensNoTag_escape {others : List Char} :
    OpensNoTag ('\\' :: '{' :: others) ↔ OpensNoTag others := by
  constructor
  · intro outer front back shape
    have ends := outer ('\\' :: '{' :: front) back (by rw [shape]; rfl)
    cases front with
    | nil => simp at ends
    | cons before front => simpa [List.getLast?_cons] using ends
  · intro inner front back shape
    match front, shape with
    | [], shape => simp at shape
    | [before], shape => simpa using (List.cons.inj shape).1.symm
    | before :: brace :: front, shape =>
        have ends := inner front back (List.cons.inj (List.cons.inj shape).2).2
        simp [List.getLast?_cons, ends]

namespace Scan

theorem dropText_cons {first : Char} {others : List Char}
    (noTag : ∀ more, first = '{' → others ≠ '$' :: more)
    (noEscape : ∀ more, first = '\\' → others ≠ '{' :: more) :
    dropText (first :: others) = dropText others := by
  rw [dropText]
  · intro more brace dollar
    exact noTag more brace dollar
  · intro more backslash brace
    exact noEscape more backslash brace

theorem dropText_split (characters : List Char) :
    ∃ content, characters = content ++ dropText characters ∧ OpensNoTag content ∧
      StopsText content (dropText characters) := by
  fun_induction dropText characters with
  | case1 others => exact ⟨[], rfl, opensNoTag_nil, Or.inr ⟨by simp [EndsInBackslash], others, rfl⟩⟩
  | case2 others ih =>
      obtain ⟨content, whole, opensNoTag, stops⟩ := ih
      refine ⟨'\\' :: '{' :: content, by rw [List.cons_append, List.cons_append, ← whole],
        opensNoTag_escape.mpr opensNoTag, ?_⟩
      simpa [StopsText, endsInBackslash_cons] using stops
  | case3 first others noTag noEscape ih =>
      obtain ⟨content, whole, opensNoTag, stops⟩ := ih
      refine ⟨first :: content, by rw [List.cons_append, ← whole], ?_, ?_⟩
      · refine opensNoTag.cons ?_
        rintro more brace rfl
        exact noTag _ brace whole
      · rcases stops with ended | ⟨unescaped, tag⟩
        · exact Or.inl ended
        · refine Or.inr ⟨?_, tag⟩
          rw [endsInBackslash_cons]
          rintro (⟨rfl, backslash⟩ | escaped)
          · obtain ⟨more, tag⟩ := tag
            exact noEscape ('$' :: more) backslash (whole.trans tag.symm)
          · exact unescaped escaped
  | case4 => exact ⟨[], rfl, opensNoTag_nil, Or.inl rfl⟩

theorem append_ne_cons {front rest : List Char} {next : Char}
    (inside : ∀ more, front ≠ next :: more) (seam : front = [] → ∀ more, rest ≠ next :: more)
    (more : List Char) : front ++ rest ≠ next :: more := by
  cases front with
  | nil => exact seam rfl more
  | cons first others =>
      intro shape
      obtain ⟨rfl, _⟩ := List.cons.inj shape
      exact inside others rfl

theorem dropText_append {content rest : List Char} (opensNoTag : OpensNoTag content)
    (stops : StopsText content rest) : dropText (content ++ rest) = rest := by
  fun_induction dropText content with
  | case1 others => exact absurd (opensNoTag [] others rfl) (by simp)
  | case2 others ih =>
      rw [List.cons_append, List.cons_append, dropText]
      refine ih (opensNoTag_escape.mp opensNoTag) ?_
      simpa [StopsText, endsInBackslash_cons] using stops
  | case3 first others noTag noEscape ih =>
      have inner : OpensNoTag others := opensNoTag.of_cons noEscape
      have innerStops : StopsText others rest :=
        stops.imp_right fun ⟨unescaped, tag⟩ =>
          ⟨fun escaped => unescaped (endsInBackslash_cons.mpr (Or.inr escaped)), tag⟩
      rw [List.cons_append, dropText_cons, ih inner innerStops]
      -- A tag or an escape at the seam would be one that the text stops at.
      · intro more brace
        refine append_ne_cons (fun more => noTag more brace) ?_ more
        rintro rfl more
        rcases stops with rfl | ⟨_, behind, rfl⟩
        · simp
        · simp
      · intro more backslash
        refine append_ne_cons (fun more => noEscape more backslash) ?_ more
        rintro rfl more
        rcases stops with rfl | ⟨unescaped, _⟩
        · simp
        · exact absurd (endsInBackslash_cons.mpr (Or.inl ⟨rfl, backslash⟩)) unescaped
  | case4 =>
      rcases stops with rfl | ⟨_, more, rfl⟩
      · rfl
      · rfl

end Scan

theorem cuts_text {content rest : List Char} (text : IsText content)
    (stops : StopsText content rest) :
    LexMode.text.Cuts content rest (.text (String.ofList content)) := by
  have dropped := Scan.dropText_append text.2 stops
  have scanned : LexMode.text.scan (content ++ rest) = Scan.ofText (content ++ rest) := by
    unfold LexMode.scan
    split
    · rename_i empty
      exact absurd (List.append_eq_nil_iff.mp empty).1 text.1
    · rename_i others shape
      rw [shape, Scan.dropText, ← shape] at dropped
      exact absurd (by simpa using dropped) text.1
    · rfl
  simp [LexMode.Cuts, LexMode.cut, LexMode.blanks, scanned, Scan.ofText, dropped, Scan.token]

theorem lexes_text {content : String} {rest : List Char} {kinds : List Token.Kind}
    (isText : IsText content.toList) (stops : StopsText content.toList rest)
    (later : Lexes .text rest kinds) :
    Lexes .text (content.toList ++ rest) (.text content :: kinds) := by
  have lexes := (cuts_text isText stops).lexes later rfl
  rwa [String.ofList_toList] at lexes

theorem cuts_startTag (mode : LexMode) (rest : List Char) :
    mode.Cuts ['{', '$'] rest .startTag := by
  cases mode <;> exact ⟨rfl, rfl⟩

theorem cut_blank {blank : Char} (characters : List Char) (isBlank : isTagBlank blank = true) :
    LexMode.tag.cut (blank :: characters) = LexMode.tag.cut characters := by
  simp [LexMode.cut, LexMode.blanks, isBlank]

theorem Lexes.blank {characters : List Char} {kinds : List Token.Kind} {blank : Char}
    (lexes : Lexes .tag characters kinds) (isBlank : isTagBlank blank = true) :
    Lexes .tag (blank :: characters) kinds := by
  have same := cut_blank characters isBlank
  cases lexes with
  | finish outcome => exact .finish (by rw [same]; exact outcome)
  | token outcome more later =>
      exact .token (by rw [same]; exact outcome) more (by rw [same]; exact later)

theorem Lexes.space {characters : List Char} {kinds : List Token.Kind}
    (lexes : Lexes .tag characters kinds) : Lexes .tag (' ' :: characters) kinds :=
  lexes.blank rfl

theorem cut_of_solid {first : Char} {others : List Char} (solid : isTagBlank first = false) :
    LexMode.tag.cut (first :: others) = LexMode.tag.scan (first :: others) := by
  simp [LexMode.cut, LexMode.blanks, solid]

theorem cuts_endTag (rest : List Char) : LexMode.tag.Cuts ['$', '}'] rest .endTag :=
  ⟨rfl, rfl⟩

theorem cuts_loopWord (rest : List Char) : LexMode.tag.Cuts ['F', 'O', 'R'] rest .loopWord :=
  ⟨rfl, rfl⟩

theorem cuts_endWord (rest : List Char) : LexMode.tag.Cuts ['E', 'N', 'D'] rest .endWord :=
  ⟨rfl, rfl⟩

theorem cuts_tagName (rest : List Char) : LexMode.tag.Cuts ['='] rest .tagName :=
  ⟨rfl, rfl⟩

theorem Text.le_of_isAlphabetic {character : Char} (letter : isAlphabetic character = true) :
    'A'.toNat ≤ character.toNat := by
  unfold isAlphabetic CodePoints.contains alphabeticPoints at letter
  rw [covers] at letter
  split at letter
  · simpa using letter
  · rename_i high
    have : 'A'.toNat = 65 := rfl
    omega

namespace Scan

/-- Unless a delimiter or a word of the language is ahead, a tag token goes by its first
character. -/
theorem scan_eq_ofCharacter {first : Char} {others : List Char}
    (noStartTag : ¬['{', '$'] <+: first :: others) (noEndTag : ¬['$', '}'] <+: first :: others)
    (noLoopWord : ¬['F', 'O', 'R'] <+: first :: others)
    (noEndWord : ¬['E', 'N', 'D'] <+: first :: others) :
    LexMode.tag.scan (first :: others) = ofCharacter first others := by
  unfold LexMode.scan
  split
  · contradiction
  · rename_i more shape
    exact absurd ⟨more, shape.symm⟩ noStartTag
  · simp only [ofTag]
    split
    · rename_i more shape
      exact absurd ⟨more, shape.symm⟩ noEndTag
    · rename_i more shape
      exact absurd ⟨more, shape.symm⟩ noLoopWord
    · rename_i more shape
      exact absurd ⟨more, shape.symm⟩ noEndWord
    · rename_i shape
      obtain ⟨rfl, rfl⟩ := List.cons.inj shape
      rfl
    · contradiction

theorem cut_eq_ofCharacter {first : Char} (others : List Char)
    (solid : isTagBlank first = false) (noMark : first ∉ ['{', '$', 'F', 'E']) :
    LexMode.tag.cut (first :: others) = ofCharacter first others := by
  simp only [List.mem_cons, List.not_mem_nil, or_false, not_or] at noMark
  rw [cut_of_solid solid, scan_eq_ofCharacter]
  all_goals
    intro ahead
    have same := (List.cons_prefix_cons.mp ahead).1
    simp [← same] at noMark

theorem ofCharacter_of_isAlphabetic {first : Char} (others : List Char)
    (letter : Text.isAlphabetic first = true) :
    ofCharacter first others = ofVariable (first :: others) := by
  have above := Text.le_of_isAlphabetic letter
  have noDigit : first.isDigit = false := by
    apply Bool.eq_false_iff.mpr
    intro digit
    have below := (toNat_of_isDigit digit).2
    have : '9'.toNat < 'A'.toNat := by decide
    omega
  have noSign : first ≠ '=' ∧ first ≠ '-' ∧ first ≠ '@' ∧ first ≠ '"' := by
    refine ⟨?_, ?_, ?_, ?_⟩ <;> rintro rfl <;> revert above <;> decide
  simp [ofCharacter, noSign, noDigit, letter]

theorem ofCharacter_of_number {first : Char} {others : List Char}
    (number : first.isDigit = true ∨ first = '-' ∧ startsWithDigit others = true) :
    ofCharacter first others = ofNumber (first :: others) := by
  rcases number with digit | ⟨rfl, digit⟩
  · have noSign : first ≠ '=' ∧ first ≠ '-' ∧ first ≠ '@' ∧ first ≠ '"' := by
      refine ⟨?_, ?_, ?_, ?_⟩ <;> rintro rfl <;> simp at digit
    simp [ofCharacter, noSign, digit]
  · simp [ofCharacter, digit]

end Scan

def StopsAt (test : Char → Bool) (characters : List Char) : Prop :=
  ∀ first ∈ characters.head?, test first = false

theorem span_append (test : Char → Bool) (run rest : List Char)
    (passes : ∀ character ∈ run, test character = true) (stops : StopsAt test rest) :
    (run ++ rest).takeWhile test = run ∧ (run ++ rest).dropWhile test = rest := by
  rw [List.takeWhile_append_of_pos passes, List.dropWhile_append_of_pos passes]
  cases rest with
  | nil => simp
  | cons first others => simp [stops first rfl]

theorem passes_of_mem_takeWhile {test : Char → Bool} {characters : List Char} :
    ∀ character ∈ characters.takeWhile test, test character = true :=
  List.all_eq_true.mp List.all_takeWhile

theorem takeWhile_eq_left_iff {test : Char → Bool} {run rest : List Char} :
    (run ++ rest).takeWhile test = run ↔
      (∀ character ∈ run, test character = true) ∧ StopsAt test rest := by
  constructor
  · intro taken
    have whole := List.takeWhile_append_dropWhile (p := test) (l := run ++ rest)
    have closing := List.head?_dropWhile_not test (run ++ rest)
    rw [taken] at whole
    rw [List.append_cancel_left whole] at closing
    constructor
    · rw [← taken]
      exact passes_of_mem_takeWhile
    · intro first ahead
      rw [Option.mem_def.mp ahead] at closing
      simpa using closing
  · rintro ⟨passes, stops⟩
    exact (span_append test run rest passes stops).1

theorem dropWhile_eq_right {test : Char → Bool} {run rest : List Char}
    (taken : (run ++ rest).takeWhile test = run) : (run ++ rest).dropWhile test = rest := by
  obtain ⟨passes, stops⟩ := takeWhile_eq_left_iff.mp taken
  exact (span_append test run rest passes stops).2

theorem isNameCharacter_of_isTagBlank {blank : Char} (isBlank : isTagBlank blank = true) :
    isNameCharacter blank = false := by
  simp only [isTagBlank, Bool.or_eq_true, decide_eq_true_eq] at isBlank
  rcases isBlank with ((rfl | rfl) | rfl) | rfl <;> decide

def StartsBlank (rest : List Char) : Prop :=
  ∃ blank others, rest = blank :: others ∧ isTagBlank blank = true

theorem StartsBlank.stopsAt {rest : List Char} (stopped : StartsBlank rest) {test : Char → Bool}
    (noBlank : ∀ blank, isTagBlank blank = true → test blank = false) : StopsAt test rest := by
  obtain ⟨blank, others, rfl, isBlank⟩ := stopped
  intro first ahead
  rw [← Option.some.inj ahead]
  exact noBlank blank isBlank

theorem StartsBlank.stopsAt_name {rest : List Char} (stopped : StartsBlank rest) :
    StopsAt isNameCharacter rest :=
  stopped.stopsAt fun _ => isNameCharacter_of_isTagBlank

theorem StartsBlank.stopsAt_literal {rest : List Char} (stopped : StartsBlank rest) :
    StopsAt Scan.isLiteralCharacter rest :=
  stopped.stopsAt fun _ isBlank => by simp [Scan.isLiteralCharacter, isBlank]

theorem prefix_of_prefix_append {test : Char → Bool} {word name rest : List Char}
    (passes : ∀ character ∈ word, test character = true) (stops : StopsAt test rest)
    (ahead : word <+: name ++ rest) : word <+: name := by
  rcases List.prefix_or_prefix_of_prefix ahead (List.prefix_append name rest) with shorter | longer
  · exact shorter
  · obtain ⟨tail, rfl⟩ := longer
    cases tail with
    | nil => simp
    | cons first tail =>
        obtain ⟨others, shape⟩ := (List.prefix_append_right_inj name).mp ahead
        have passed := passes first (by simp)
        rw [stops first (by rw [← shape]; rfl)] at passed
        contradiction

def Number.kind : Number → Token.Kind
  | .integer number => .integer number
  | .double number => .double number

theorem isLiteralCharacter_of_isNameCharacter {character : Char}
    (plain : isNameCharacter character = true) : Scan.isLiteralCharacter character = true := by
  have noBlank : isTagBlank character = false := by
    apply Bool.eq_false_iff.mpr
    intro blank
    simp [isNameCharacter_of_isTagBlank blank] at plain
  have noDollar : character ≠ '$' := by
    rintro rfl
    revert plain
    decide
  simp [Scan.isLiteralCharacter, noBlank, noDollar]

theorem StopsAt.weaken {test other : Char → Bool} {rest : List Char} (stops : StopsAt other rest)
    (weaker : ∀ character, test character = true → other character = true) : StopsAt test rest := by
  intro first ahead
  apply Bool.eq_false_iff.mpr
  intro passes
  simpa [weaker first passes] using stops first ahead

namespace Scan

variable {lexeme rest : List Char} {kind : Token.Kind}

theorem token_inj {left leftRest right rightRest : List Char} {leftKind rightKind : Token.Kind} :
    token left leftRest leftKind = token right rightRest rightKind ↔
      left = right ∧ leftRest = rightRest ∧ leftKind = rightKind := by
  simp [token]

theorem ofNumber_eq_token_iff : ofNumber (lexeme ++ rest) = token lexeme rest kind ↔
    (lexeme ++ rest).takeWhile isLiteralCharacter = lexeme ∧
      ∃ number, Number.ofLiteral? lexeme = some number ∧ kind = number.kind := by
  constructor
  · intro taken
    cases read : Number.ofLiteral? ((lexeme ++ rest).takeWhile isLiteralCharacter) with
    | none => simp [ofNumber, read, failure, token] at taken
    | some number =>
        have shape : token ((lexeme ++ rest).takeWhile isLiteralCharacter)
            ((lexeme ++ rest).dropWhile isLiteralCharacter) number.kind =
              token lexeme rest kind := by
          simp only [ofNumber, read] at taken
          cases number <;> exact taken
        obtain ⟨literal, -, rfl⟩ := token_inj.mp shape
        exact ⟨literal, number, by rw [← literal, read], rfl⟩
  · rintro ⟨literal, number, read, rfl⟩
    simp only [ofNumber, dropWhile_eq_right literal, literal, read]
    cases number <;> rfl

theorem ofFunction_eq_token_iff {name : List Char} :
    ofFunction (name ++ rest) = token ('@' :: name) rest kind ↔
      IsFunctionName name ∧ StartsBlank rest ∧ kind = .function (String.ofList name) := by
  constructor
  · intro taken
    simp only [ofFunction] at taken
    split at taken
    · simp [failure, token] at taken
    split at taken
    · rename_i blank others left isBlank
      split at taken
      · simp [failure, token] at taken
      · rename_i nonempty
        obtain ⟨same, rfl, rfl⟩ := token_inj.mp taken
        have run := (List.cons.inj same).2
        rw [run] at nonempty ⊢
        exact ⟨⟨by simpa using nonempty, (takeWhile_eq_left_iff.mp run).1⟩,
          ⟨blank, others, rfl, isBlank⟩, rfl⟩
    · simp [token] at taken
  · rintro ⟨⟨nonempty, plain⟩, stopped, rfl⟩
    have run := takeWhile_eq_left_iff.mpr ⟨plain, stopped.stopsAt_name⟩
    obtain ⟨blank, others, rfl, isBlank⟩ := stopped
    simp [ofFunction, dropWhile_eq_right run, run, isBlank, nonempty]

theorem ofString_eq_token_iff {tail : List Char} :
    ofString (tail ++ rest) = token ('"' :: tail) rest kind ↔
      ∃ body, tail = body ++ ['"'] ∧ '"' ∉ body ∧
        kind = .string (String.ofList (Text.unescapeLineBreaks body)) := by
  constructor
  · intro taken
    have unquoted : '"' ∉ (tail ++ rest).takeWhile (· ≠ '"') := by
      intro member
      simpa using passes_of_mem_takeWhile _ member
    have closing := List.head?_dropWhile_not (· ≠ '"') (tail ++ rest)
    simp only [ofString] at taken
    split at taken
    · simp [failure, token] at taken
    · rename_i quote others left
      obtain ⟨same, -, rfl⟩ := token_inj.mp taken
      rw [left] at closing
      obtain rfl : quote = '"' := by simpa using closing
      exact ⟨_, (List.cons.inj same).2.symm, unquoted, rfl⟩
  · rintro ⟨body, rfl, unquoted, rfl⟩
    have run : (body ++ '"' :: rest).takeWhile (· ≠ '"') = body := by
      refine takeWhile_eq_left_iff.mpr ⟨fun character member => ?_, by simp [StopsAt]⟩
      rw [decide_eq_true_eq]
      rintro rfl
      exact unquoted member
    rw [List.append_assoc, List.singleton_append]
    simp only [ofString, dropWhile_eq_right run, run]

theorem ofVariable_eq_token_iff :
    ofVariable (lexeme ++ rest) = token lexeme rest kind ↔
      (∀ character ∈ lexeme, isNameCharacter character = true) ∧ StopsAt isLiteralCharacter rest ∧
        kind = .variable (String.ofList lexeme) := by
  constructor
  · intro taken
    simp only [ofVariable] at taken
    split at taken
    · obtain ⟨run, rfl, rfl⟩ := token_inj.mp taken
      exact ⟨(takeWhile_eq_left_iff.mp run).1, by simp [StopsAt], by rw [run]⟩
    split at taken
    · simp [token] at taken
    · rename_i stopped
      obtain ⟨run, rfl, rfl⟩ := token_inj.mp taken
      exact ⟨(takeWhile_eq_left_iff.mp run).1, by simpa [StopsAt] using stopped, by rw [run]⟩
  · rintro ⟨plain, stops, rfl⟩
    have run := takeWhile_eq_left_iff.mpr
      ⟨plain, stops.weaken fun _ => isLiteralCharacter_of_isNameCharacter⟩
    simp only [ofVariable, dropWhile_eq_right run, run]
    cases rest with
    | nil => rfl
    | cons first others => simp [stops first rfl]

theorem ofCharacter_operator {symbol : Operator} {more : List Char}
    (noNumber : symbol = .subtract → startsWithDigit more = false) :
    ofCharacter symbol.symbol more = token [symbol.symbol] more (.operator symbol) := by
  have noLetter : Text.isAlphabetic symbol.symbol = false := by cases symbol <;> decide
  have noDigit : symbol.symbol.isDigit = false := by cases symbol <;> decide
  have noSign : symbol.symbol ≠ '=' ∧ symbol.symbol ≠ '@' ∧ symbol.symbol ≠ '"' := by
    cases symbol <;> decide
  have noSignedNumber : (symbol.symbol = '-' && startsWithDigit more) = false := by
    cases symbol with
    | subtract => simpa [Operator.symbol] using noNumber rfl
    | _ => rfl
  simp [ofCharacter, noLetter, noDigit, noSign, noSignedNumber, Operator.ofChar?_symbol]

end Scan

theorem LexMode.Cuts.of_token {mode : LexMode} {lexeme rest : List Char} {kind : Token.Kind}
    (cut : mode.cut (lexeme ++ rest) = .token lexeme rest kind) : mode.Cuts lexeme rest kind := by
  rw [Cuts, cut]
  exact ⟨rfl, rfl⟩

theorem cuts_variable {name rest : List Char} (named : IsVariableName name)
    (stopped : StartsBlank rest) :
    LexMode.tag.Cuts name rest (.variable (String.ofList name)) := by
  obtain ⟨first, others, shape, letter⟩ := named.letter
  have above := Text.le_of_isAlphabetic letter
  have solid : isTagBlank first = false := by
    apply Bool.eq_false_iff.mpr
    intro isBlank
    have noName := isNameCharacter_of_isTagBlank isBlank
    simp [isNameCharacter, letter] at noName
  have scanned : LexMode.tag.cut (name ++ rest) = Scan.ofVariable (name ++ rest) := by
    have noLoopWord : ¬['F', 'O', 'R'] <+: name ++ rest := fun ahead =>
      named.noLoopWord (prefix_of_prefix_append (by simp [Scan.isLiteralCharacter, isTagBlank])
        stopped.stopsAt_literal ahead)
    have noEndWord : ¬['E', 'N', 'D'] <+: name ++ rest := fun ahead =>
      named.noEndWord (prefix_of_prefix_append (by simp [Scan.isLiteralCharacter, isTagBlank])
        stopped.stopsAt_literal ahead)
    rw [shape, List.cons_append] at noLoopWord noEndWord ⊢
    rw [cut_of_solid solid, Scan.scan_eq_ofCharacter _ _ noLoopWord noEndWord,
      Scan.ofCharacter_of_isAlphabetic _ letter]
    · rintro ahead
      obtain ⟨rfl, _⟩ := List.cons_prefix_cons.mp ahead
      revert letter
      decide
    · rintro ahead
      obtain ⟨rfl, _⟩ := List.cons_prefix_cons.mp ahead
      revert above
      decide
  refine .of_token (scanned.trans (Scan.ofVariable_eq_token_iff.mpr ?_))
  exact ⟨named.plain, stopped.stopsAt_literal, rfl⟩

theorem cuts_function {name rest : List Char} (named : IsFunctionName name)
    (stopped : StartsBlank rest) :
    LexMode.tag.Cuts ('@' :: name) rest (.function (String.ofList name)) := by
  have scanned : LexMode.tag.cut ('@' :: name ++ rest) = Scan.ofFunction (name ++ rest) := by
    rw [List.cons_append, Scan.cut_eq_ofCharacter _ (by decide) (by decide)]
    simp [Scan.ofCharacter]
  exact .of_token (scanned.trans (Scan.ofFunction_eq_token_iff.mpr ⟨named, stopped, rfl⟩))

theorem cuts_string {body : List Char} (rest : List Char) (unquoted : '"' ∉ body) :
    LexMode.tag.Cuts ('"' :: body ++ ['"']) rest
      (.string (String.ofList (Text.unescapeLineBreaks body))) := by
  have scanned : LexMode.tag.cut ('"' :: (body ++ ['"']) ++ rest) =
      Scan.ofString (body ++ ['"'] ++ rest) := by
    rw [List.cons_append, Scan.cut_eq_ofCharacter _ (by decide) (by decide)]
    simp [Scan.ofCharacter]
  exact .of_token (scanned.trans (Scan.ofString_eq_token_iff.mpr ⟨body, rfl, unquoted, rfl⟩))

theorem cuts_operator {rest : List Char} (symbol : Operator)
    (noNumber : Scan.startsWithDigit rest = false) :
    LexMode.tag.Cuts [symbol.symbol] rest (.operator symbol) := by
  have solid : isTagBlank symbol.symbol = false := by cases symbol <;> decide
  have noMark : symbol.symbol ∉ ['{', '$', 'F', 'E'] := by cases symbol <;> decide
  refine .of_token ?_
  rw [List.singleton_append, Scan.cut_eq_ofCharacter _ solid noMark,
    Scan.ofCharacter_operator fun _ => noNumber]

theorem cuts_number {first : Char} {others rest : List Char} {number : Number}
    (starts : first.isDigit = true ∨ first = '-' ∧ Scan.startsWithDigit others = true)
    (plain : ∀ character ∈ first :: others, Scan.isLiteralCharacter character = true)
    (denotes : Number.ofLiteral? (first :: others) = some number) (stopped : StartsBlank rest) :
    LexMode.tag.Cuts (first :: others) rest number.kind := by
  have solid : isTagBlank first = false := by
    have literal := plain first (by simp)
    simp only [Scan.isLiteralCharacter, Bool.and_eq_true, Bool.not_eq_true'] at literal
    exact literal.1
  have noMark : first ∉ ['{', '$', 'F', 'E'] := by
    rcases starts with digit | ⟨rfl, _⟩
    · intro mark
      simp only [List.mem_cons, List.not_mem_nil, or_false] at mark
      rcases mark with rfl | rfl | rfl | rfl <;> simp at digit
    · decide
  have startsWhole :
      first.isDigit = true ∨ first = '-' ∧ Scan.startsWithDigit (others ++ rest) = true := by
    cases others with
    | nil => exact Or.inl (by simpa [Scan.startsWithDigit] using starts)
    | cons next others => exact starts
  have scanned : LexMode.tag.cut (first :: others ++ rest) =
      Scan.ofNumber (first :: others ++ rest) := by
    rw [List.cons_append, Scan.cut_eq_ofCharacter _ solid noMark,
      Scan.ofCharacter_of_number startsWhole]
  refine .of_token (scanned.trans (Scan.ofNumber_eq_token_iff.mpr ?_))
  exact ⟨takeWhile_eq_left_iff.mpr ⟨plain, stopped.stopsAt_literal⟩, number, denotes, rfl⟩

end TagTemplate
