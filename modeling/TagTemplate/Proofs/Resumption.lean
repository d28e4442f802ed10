import TagTemplate.Proofs.LexicalErrors
import TagTemplate.Proofs.SourceTiling

/-!
Lexing on after errors. A lexer that is asked for the next token again and again, whatever it has
answered, comes to the end of its source. Every answer until then consumes characters; the end of
input is given out once, and from then on every call fails. Errors never change the mode.
-/

namespace TagTemplate

namespace Lexer

abbrev Answer := Except LexError Token

def Answer.span : Answer → Span
  | .ok token => token.span
  | .error error => error.span

def Answer.Early : Answer → Prop
  | .ok token => token.kind ≠ .endOfInput
  | .error error => error.cause ≠ .exhausted

def resumed (lexer : Lexer) : Nat → Lexer
  | 0 => lexer
  | calls + 1 => lexer.next.2.resumed calls

def answers (lexer : Lexer) : Nat → List Answer
  | 0 => []
  | calls + 1 => lexer.next.1 :: lexer.next.2.answers calls

/-- The calls on a lexer first have these answers, each of which ends behind the one before, then
the end of input, and from then on nothing but failures. -/
structure EndsOnce (source : String) (front : List Answer) : Prop where
  few : front.length ≤ source.length
  early : ∀ answer ∈ front, answer.Early
  advancing : front.Pairwise fun earlier later => earlier.span.stop < later.span.stop
  ended : ∀ later, (ofSource source).answers (front.length + 1 + later) =
    front ++ .ok ⟨.endOfInput, .point source.utf8ByteSize⟩ ::
      List.replicate later (.error ⟨.exhausted, .point source.utf8ByteSize⟩)
  still : ∀ later, ((ofSource source).resumed (front.length + 1 + later)).mode =
    ((ofSource source).resumed (front.length + 1)).mode
  mode : ∀ calls, ((ofSource source).resumed calls).mode = .tag ↔
    InsideTag (((ofSource source).answers calls).filterMap Except.toOption)

end Lexer

theorem byteLength_pos {characters : List Char} (nonempty : characters ≠ []) :
    0 < byteLength characters := by
  cases characters with
  | nil => contradiction
  | cons first others =>
      have := first.utf8Size_pos
      simp only [byteLength, List.foldr_cons]
      omega

namespace Lexer

structure Advances (lexer : Lexer) (answer : Answer) (after : Lexer) : Prop where
  early : answer.Early
  active : after.finished = false
  shorter : after.rest.length < lexer.rest.length
  onward : lexer.offset < after.offset
  whole : after.offset + byteLength after.rest = lexer.offset + byteLength lexer.rest
  stop : answer.span.stop = min after.offset Span.limit

structure Finishes (lexer : Lexer) (answer : Answer) (after : Lexer) : Prop where
  answer_eq : answer = .ok ⟨.endOfInput, .ofRange after.offset after.offset⟩
  finished : after.finished = true
  whole : after.offset = lexer.offset + byteLength lexer.rest

/-- A call covers the lexeme behind the characters it passes over. Only at the end of the input is
the lexeme empty, and an error names its own. -/
structure Covers (lexer : Lexer) (answer : Answer) (after : Lexer) (passed lexeme : List Char) :
    Prop where
  whole : lexer.rest = passed ++ lexeme ++ after.rest
  offset : after.offset = lexer.offset + byteLength passed + byteLength lexeme
  span : answer.span = .ofRange (lexer.offset + byteLength passed) after.offset
  early : lexeme ≠ [] → answer.Early ∧ after.finished = false
  ended : lexeme = [] → after.rest = [] ∧ after.finished = true ∧
    ∃ span, answer = .ok ⟨.endOfInput, span⟩
  names : ∀ error, answer = .error error → error.cause.Names (String.ofList lexeme)

theorem exists_covers {lexer : Lexer} (active : lexer.finished = false) :
    ∃ passed lexeme, lexer.Covers lexer.next.1 lexer.next.2 passed lexeme := by
  obtain ⟨ahead, whole⟩ := lexer.mode.blanks_prefix lexer.rest
  unfold next
  rw [if_neg (by simp [active])]
  simp only
  generalize lexer.mode.blanks lexer.rest = gap at whole ⊢
  rw [← whole, List.drop_left]
  cases ahead with
  | nil =>
      refine ⟨gap, [], ?_⟩
      constructor
      case whole => simp [LexMode.scan, Scan.token, ← whole]
      case offset => simp [LexMode.scan, Scan.token, byteLength_nil]
      case span => simp [LexMode.scan, Scan.token, byteLength_nil, Answer.span]
      case early => exact fun nonempty => absurd rfl nonempty
      case ended => exact fun _ => ⟨rfl, rfl, _, rfl⟩
      case names => rintro _ ⟨⟩
  | cons first others =>
      obtain ⟨tiles, nonempty⟩ := lexer.mode.scan_tiles first others
      have noEnd := fun ended => List.cons_ne_nil first others (lexer.mode.eq_nil_of_scan ended)
      have names := lexer.mode.scan_names (first :: others)
      generalize lexer.mode.scan (first :: others) = scan at tiles nonempty noEnd names ⊢
      refine ⟨gap ++ scan.passed, scan.lexeme, ?_⟩
      rw [← tiles] at whole
      cases cut : scan.outcome with
      | ok kind =>
          have inside : kind ≠ .endOfInput := fun last => noEnd (last ▸ cut)
          have active := Token.Kind.isEndOfInput_eq_false inside
          constructor
          case whole => simp only [← whole, List.append_assoc]
          case offset => simp only [byteLength_append, Nat.add_assoc]
          case span => simp only [Answer.span, byteLength_append, Nat.add_assoc]
          case early => exact fun _ => ⟨inside, active⟩
          case ended => exact fun empty => absurd empty nonempty
          case names => rintro _ ⟨⟩
      | error cause =>
          have named := names cause cut
          constructor
          case whole => simp only [← whole, List.append_assoc]
          case offset => simp only [byteLength_append, Nat.add_assoc]
          case span => simp only [Answer.span, byteLength_append, Nat.add_assoc]
          case early => exact fun _ => ⟨named.ne_exhausted, rfl⟩
          case ended => exact fun empty => absurd empty nonempty
          case names =>
            rintro _ ⟨⟩
            exact named

theorem next_of_active {lexer : Lexer} (active : lexer.finished = false) :
    lexer.Advances lexer.next.1 lexer.next.2 ∨ lexer.Finishes lexer.next.1 lexer.next.2 := by
  obtain ⟨passed, lexeme, covers⟩ := exists_covers active
  have offset := covers.offset
  have size := congrArg byteLength covers.whole
  have count := congrArg List.length covers.whole
  simp only [byteLength_append, List.length_append] at size count
  by_cases empty : lexeme = []
  · right
    obtain ⟨left, finished, place, answer⟩ := covers.ended empty
    have span := covers.span
    rw [answer] at span
    obtain rfl : place = _ := span
    rw [empty, byteLength_nil, Nat.add_zero] at offset
    rw [empty, left, byteLength_nil] at size
    constructor
    case answer_eq => rw [answer, ← offset]
    case finished => exact finished
    case whole => omega
  · left
    obtain ⟨early, active⟩ := covers.early empty
    have consumed := byteLength_pos empty
    have characters := List.length_pos_iff.mpr empty
    constructor
    case early => exact early
    case active => exact active
    case stop => exact congrArg Span.stop covers.span
    all_goals omega

theorem next_of_finished {lexer : Lexer} (finished : lexer.finished = true) :
    lexer.next = (.error ⟨.exhausted, .ofRange lexer.offset lexer.offset⟩, lexer) := by
  simp [next, finished]

theorem answers_of_finished {lexer : Lexer} (finished : lexer.finished = true) (calls : Nat) :
    lexer.answers calls =
      List.replicate calls (.error ⟨.exhausted, .ofRange lexer.offset lexer.offset⟩) := by
  induction calls with
  | zero => rfl
  | succ calls ih => rw [answers, next_of_finished finished, ih, List.replicate_succ]

inductive Drives : Lexer → List Answer → Lexer → Prop
  | finish {lexer} : lexer.Finishes lexer.next.1 lexer.next.2 → Drives lexer [] lexer
  | advance {lexer front last} : lexer.Advances lexer.next.1 lexer.next.2 →
      Drives lexer.next.2 front last → Drives lexer (lexer.next.1 :: front) last

theorem exists_drives (lexer : Lexer) (active : lexer.finished = false) :
    ∃ front last, lexer.Drives front last := by
  generalize count : lexer.rest.length = characters
  induction characters using Nat.strongRecOn generalizing lexer with
  | ind characters ih =>
      rcases next_of_active active with advances | finishes
      · obtain ⟨front, last, drives⟩ := ih _ (count ▸ advances.shorter) _ advances.active rfl
        exact ⟨_, last, .advance advances drives⟩
      · exact ⟨[], lexer, .finish finishes⟩

namespace Drives

variable {lexer last : Lexer} {front : List Answer}

theorem length_le (drives : lexer.Drives front last) : front.length ≤ lexer.rest.length := by
  induction drives with
  | finish _ => exact Nat.zero_le _
  | advance advances _ ih =>
      have := advances.shorter
      simp only [List.length_cons]
      omega

theorem early (drives : lexer.Drives front last) : ∀ answer ∈ front, answer.Early := by
  induction drives with
  | finish _ => simp
  | advance advances _ ih => exact List.forall_mem_cons.mpr ⟨advances.early, ih⟩

theorem finishes (drives : lexer.Drives front last) : last.Finishes last.next.1 last.next.2 := by
  induction drives with
  | finish finishes => exact finishes
  | advance _ _ ih => exact ih

theorem whole (drives : lexer.Drives front last) :
    last.offset + byteLength last.rest = lexer.offset + byteLength lexer.rest := by
  induction drives with
  | finish _ => rfl
  | advance advances _ ih => rw [ih, advances.whole]

theorem answers_add (drives : lexer.Drives front last) (calls : Nat) :
    lexer.answers (front.length + calls) = front ++ last.answers calls := by
  induction drives with
  | finish _ => simp
  | advance _ _ ih =>
      rw [List.length_cons, Nat.succ_add_eq_add_succ, Nat.add_succ, answers, ih, List.cons_append]

theorem advancing (drives : lexer.Drives front last)
    (short : lexer.offset + byteLength lexer.rest ≤ Span.limit) :
    (∀ answer ∈ front, lexer.offset < answer.span.stop) ∧
      front.Pairwise fun earlier later => earlier.span.stop < later.span.stop := by
  induction drives with
  | finish _ => simp
  | @advance lexer front last advances _ ih =>
      rw [advances.whole] at ih
      obtain ⟨beyond, ordered⟩ := ih short
      have onward := advances.onward
      have stop := advances.stop
      have whole := advances.whole
      rw [Nat.min_eq_left (by omega)] at stop
      constructor
      · refine List.forall_mem_cons.mpr ⟨by omega, ?_⟩
        intro answer member
        exact onward.trans (beyond answer member)
      · refine List.pairwise_cons.mpr ⟨?_, ordered⟩
        intro answer member
        rw [stop]
        exact beyond answer member

end Drives

theorem Finishes.answers_succ {lexer : Lexer} (finishes : lexer.Finishes lexer.next.1 lexer.next.2)
    (short : lexer.offset + byteLength lexer.rest ≤ Span.limit) (later : Nat) :
    lexer.answers (later + 1) =
      .ok ⟨.endOfInput, .point (lexer.offset + byteLength lexer.rest)⟩ ::
        List.replicate later (.error ⟨.exhausted, .point (lexer.offset + byteLength lexer.rest)⟩) := by
  have exact : Span.ofRange lexer.next.2.offset lexer.next.2.offset =
      .point (lexer.offset + byteLength lexer.rest) := by
    rw [finishes.whole, Span.ofRange, Nat.min_eq_left short, Span.point]
  rw [answers, answers_of_finished finishes.finished, finishes.answer_eq, exact]

theorem mode_resumed (lexer : Lexer) (calls : Nat) :
    (lexer.resumed calls).mode =
      lexer.mode.afterAll ((lexer.answers calls).filterMap Except.toOption) := by
  induction calls generalizing lexer with
  | zero => rfl
  | succ calls ih =>
      rw [resumed, ih, next_mode, answers]
      cases lexer.next.1 <;> rfl

/-- Whatever the source, the lexer comes to its end, once. -/
theorem exists_endsOnce {source : String} (short : source.utf8ByteSize < 2 ^ 32) :
    ∃ front, EndsOnce source front := by
  have size := byteLength_toList source
  obtain ⟨front, last, drives⟩ := exists_drives (ofSource source) rfl
  have total : last.offset + byteLength last.rest = source.utf8ByteSize := by
    rw [drives.whole, ← size]
    exact Nat.zero_add _
  have fits : source.utf8ByteSize ≤ Span.limit := Nat.le_of_lt_succ short
  have ended : ∀ later, (ofSource source).answers (front.length + 1 + later) =
      front ++ .ok ⟨.endOfInput, .point source.utf8ByteSize⟩ ::
        List.replicate later (.error ⟨.exhausted, .point source.utf8ByteSize⟩) := by
    intro later
    have final := drives.finishes.answers_succ (by rw [total]; exact fits) later
    rw [total] at final
    rw [Nat.add_assoc, Nat.add_comm 1 later, drives.answers_add, final]
  refine ⟨front, ?_⟩
  constructor
  case few => exact drives.length_le
  case early => exact drives.early
  case advancing =>
    refine (drives.advancing ?_).2
    rw [← drives.whole, total]
    exact fits
  case ended => exact ended
  case still =>
    intro later
    -- Failures leave no token behind that could change the mode.
    rw [mode_resumed, mode_resumed, ended, ended 0]
    simp [List.filterMap_append, List.filterMap_replicate, Except.toOption]
  case mode =>
    intro calls
    rw [mode_resumed]
    exact LexMode.afterAll_eq_tag_iff _

def brokenSource : String :=
  "é\x7b$ ? 1x é! @é! @ \"ü"

def brokenAnswers : List Answer :=
  [.ok ⟨.text "é", ⟨0, 2⟩⟩, .ok ⟨.startTag, ⟨2, 4⟩⟩, .error ⟨.unrecognizedCharacter '?', ⟨5, 6⟩⟩,
    .error ⟨.malformedNumber "1x", ⟨7, 9⟩⟩, .error ⟨.invalidVariableCharacter '!', ⟨12, 13⟩⟩,
    .error ⟨.invalidFunctionCharacter '!', ⟨17, 18⟩⟩, .error ⟨.emptyFunctionName, ⟨19, 20⟩⟩,
    .error ⟨.unterminatedString, ⟨21, 24⟩⟩, .ok ⟨.endOfInput, ⟨24, 24⟩⟩,
    .error ⟨.exhausted, ⟨24, 24⟩⟩]

theorem answers_brokenSource : (ofSource brokenSource).answers 10 = brokenAnswers := by
  cbv

theorem endsOnce_brokenSource :
    brokenSource.utf8ByteSize < 2 ^ 32 ∧ (ofSource brokenSource).answers 10 = brokenAnswers ∧
      ∃ front, EndsOnce brokenSource front :=
  ⟨by decide, answers_brokenSource, exists_endsOnce (by decide)⟩

end Lexer

end TagTemplate
