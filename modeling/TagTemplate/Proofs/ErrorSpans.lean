import TagTemplate.Document.Parsing
import TagTemplate.Proofs.Resumption
import TagTemplate.Report.CharRange

/-!
Where errors point. The span of an error covers the text that the error complains about, and a
diagnostic marks the characters of this text and no others. Only where the end of the input comes
too early is there nothing to mark.
-/

namespace TagTemplate

/-- A span points at a text in a source: its offsets are those of the bytes of the text, and it is
shown as the range of the characters of the text. -/
structure Span.PointsAt (span : Span) (source text : String) : Prop where
  ordered : span.start ≤ span.stop
  within : span.stop ≤ source.utf8ByteSize
  exact : ∃ before after, source = before ++ text ++ after ∧
    span = ⟨before.utf8ByteSize, (before ++ text).utf8ByteSize⟩ ∧
    span.charRange source.toList = (before.length, (before ++ text).length)

theorem charactersBefore_append (before after : List Char) :
    charactersBefore (before ++ after) (byteLength before) = before.length := by
  induction before with
  | nil => cases after <;> rfl
  | cons character others ih =>
      have size : byteLength (character :: others) = byteLength others + character.utf8Size :=
        Nat.add_comm _ _
      have positive := character.utf8Size_pos
      rw [List.cons_append, charactersBefore, size, Nat.add_sub_cancel, ih, List.length_cons]
      omega

theorem charactersBefore_utf8ByteSize (before after : String) :
    charactersBefore (before ++ after).toList before.utf8ByteSize = before.length := by
  rw [String.toList_append, ← byteLength_toList, charactersBefore_append, String.length_toList]

theorem Span.Selects.pointsAt {span : Span} {source text : String}
    (selects : span.Selects source text)
    (atEnd : text = "" → span.stop = source.utf8ByteSize) : span.PointsAt source text := by
  obtain ⟨before, after, rfl, rfl⟩ := selects
  have start : charactersBefore (before ++ text ++ after).toList before.utf8ByteSize =
      before.length := by
    rw [String.append_assoc]
    exact charactersBefore_utf8ByteSize before (text ++ after)
  have stop : charactersBefore (before ++ text ++ after).toList (before ++ text).utf8ByteSize =
      (before ++ text).length := charactersBefore_utf8ByteSize (before ++ text) after
  have total : (before ++ text ++ after).toList.length =
      before.length + text.length + after.length := by
    simp only [String.length_toList, String.length_append]
  have ordered : before.length ≤ (before ++ text).length := by simp
  constructor
  case ordered => simp [String.utf8ByteSize_append]
  case within => simp [String.utf8ByteSize_append]
  case exact =>
    refine ⟨before, after, rfl, rfl, ?_⟩
    simp only [charRange, start, stop, Nat.max_eq_right ordered]
    rw [if_neg]
    rintro ⟨nothing, more⟩
    rw [total, String.length_append] at more
    have empty : text = "" := by
      rw [← String.length_eq_zero_iff]
      simpa using nothing
    have closing : after = "" := by
      simpa [String.utf8ByteSize_append] using atEnd empty
    simp [closing] at more

def Span.Visible (source : String) (span : Span) : Prop :=
  ∃ text, text ≠ "" ∧ span.Selects source text

def Boundary (source : String) (offset : Nat) : Prop :=
  ∃ before after, source = before ++ after ∧ offset = before.utf8ByteSize

theorem eq_append_of_toList_eq {text front : String} {back : List Char}
    (same : text.toList = front.toList ++ back) : text = front ++ String.ofList back := by
  rw [← String.ofList_toList (s := text), same, String.ofList_append, String.ofList_toList]

theorem exists_eq_append_of_lt {before behind front after : String}
    (same : before ++ behind = front ++ after)
    (shorter : before.utf8ByteSize < front.utf8ByteSize) : ∃ text, front = before ++ text := by
  have lists := congrArg String.toList same
  rw [String.toList_append, String.toList_append] at lists
  rcases List.append_eq_append_iff.mp lists with ⟨between, longer, _⟩ | ⟨between, longer, _⟩
  · exact ⟨_, eq_append_of_toList_eq longer⟩
  · have size := congrArg String.utf8ByteSize (eq_append_of_toList_eq longer)
    rw [String.utf8ByteSize_append] at size
    omega

theorem Span.visible_iff {source : String} {span : Span} : span.Visible source ↔
    Boundary source span.start ∧ Boundary source span.stop ∧ span.start < span.stop := by
  constructor
  · rintro ⟨text, nonempty, before, after, rfl, rfl⟩
    refine ⟨⟨before, text ++ after, String.append_assoc, rfl⟩, ⟨before ++ text, after, rfl, rfl⟩, ?_⟩
    have positive : text.utf8ByteSize ≠ 0 := mt String.utf8ByteSize_eq_zero_iff.mp nonempty
    simp only [String.utf8ByteSize_append]
    omega
  · obtain ⟨_, _⟩ := span
    rintro ⟨⟨before, behind, whole, rfl⟩, ⟨front, after, rfl, rfl⟩, ordered⟩
    obtain ⟨text, rfl⟩ := exists_eq_append_of_lt whole.symm ordered
    refine ⟨text, ?_, before, after, rfl, rfl⟩
    rintro rfl
    simp at ordered

theorem Span.Visible.merge {source : String} {left right : Span} (first : left.Visible source)
    (second : right.Visible source) : (left.merge right).Visible source := by
  rw [visible_iff] at first second ⊢
  obtain ⟨start, stop, ordered⟩ := first
  obtain ⟨start', stop', ordered'⟩ := second
  refine ⟨?_, ?_, ?_⟩
  · rcases min_choice left.start right.start with choice | choice <;> rw [Span.merge, choice]
    · exact start
    · exact start'
  · rcases max_choice left.stop right.stop with choice | choice <;> rw [Span.merge, choice]
    · exact stop
    · exact stop'
  · simp only [Span.merge]
    omega

namespace Lexer

/-- A lexer that has come through some characters of a source. -/
structure Behind (lexer : Lexer) (source : String) (before : List Char) : Prop where
  whole : source.toList = before ++ lexer.rest
  offset : lexer.offset = byteLength before

namespace Covers

variable {lexer after : Lexer} {answer : Answer} {passed lexeme before : List Char}
  {source : String}

theorem behind (covers : lexer.Covers answer after passed lexeme)
    (reached : lexer.Behind source before) :
    after.Behind source (before ++ passed ++ lexeme) where
  whole := by simp only [reached.whole, covers.whole, List.append_assoc]
  offset := by simp only [covers.offset, reached.offset, byteLength_append]

theorem selects (covers : lexer.Covers answer after passed lexeme)
    (reached : lexer.Behind source before) (short : source.utf8ByteSize ≤ Span.limit) :
    answer.span.Selects source (String.ofList lexeme) := by
  have whole : source = String.ofList (before ++ passed ++ lexeme ++ after.rest) := by
    rw [← (covers.behind reached).whole, String.ofList_toList]
  have offset := (covers.behind reached).offset
  have size := congrArg String.utf8ByteSize whole
  simp only [utf8ByteSize_ofList, byteLength_append] at size offset
  have exact : answer.span =
      ⟨byteLength (before ++ passed), byteLength (before ++ passed) + byteLength lexeme⟩ := by
    rw [covers.span, reached.offset, offset, byteLength_append, Span.ofRange,
      Nat.min_eq_left (by omega), Nat.min_eq_left (by omega)]
  rw [exact, whole]
  exact selects_ofList _ _ _

theorem nonempty {token : Token} (covers : lexer.Covers (.ok token) after passed lexeme)
    (more : token.kind.isEndOfInput = false) : lexeme ≠ [] := by
  rintro empty
  obtain ⟨-, -, span, last⟩ := covers.ended empty
  cases last
  cases more

end Covers

theorem ofList_ne_empty {characters : List Char} (nonempty : characters ≠ []) :
    String.ofList characters ≠ "" :=
  fun empty => nonempty (String.ofList_injective empty)

variable {lexer : Lexer} {seen : List Token} {before : List Char} {source : String}

theorem selects_of_collect_error {error : LexError} (failed : lexer.collect seen = .error error)
    (active : lexer.finished = false) (reached : lexer.Behind source before)
    (short : source.utf8ByteSize ≤ Span.limit) :
    ∃ text, text ≠ "" ∧ error.span.Selects source text ∧ error.cause.Names text := by
  fun_induction collect lexer seen generalizing before with
  | case1 lexer seen found after stepped =>
      obtain ⟨passed, lexeme, covers⟩ := exists_covers active
      rw [stepped] at covers
      cases failed
      refine ⟨String.ofList lexeme, ofList_ne_empty fun empty => ?_,
        covers.selects reached short, covers.names _ rfl⟩
      obtain ⟨-, -, span, last⟩ := covers.ended empty
      cases last
  | case2 lexer seen token after stepped more ih =>
      obtain ⟨passed, lexeme, covers⟩ := exists_covers active
      rw [stepped] at covers
      exact ih failed (covers.early (covers.nonempty more)).2 (covers.behind reached)
  | case3 lexer seen token after stepped ended => cases failed

theorem visible_of_collect {tokens : List Token} (collected : lexer.collect seen = .ok tokens)
    (active : lexer.finished = false) (reached : lexer.Behind source before)
    (short : source.utf8ByteSize ≤ Span.limit) :
    ∃ front, tokens = seen.reverse ++ front ++ [⟨.endOfInput, .point source.utf8ByteSize⟩] ∧
      ∀ token ∈ front, token.kind.isEndOfInput = false ∧ token.span.Visible source := by
  fun_induction collect lexer seen generalizing before with
  | case1 lexer seen error after stepped => cases collected
  | case2 lexer seen token after stepped more ih =>
      obtain ⟨passed, lexeme, covers⟩ := exists_covers active
      rw [stepped] at covers
      have nonempty := covers.nonempty more
      obtain ⟨front, rfl, visible⟩ := ih collected (covers.early nonempty).2 (covers.behind reached)
      refine ⟨token :: front, by simp, List.forall_mem_cons.mpr ⟨⟨more, ?_⟩, visible⟩⟩
      exact ⟨_, ofList_ne_empty nonempty, covers.selects reached short⟩
  | case3 lexer seen token after stepped ended =>
      obtain ⟨passed, lexeme, covers⟩ := exists_covers active
      rw [stepped] at covers
      have last := Token.Kind.eq_endOfInput (Bool.eq_true_of_not_eq_false ended)
      have empty : lexeme = [] := by
        by_contra nonempty
        exact (covers.early nonempty).1 last
      obtain ⟨left, -, place, same⟩ := covers.ended empty
      obtain ⟨whole, offset⟩ := covers.behind reached
      cases same
      have size : after.offset = source.utf8ByteSize := by
        rw [offset, ← byteLength_toList, whole, left, List.append_nil]
      have start := covers.offset
      rw [empty, byteLength_nil, Nat.add_zero] at start
      have point : place = .point source.utf8ByteSize := by
        have span : place = _ := covers.span
        rw [span, ← start, size, Span.ofRange, Nat.min_eq_left short, Span.point]
      refine ⟨[], ?_, by simp⟩
      simpa [point] using collected.symm

end Lexer

/-- Where the error of a parse points. -/
def ParseError.Located (source : String) (error : ParseError) : Prop :=
  match error.cause with
  | .lexical cause => ∃ text, text ≠ "" ∧ error.span.Selects source text ∧ cause.Names text
  | .unexpectedEnd => error.span = .point source.utf8ByteSize
  | _ => error.span.Visible source

theorem ParseError.Located.exists_text {source : String} {error : ParseError}
    (located : error.Located source) :
    ∃ text, error.span.Selects source text ∧ (text = "" ↔ error.cause = .unexpectedEnd) ∧
      (error.cause = .unexpectedEnd → error.span = .point source.utf8ByteSize) ∧
      ∀ cause, error.cause = .lexical cause → cause.Names text := by
  obtain ⟨cause, span⟩ := error
  cases cause with
  | lexical cause =>
      obtain ⟨text, nonempty, selects, names⟩ := located
      exact ⟨text, selects, by simp [nonempty], by simp,
        fun _ same => Cause.lexical.inj same ▸ names⟩
  | unexpectedEnd =>
      obtain rfl : span = .point source.utf8ByteSize := located
      exact ⟨"", ⟨source, "", by simp [Span.point]⟩, by simp, fun _ => rfl, by simp⟩
  | _ =>
      obtain ⟨text, nonempty, selects⟩ := located
      exact ⟨text, selects, by simp [nonempty], by simp, by simp⟩

def Position.span? : Position → Option Span
  | .loopVariable start | .loopBounds start _ _ => some start
  | .endOfEndTag word => some word
  | .content | .tag | .echo _ => none

namespace Draft

structure Visible (source : String) (draft : Draft) : Prop where
  position : ∀ span, draft.position.span? = some span → span.Visible source
  loops : ∀ loop ∈ draft.openLoops, loop.span.Visible source

def Outcome (source : String) : Except ParseError Draft → Prop
  | .ok next => next.Visible source
  | .error error => error.Located source

variable {source : String} {draft : Draft}

theorem kept_of_none {position : Position} (nothing : position.span? = none) :
    ∀ span, position.span? = some span → span.Visible source := by
  simp [nothing]

theorem visible_empty : empty.Visible source :=
  ⟨kept_of_none rfl, fun _ member => absurd member List.not_mem_nil⟩

theorem Visible.moveTo (visible : draft.Visible source) {position : Position}
    (kept : ∀ span, position.span? = some span → span.Visible source) :
    (draft.moveTo position).Visible source :=
  ⟨kept, visible.loops⟩

theorem Visible.attach (visible : draft.Visible source) (node : Node) :
    (draft.attach node).Visible source :=
  ⟨kept_of_none rfl, visible.loops⟩

theorem Visible.finishHeader (visible : draft.Visible source) {span : Span}
    (seen : span.Visible source) (loopVariable : String) (bounds : List Element) :
    Outcome source (draft.finishHeader span loopVariable bounds) := by
  unfold Draft.finishHeader
  split
  · exact ⟨kept_of_none rfl, List.forall_mem_cons.mpr ⟨seen, visible.loops⟩⟩
  · exact ⟨kept_of_none rfl, List.forall_mem_cons.mpr ⟨seen, visible.loops⟩⟩
  · exact seen

theorem Visible.addBound (visible : draft.Visible source) {start : Span} {token : Token}
    (begun : start.Visible source) (seen : token.span.Visible source) (loopVariable : String)
    (reversedBounds : List Element) :
    Outcome source (draft.addBound start loopVariable reversedBounds token) := by
  unfold Draft.addBound
  split
  · exact seen
  · exact seen
  · exact visible.moveTo fun _ kept => Option.some.inj kept ▸ begun
  · exact seen

theorem Visible.closeLoop (visible : draft.Visible source) {word : Span}
    (seen : word.Visible source) : Outcome source (draft.closeLoop word) := by
  unfold Draft.closeLoop
  split
  · exact seen
  · rename_i innermost others opened
    have loops := visible.loops
    rw [opened] at loops
    exact ⟨kept_of_none rfl, (List.forall_mem_cons.mp loops).2⟩

theorem Visible.step (visible : draft.Visible source) {token : Token}
    (seen : token.span.Visible source) : Outcome source (draft.step token) := by
  have kept := visible.position
  unfold Draft.step
  -- The cases are the lines of the definition, in its order.
  split
  · exact visible.attach _
  · exact visible.moveTo (kept_of_none rfl)
  · exact seen
  · exact visible.moveTo fun _ same => Option.some.inj same ▸ seen
  · exact visible.moveTo (kept_of_none rfl)
  · exact visible.moveTo fun _ same => Option.some.inj same ▸ seen
  · exact seen
  · rename_i place _
    rw [place] at kept
    exact visible.moveTo kept
  · exact seen
  · rename_i place _
    rw [place] at kept
    exact visible.finishHeader ((kept _ rfl).merge seen) _ _
  · rename_i place _
    rw [place] at kept
    exact visible.addBound (kept _ rfl) seen _ _
  · exact visible.attach _
  · split
    · exact visible.moveTo (kept_of_none rfl)
    · exact seen
  · rename_i place _
    rw [place] at kept
    exact visible.closeLoop (kept _ rfl)
  · exact seen

theorem Visible.finish (visible : draft.Visible source) {error : ParseError}
    (failed : draft.finish (.point source.utf8ByteSize) = .error error) : error.Located source := by
  unfold Draft.finish at failed
  split at failed
  · cases failed
  · rename_i innermost others _ opened
    cases failed
    exact visible.loops innermost (opened ▸ List.mem_cons_self)
  · cases failed
    rfl

theorem Visible.complete {front : List Token} {last : Span} {error : ParseError}
    (visible : draft.Visible source)
    (seen : ∀ token ∈ front, token.kind.isEndOfInput = false ∧ token.span.Visible source)
    (failed : draft.complete last (front ++ [⟨.endOfInput, .point source.utf8ByteSize⟩]) =
      .error error) : error.Located source := by
  induction front generalizing draft last with
  | nil =>
      rw [List.nil_append, Draft.complete] at failed
      exact visible.finish failed
  | cons token others ih =>
      obtain ⟨⟨more, here⟩, ahead⟩ := List.forall_mem_cons.mp seen
      rw [List.cons_append, Draft.complete, more] at failed
      have outcome := visible.step here
      cases stepped : draft.step token with
      | error found =>
          rw [stepped] at outcome
          simp only [stepped] at failed
          cases failed
          exact outcome
      | ok next =>
          rw [stepped] at outcome
          simp only [stepped] at failed
          exact ih outcome ahead failed

end Draft

theorem Lexer.ofSource_behind (source : String) : (ofSource source).Behind source [] :=
  ⟨rfl, rfl⟩

theorem selects_of_tokenize_error {source : String} {error : LexError}
    (short : source.utf8ByteSize < 2 ^ 32) (failed : tokenize source = .error error) :
    ∃ text, text ≠ "" ∧ error.span.Selects source text ∧ error.cause.Names text :=
  Lexer.selects_of_collect_error failed rfl (Lexer.ofSource_behind source)
    (Nat.le_of_lt_succ short)

theorem located_of_parse_error {source : String} {error : ParseError}
    (short : source.utf8ByteSize < 2 ^ 32) (failed : Document.parse source = .error error) :
    error.Located source := by
  unfold Document.parse at failed
  split at failed
  · rename_i found lexed
    cases failed
    exact selects_of_tokenize_error short lexed
  · rename_i tokens lexed
    obtain ⟨front, rfl, visible⟩ :=
      Lexer.visible_of_collect lexed rfl (Lexer.ofSource_behind source) (Nat.le_of_lt_succ short)
    exact Draft.visible_empty.complete visible failed

/-- Lexical errors point at the text they name. The errors of a parse point at some text as well,
unless the input ends inside a tag, which is an error at the end of the source. -/
theorem errors_pointAt {source : String} (short : source.utf8ByteSize < 2 ^ 32) :
    (∀ error, tokenize source = .error error →
      ∃ text, text ≠ "" ∧ error.span.PointsAt source text ∧ error.cause.Names text) ∧
    ∀ error, Document.parse source = .error error →
      ∃ text, error.span.PointsAt source text ∧
        (text = "" ↔ error.cause = .unexpectedEnd) ∧
        (error.cause = .unexpectedEnd → error.span = .point source.utf8ByteSize) ∧
        ∀ cause, error.cause = .lexical cause → cause.Names text := by
  constructor
  · intro error failed
    obtain ⟨text, nonempty, selects, names⟩ := selects_of_tokenize_error short failed
    exact ⟨text, nonempty, selects.pointsAt fun empty => absurd empty nonempty, names⟩
  · intro error failed
    obtain ⟨text, selects, empty, ended, names⟩ :=
      (located_of_parse_error short failed).exists_text
    refine ⟨text, selects.pointsAt fun nothing => ?_, empty, ended, names⟩
    rw [ended (empty.mp nothing), Span.point]

def unclosedSource : String :=
  "é\x7b$ FOR i 0 2 $\x7dü"

theorem errors_pointAt_unclosedSource :
    unclosedSource.utf8ByteSize < 2 ^ 32 ∧
      Document.parse unclosedSource = .error ⟨.unclosedLoop "i", ⟨5, 17⟩⟩ ∧
      ∃ text, Span.PointsAt ⟨5, 17⟩ unclosedSource text ∧ text ≠ "" := by
  have failed : Document.parse unclosedSource = .error ⟨.unclosedLoop "i", ⟨5, 17⟩⟩ := by cbv
  obtain ⟨text, points, nonempty, -⟩ :=
    (errors_pointAt (by decide : unclosedSource.utf8ByteSize < 2 ^ 32)).2 _ failed
  exact ⟨by decide, failed, text, points, fun empty => by simpa using nonempty.mp empty⟩

end TagTemplate
