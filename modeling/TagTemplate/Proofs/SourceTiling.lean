import Mathlib
import TagTemplate.Proofs.Decoding
import TagTemplate.Proofs.Lexing

/-!
Tokens tile their source. The spans of the tokens of a template follow one another from its first
byte to its last, each selects the text that its token stands for, and only the blanks inside tags
are left between them.
-/

namespace TagTemplate

/-- The part of a source that a span selects. Both ends of the span stand between characters. -/
def Span.Selects (span : Span) (source selected : String) : Prop :=
  ∃ before after, source = before ++ selected ++ after ∧
    span = ⟨before.utf8ByteSize, (before ++ selected).utf8ByteSize⟩

theorem Span.Selects.extract {span : Span} {source selected : String}
    (selects : span.Selects source selected) :
    source.toByteArray.extract span.start span.stop = selected.toByteArray := by
  obtain ⟨before, after, rfl, rfl⟩ := selects
  simp only [String.toByteArray_append, String.utf8ByteSize_append, ByteArray.append_assoc]
  exact (ByteArray.extract_append_size_add (j := selected.utf8ByteSize) (i := 0)).trans
    (ByteArray.extract_append_eq_left rfl)

/-- The last tag delimiter among some tokens opens a tag. -/
def InsideTag (tokens : List Token) : Prop :=
  ∃ before opening inside, tokens = before ++ opening :: inside ∧ opening.kind = .startTag ∧
    ∀ token ∈ inside, token.kind ≠ .endTag

/-- Tokens that cover a source from end to end, in order and without overlap. Each is the decoding
of the text it selects. Blanks may stand between two tokens, but only inside a tag. -/
structure Tiling (source : String) (tokens : List Token) : Prop where
  ended : ∃ front, tokens = front ++ [⟨.endOfInput, .point source.utf8ByteSize⟩] ∧
    ∀ token ∈ front, token.kind ≠ .endOfInput
  starts : ∀ token ∈ tokens.head?, token.span.start = 0
  ordered : tokens.Pairwise fun earlier later => earlier.span.stop ≤ later.span.start
  decodes : ∀ token ∈ tokens, ∃ lexeme, token.span.Selects source lexeme ∧
    token.kind.Decodes lexeme
  gaps : ∀ before left right after, tokens = before ++ left :: right :: after →
    ∃ gap, Span.Selects ⟨left.span.stop, right.span.start⟩ source gap ∧
      (∀ character ∈ gap.toList, isTagBlank character = true) ∧
      (¬InsideTag (before ++ [left]) → gap = "")

def LexMode.Skips (mode : LexMode) (gap : List Char) : Prop :=
  (∀ character ∈ gap, isTagBlank character = true) ∧ (mode = .text → gap = [])

def LexMode.Takes (mode : LexMode) (lexeme rest : List Char) (kind : Token.Kind) : Prop :=
  mode.scan (lexeme ++ rest) = .ofKind lexeme rest kind

/-- The tokens read from the characters from an offset on, the end of input last. -/
inductive Reads : LexMode → Nat → List Char → List Token → Prop
  | finish {mode offset gap} : mode.Skips gap →
      Reads mode offset gap [⟨.endOfInput, .point (offset + byteLength gap)⟩]
  | token {mode offset gap lexeme rest kind tokens} : mode.Skips gap →
      mode.Takes lexeme rest kind → kind ≠ .endOfInput →
      Reads (mode.after kind) (offset + byteLength gap + byteLength lexeme) rest tokens →
      Reads mode offset (gap ++ lexeme ++ rest)
        (⟨kind, ⟨offset + byteLength gap, offset + byteLength gap + byteLength lexeme⟩⟩ :: tokens)

inductive Lays : LexMode → Nat → List Char → List Token → Prop
  | finish {mode offset gap token} : mode.Skips gap → token.kind = .endOfInput →
      token.span = .point (offset + byteLength gap) → Lays mode offset gap [token]
  | token {mode offset gap lexeme rest token tokens} : mode.Skips gap →
      token.kind.Decodes (String.ofList lexeme) → token.kind ≠ .endOfInput →
      token.span = ⟨offset + byteLength gap, offset + byteLength gap + byteLength lexeme⟩ →
      Lays (mode.after token.kind) token.span.stop rest tokens →
      Lays mode offset (gap ++ lexeme ++ rest) (token :: tokens)

theorem byteLength_nil : byteLength [] = 0 :=
  rfl

theorem byteLength_append (left right : List Char) :
    byteLength (left ++ right) = byteLength left + byteLength right := by
  induction left with
  | nil => simp [byteLength]
  | cons character others ih =>
      simp only [byteLength, List.cons_append, List.foldr_cons] at ih ⊢
      omega

theorem utf8ByteSize_ofList (characters : List Char) :
    (String.ofList characters).utf8ByteSize = byteLength characters := by
  induction characters with
  | nil => rfl
  | cons character others ih =>
      rw [String.ofList_cons, String.utf8ByteSize_append, ih, String.utf8ByteSize_singleton]
      rfl

theorem byteLength_toList (text : String) : byteLength text.toList = text.utf8ByteSize := by
  rw [← utf8ByteSize_ofList, String.ofList_toList]

theorem selects_ofList (before selected after : List Char) :
    Span.Selects ⟨byteLength before, byteLength before + byteLength selected⟩
      (String.ofList (before ++ selected ++ after)) (String.ofList selected) := by
  refine ⟨String.ofList before, String.ofList after, by simp only [String.ofList_append], ?_⟩
  simp [String.utf8ByteSize_append, utf8ByteSize_ofList]

theorem LexMode.skips_blanks (mode : LexMode) (characters : List Char) :
    mode.Skips (mode.blanks characters) := by
  cases mode with
  | text => exact ⟨by simp [blanks], fun _ => rfl⟩
  | tag => exact ⟨List.all_eq_true.mp List.all_takeWhile, by simp⟩

theorem LexMode.blanks_prefix (mode : LexMode) (characters : List Char) :
    mode.blanks characters <+: characters := by
  cases mode with
  | text => exact List.nil_prefix
  | tag => exact List.takeWhile_prefix _

theorem LexMode.scan_whole (mode : LexMode) (characters : List Char) :
    (mode.scan characters).passed ++ (mode.scan characters).lexeme ++ (mode.scan characters).rest =
      characters := by
  cases characters with
  | nil => rfl
  | cons first others => exact (mode.scan_tiles first others).1

theorem LexMode.eq_nil_of_scan {mode : LexMode} {characters : List Char}
    (cut : (mode.scan characters).outcome = .ok .endOfInput) : characters = [] := by
  cases characters with
  | nil => rfl
  | cons first others =>
      obtain ⟨_, decodes⟩ := mode.scan_decodes _ _ cut
      have nonempty := (mode.scan_tiles first others).2
      exact absurd (by simpa [Token.Kind.Decodes] using decodes) nonempty

namespace LexMode.Takes

variable {mode : LexMode} {lexeme rest : List Char} {kind : Token.Kind}

theorem outcome (takes : mode.Takes lexeme rest kind) :
    (mode.scan (lexeme ++ rest)).outcome = .ok kind := by
  rw [takes]
  rfl

theorem decodes (takes : mode.Takes lexeme rest kind) : kind.Decodes (String.ofList lexeme) := by
  obtain ⟨_, decodes⟩ := mode.scan_decodes _ _ takes.outcome
  rw [takes] at decodes
  exact decodes

theorem of_rest (cut : (mode.scan (lexeme ++ rest)).outcome = .ok kind)
    (left : (mode.scan (lexeme ++ rest)).rest = rest) : mode.Takes lexeme rest kind := by
  have whole := mode.scan_whole (lexeme ++ rest)
  obtain ⟨nothingPassed, _⟩ := mode.scan_decodes _ _ cut
  rw [nothingPassed, left, List.nil_append] at whole
  have taken := List.append_cancel_right whole
  have switches := mode.scan_switches (lexeme ++ rest)
  rw [Scan.Switches, cut] at switches
  rw [Takes]
  generalize mode.scan (lexeme ++ rest) = scan at *
  obtain ⟨_, _, _, _, _⟩ := scan
  simp only at *
  rw [nothingPassed, taken, left, cut, switches]
  rfl

theorem ended_iff (takes : mode.Takes lexeme rest kind) :
    kind = .endOfInput ↔ lexeme ++ rest = [] := by
  constructor
  · rintro rfl
    exact eq_nil_of_scan takes.outcome
  · intro ended
    have cut := takes.outcome
    rw [ended] at cut
    exact (Except.ok.inj cut).symm

theorem lexeme_ne_nil (takes : mode.Takes lexeme rest kind) (more : kind ≠ .endOfInput) :
    lexeme ≠ [] := by
  obtain ⟨first, others, shape⟩ := List.exists_cons_of_ne_nil (mt takes.ended_iff.mpr more)
  have tiles := mode.scan_tiles first others
  rw [← shape, takes] at tiles
  exact tiles.2

end LexMode.Takes

namespace Lexer

theorem next_eq_takes {lexer after : Lexer} {token : Token}
    (stepped : lexer.next = (.ok token, after)) :
    ∃ gap lexeme, lexer.rest = gap ++ lexeme ++ after.rest ∧ lexer.mode.Skips gap ∧
      lexer.mode.Takes lexeme after.rest token.kind ∧
      after.offset = lexer.offset + byteLength gap + byteLength lexeme ∧
      token.span = .ofRange (lexer.offset + byteLength gap) after.offset ∧
      after.mode = lexer.mode.after token.kind := by
  have mode := (next_eq_ok stepped).2.2.1
  unfold next at stepped
  split at stepped
  · simp at stepped
  simp only at stepped
  obtain ⟨ahead, whole⟩ := lexer.mode.blanks_prefix lexer.rest
  have skips := lexer.mode.skips_blanks lexer.rest
  generalize lexer.mode.blanks lexer.rest = gap at *
  rw [← whole, List.drop_left] at stepped
  split at stepped
  · rename_i kind cut
    obtain ⟨nothingPassed, _⟩ := lexer.mode.scan_decodes _ _ cut
    have tiles := lexer.mode.scan_whole ahead
    simp only [Prod.mk.injEq, Except.ok.injEq] at stepped
    obtain ⟨rfl, rfl⟩ := stepped
    rw [nothingPassed, List.nil_append] at tiles
    refine ⟨gap, (lexer.mode.scan ahead).lexeme, ?_, skips, .of_rest ?_ ?_, ?_, ?_, mode⟩
    · rw [List.append_assoc, tiles, whole]
    · rw [tiles, cut]
    · rw [tiles]
    · simp [nothingPassed, byteLength]
    · simp [nothingPassed, byteLength]
  · simp at stepped

theorem reads_of_collect {lexer : Lexer} {seen tokens : List Token}
    (collected : lexer.collect seen = .ok tokens)
    (short : lexer.offset + byteLength lexer.rest ≤ Span.limit) :
    ∃ later, tokens = seen.reverse ++ later ∧ Reads lexer.mode lexer.offset lexer.rest later := by
  fun_induction collect lexer seen with
  | case1 lexer seen error after stepped => simp at collected
  | case2 lexer seen token after stepped more ih =>
      obtain ⟨gap, lexeme, whole, skips, takes, offset, span, mode⟩ := next_eq_takes stepped
      rw [whole, byteLength_append, byteLength_append] at short
      obtain ⟨later, found, reads⟩ := ih collected (by omega)
      rw [offset, Span.ofRange, Nat.min_eq_left (by omega), Nat.min_eq_left (by omega)] at span
      refine ⟨token :: later, by simp [found], ?_⟩
      obtain ⟨kind, _⟩ := token
      simp only at span takes more mode
      rw [span, whole]
      refine .token skips takes ?_ ?_
      · rintro rfl
        simp [Token.Kind.isEndOfInput] at more
      · rwa [← mode, ← offset]
  | case3 lexer seen token after stepped ended =>
      obtain ⟨gap, lexeme, whole, skips, takes, offset, span, _⟩ := next_eq_takes stepped
      have last : token.kind = .endOfInput := Token.Kind.eq_endOfInput (by simpa using ended)
      obtain ⟨rfl, left⟩ := List.append_eq_nil_iff.mp (takes.ended_iff.mp last)
      rw [whole, left] at short ⊢
      simp only [List.append_nil] at short ⊢
      rw [offset, byteLength_nil, Nat.add_zero, Span.ofRange, Nat.min_eq_left short] at span
      obtain ⟨kind, _⟩ := token
      simp only at last span
      refine ⟨[⟨kind, _⟩], by simpa using collected.symm, ?_⟩
      rw [last, span]
      exact .finish skips

end Lexer

theorem Reads.lays {mode : LexMode} {offset : Nat} {rest : List Char} {tokens : List Token}
    (reads : Reads mode offset rest tokens) : Lays mode offset rest tokens := by
  induction reads with
  | finish skips => exact .finish skips rfl rfl
  | token skips takes more _ ih => exact .token skips takes.decodes more rfl ih

theorem Lexer.lays_of_collect {lexer : Lexer} {seen tokens : List Token}
    (collected : lexer.collect seen = .ok tokens)
    (short : lexer.offset + byteLength lexer.rest ≤ Span.limit) :
    ∃ later, tokens = seen.reverse ++ later ∧ Lays lexer.mode lexer.offset lexer.rest later := by
  obtain ⟨later, found, reads⟩ := reads_of_collect collected short
  exact ⟨later, found, reads.lays⟩

def LexMode.afterAll (mode : LexMode) (tokens : List Token) : LexMode :=
  tokens.foldl (fun mode token => mode.after token.kind) mode

theorem insideTag_concat {tokens : List Token} {token : Token} :
    InsideTag (tokens ++ [token]) ↔
      token.kind = .startTag ∨ InsideTag tokens ∧ token.kind ≠ .endTag := by
  constructor
  · rintro ⟨before, opening, inside, shape, opens, closed⟩
    rcases List.eq_nil_or_concat inside with rfl | ⟨inside, last, rfl⟩
    · obtain ⟨_, same⟩ := List.append_inj' shape rfl
      cases same
      exact Or.inl opens
    · rw [List.concat_eq_append] at shape closed
      rw [← List.cons_append, ← List.append_assoc] at shape
      obtain ⟨rfl, same⟩ := List.append_inj' shape rfl
      cases same
      simp only [List.forall_mem_append, List.forall_mem_singleton] at closed
      exact Or.inr ⟨⟨before, opening, inside, rfl, opens, closed.1⟩, closed.2⟩
  · rintro (opens | ⟨⟨before, opening, inside, rfl, opens, closed⟩, noEnd⟩)
    · exact ⟨tokens, token, [], rfl, opens, by simp⟩
    · refine ⟨before, opening, inside ++ [token], by simp, opens, ?_⟩
      simpa only [List.forall_mem_append, List.forall_mem_singleton] using ⟨closed, noEnd⟩

theorem LexMode.afterAll_eq_tag_iff (tokens : List Token) :
    LexMode.text.afterAll tokens = .tag ↔ InsideTag tokens := by
  induction tokens using List.reverseRecOn with
  | nil => simp [afterAll, InsideTag]
  | append_singleton tokens token ih =>
      rw [insideTag_concat, ← ih]
      simp only [afterAll, List.foldl_append, List.foldl_cons, List.foldl_nil]
      generalize List.foldl _ _ tokens = mode
      cases token.kind <;> simp [after, Token.Kind.switch?]

namespace Lays

variable {mode : LexMode} {offset : Nat} {rest : List Char} {tokens : List Token}

theorem offset_le (lays : Lays mode offset rest tokens) :
    ∀ token ∈ tokens, offset ≤ token.span.start := by
  induction lays with
  | finish _ _ span => simp [span, Span.point]
  | token _ _ _ span _ ih =>
      refine List.forall_mem_cons.mpr ⟨by simp [span], fun token member => ?_⟩
      refine Nat.le_trans ?_ (ih token member)
      rw [span]
      simp only
      omega

theorem ordered (lays : Lays mode offset rest tokens) :
    tokens.Pairwise fun earlier later => earlier.span.stop ≤ later.span.start := by
  induction lays with
  | finish _ _ _ => exact List.pairwise_singleton _ _
  | token _ _ _ _ later ih => exact List.pairwise_cons.mpr ⟨later.offset_le, ih⟩

theorem ended (lays : Lays mode offset rest tokens) :
    ∃ front, tokens = front ++ [⟨.endOfInput, .point (offset + byteLength rest)⟩] ∧
      ∀ token ∈ front, token.kind ≠ .endOfInput := by
  induction lays with
  | @finish _ _ _ token _ last span => exact ⟨[], by simp [← last, ← span], by simp⟩
  | token _ _ more span _ ih =>
      obtain ⟨front, rfl, before⟩ := ih
      refine ⟨_ :: front, ?_, List.forall_mem_cons.mpr ⟨more, before⟩⟩
      rw [span, byteLength_append, byteLength_append, List.cons_append]
      simp only [Nat.add_assoc]

theorem first_gap {before : List Char} {token : Token}
    (lays : Lays mode (byteLength before) rest (token :: tokens)) :
    ∃ gap, Span.Selects ⟨byteLength before, token.span.start⟩ (String.ofList (before ++ rest))
      (String.ofList gap) ∧ mode.Skips gap := by
  cases lays with
  | finish skips _ span =>
      refine ⟨rest, ?_, skips⟩
      rw [span, ← List.append_nil (before ++ rest)]
      exact selects_ofList before rest []
  | @token _ _ gap lexeme rest _ _ skips _ _ span _ =>
      refine ⟨gap, ?_, skips⟩
      rw [span, List.append_assoc gap, ← List.append_assoc before]
      exact selects_ofList before gap (lexeme ++ rest)

theorem decodes {before : List Char} (lays : Lays mode (byteLength before) rest tokens) :
    ∀ token ∈ tokens, ∃ lexeme,
      token.span.Selects (String.ofList (before ++ rest)) lexeme ∧ token.kind.Decodes lexeme := by
  generalize start : byteLength before = offset at lays
  induction lays generalizing before with
  | @finish _ _ gap token _ last span =>
      subst start
      refine List.forall_mem_singleton.mpr ⟨"", ?_, by simp [last, Token.Kind.Decodes]⟩
      have selects := selects_ofList (before ++ gap) [] []
      simpa [span, Span.point, byteLength_append, byteLength_nil] using selects
  | @token _ _ gap lexeme rest token tokens _ decodes _ span _ ih =>
      subst start
      refine List.forall_mem_cons.mpr ⟨⟨String.ofList lexeme, ?_, decodes⟩, ?_⟩
      · have selects := selects_ofList (before ++ gap) lexeme rest
        simpa [span, byteLength_append] using selects
      -- The tokens behind are laid over what follows the lexeme, in the same source.
      · have behind : byteLength (before ++ gap ++ lexeme) = token.span.stop := by
          rw [span, byteLength_append, byteLength_append]
        simpa using ih behind

theorem gaps {before : List Char} (lays : Lays mode (byteLength before) rest tokens)
    {earlier later : List Token} {left right : Token}
    (shape : tokens = earlier ++ left :: right :: later) :
    ∃ gap, Span.Selects ⟨left.span.stop, right.span.start⟩ (String.ofList (before ++ rest))
      (String.ofList gap) ∧ (mode.afterAll (earlier ++ [left])).Skips gap := by
  generalize start : byteLength before = offset at lays
  induction lays generalizing before earlier with
  | finish _ _ _ => simp [List.cons_eq_append_iff] at shape
  | @token mode _ gap lexeme rest token tokens _ _ _ span lays ih =>
      subst start
      have behind : byteLength (before ++ gap ++ lexeme) = token.span.stop := by
        rw [span, byteLength_append, byteLength_append]
      have whole : before ++ (gap ++ lexeme ++ rest) = before ++ gap ++ lexeme ++ rest := by
        simp only [List.append_assoc]
      rw [whole]
      cases earlier with
      | nil =>
          obtain ⟨rfl, rfl⟩ := List.cons.inj shape
          rw [← behind] at lays ⊢
          exact lays.first_gap
      | cons first earlier =>
          obtain ⟨rfl, rfl⟩ := List.cons.inj shape
          exact ih rfl behind

end Lays

/-- The tokens of a template whose offsets fit into spans tile the template. -/
theorem tiling_of_tokenize {source : String} {tokens : List Token}
    (short : source.utf8ByteSize < 2 ^ 32) (found : tokenize source = .ok tokens) :
    Tiling source tokens := by
  have size := byteLength_toList source
  have fits : byteLength source.toList ≤ Span.limit := by
    rw [size]
    exact Nat.le_of_lt_succ short
  obtain ⟨later, same, lays⟩ :=
    Lexer.lays_of_collect found (by simpa [Lexer.ofSource] using fits)
  obtain rfl : tokens = later := same
  have laysOver : Lays .text (byteLength []) source.toList tokens := lays
  have whole : String.ofList ([] ++ source.toList) = source := String.ofList_toList
  constructor
  case ended => simpa [byteLength_nil, size] using laysOver.ended
  case starts =>
    intro token first
    obtain ⟨others, rfl⟩ := List.head?_eq_some_iff.mp first
    obtain ⟨gap, ⟨before, after, _, place⟩, _, noGap⟩ := laysOver.first_gap
    -- The lexer starts in text, where nothing is skipped.
    rw [noGap rfl, String.ofList_nil, String.append_empty] at place
    obtain ⟨start, stop⟩ := Span.mk.inj place
    exact stop.trans start.symm
  case ordered => exact lays.ordered
  case decodes =>
    rw [← whole]
    exact laysOver.decodes
  case gaps =>
    intro before left right after shape
    obtain ⟨gap, selects, blanks, noGap⟩ := laysOver.gaps shape
    rw [whole] at selects
    refine ⟨String.ofList gap, selects, by simpa using blanks, fun outside => ?_⟩
    have mode : LexMode.text.afterAll (before ++ [left]) = .text := by
      cases reached : LexMode.text.afterAll (before ++ [left]) with
      | text => rfl
      | tag => exact absurd ((LexMode.afterAll_eq_tag_iff _).mp reached) outside
    rw [noGap mode, String.ofList_nil]

def tenth : Double :=
  ⟨0x3FB999999999999A⟩

def sumSource : String :=
  "é\\\x7b$\x7b$= 0.1 \"a\\r\\n\"\t-7 @dup i +$\x7d\n"

def sumTokens : List Token :=
  [⟨.text "é\\\x7b$", ⟨0, 5⟩⟩, ⟨.startTag, ⟨5, 7⟩⟩, ⟨.tagName, ⟨7, 8⟩⟩,
    ⟨.double tenth, ⟨9, 12⟩⟩, ⟨.string "a\r\n", ⟨13, 20⟩⟩, ⟨.integer (-7), ⟨21, 23⟩⟩,
    ⟨.function "dup", ⟨24, 28⟩⟩, ⟨.variable "i", ⟨29, 30⟩⟩, ⟨.operator .add, ⟨31, 32⟩⟩,
    ⟨.endTag, ⟨32, 34⟩⟩, ⟨.text "\n", ⟨34, 35⟩⟩, ⟨.endOfInput, ⟨35, 35⟩⟩]

theorem ofRank_tenth : Double.ofRank false (Double.Decimal.rank ⟨1, -1⟩) = tenth := by
  have rank : Double.Decimal.rank ⟨1, -1⟩ = 0x3FB999999999999A := by decide +kernel
  rw [rank]
  rfl

def afterTenth : String :=
  " \"a\\r\\n\"\t-7 @dup i +$\x7d\n"

theorem tokenize_sumSource : tokenize sumSource = .ok sumTokens := by
  -- The double is taken on its own, as only the kernel gets through the rounding.
  have text : (Lexer.ofSource sumSource).next = (.ok ⟨.text "é\\\x7b$", ⟨0, 5⟩⟩,
      ⟨("\x7b$= 0.1" ++ afterTenth).toList, 5, .text, false⟩) := by
    cbv
  have opening : Lexer.next ⟨("\x7b$= 0.1" ++ afterTenth).toList, 5, .text, false⟩ =
      (.ok ⟨.startTag, ⟨5, 7⟩⟩, ⟨("= 0.1" ++ afterTenth).toList, 7, .tag, false⟩) := by
    cbv
  have name : Lexer.next ⟨("= 0.1" ++ afterTenth).toList, 7, .tag, false⟩ =
      (.ok ⟨.tagName, ⟨7, 8⟩⟩, ⟨(" 0.1" ++ afterTenth).toList, 8, .tag, false⟩) := by
    cbv
  have number : Lexer.next ⟨(" 0.1" ++ afterTenth).toList, 8, .tag, false⟩ =
      (.ok ⟨.double tenth, ⟨9, 12⟩⟩, ⟨afterTenth.toList, 12, .tag, false⟩) := by
    rw [← ofRank_tenth]
    rfl
  have later : Lexer.collect ⟨afterTenth.toList, 12, .tag, false⟩ (sumTokens.take 4).reverse =
      .ok sumTokens := by
    cbv
  rw [tokenize, Lexer.collect_of_next text, Lexer.collect_of_next opening,
    Lexer.collect_of_next name, Lexer.collect_of_next number]
  exact later

theorem tiling_sumSource :
    sumSource.utf8ByteSize < 2 ^ 32 ∧ tokenize sumSource = .ok sumTokens ∧
      Tiling sumSource sumTokens :=
  ⟨by decide, tokenize_sumSource, tiling_of_tokenize (by decide) tokenize_sumSource⟩

end TagTemplate
