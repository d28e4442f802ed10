import TagTemplate.Proofs.Placement
import TagTemplate.Proofs.Resumption
import TagTemplate.Proofs.TokenBoundaries

/-!
Blanks between the tokens of a tag. More of them only move the tokens behind them, so that the
template has the same document, or the same error at another place.
-/

namespace TagTemplate

def Span.shift (span : Span) (count : Nat) : Span :=
  ⟨span.start + count, span.stop + count⟩

def Token.shift (count : Nat) (token : Token) : Token :=
  { token with span := token.span.shift count }

theorem kinds_shift (before after : List Token) (token : Token) (count : Nat) :
    (before ++ token :: after.map (Token.shift count)).map Token.kind =
      (before ++ token :: after).map Token.kind := by
  simp [Token.shift, Function.comp_def]

namespace Token.Kind

variable {kind : Kind} {rest other : List Char}

theorem admits_of_startsBlank (noText : ∀ content, kind ≠ .text content)
    (more : kind ≠ .endOfInput) (stopped : StartsBlank rest) : kind.Admits rest := by
  cases kind with
  | text content => exact absurd rfl (noText content)
  | endOfInput => exact absurd rfl more
  | function name => exact stopped
  | «variable» _ | integer _ | double _ => exact stopped.stopsAt_literal
  | operator symbol =>
      obtain ⟨blank, others, rfl, isBlank⟩ := stopped
      refine fun _ => Bool.eq_false_iff.mpr fun digit => ?_
      have literal := Scan.isLiteralCharacter_of_isDigit digit
      simp [Scan.isLiteralCharacter, isBlank] at literal
  | _ => trivial

theorem admits_cons {first : Char} (noText : ∀ content, kind ≠ .text content)
    (admits : kind.Admits (first :: rest)) : kind.Admits (first :: other) := by
  cases kind with
  | text content => exact absurd rfl (noText content)
  | endOfInput => exact absurd admits (List.cons_ne_nil _ _)
  | function name =>
      obtain ⟨blank, _, shape, isBlank⟩ := admits
      rw [(List.cons.inj shape).1]
      exact ⟨blank, other, rfl, isBlank⟩
  | _ => exact admits

end Token.Kind

namespace LexMode

theorem scan_blank {blank : Char} (isBlank : isTagBlank blank = true) (others : List Char) :
    (tag.scan (blank :: others)).outcome = .error (.unrecognizedCharacter blank) := by
  have noLetter : Text.isAlphabetic blank = false := by
    have noName := isNameCharacter_of_isTagBlank isBlank
    simp only [isNameCharacter, Bool.or_eq_false_iff] at noName
    exact noName.1.1
  simp only [isTagBlank, Bool.or_eq_true, decide_eq_true_eq] at isBlank
  rcases isBlank with ((rfl | rfl) | rfl) | rfl <;>
    simp [scan, Scan.ofTag, Scan.ofCharacter, noLetter, Operator.ofChar?, Scan.failure]

theorem takes_end (mode : LexMode) : mode.Takes [] [] .endOfInput := by
  cases mode <;> rfl

theorem blanks_eq {mode : LexMode} {gap lexeme rest : List Char} {kind : Token.Kind}
    (skips : mode.Skips gap) (takes : mode.Takes lexeme rest kind) :
    mode.blanks (gap ++ (lexeme ++ rest)) = gap := by
  obtain ⟨areBlanks, noGap⟩ := skips
  cases mode with
  | text => rw [noGap rfl, blanks]
  | tag =>
      have solid : StopsAt isTagBlank (lexeme ++ rest) := by
        intro first ahead
        apply Bool.eq_false_iff.mpr
        intro isBlank
        obtain ⟨others, shape⟩ := List.head?_eq_some_iff.mp ahead
        have outcome := takes.outcome
        rw [shape, scan_blank isBlank] at outcome
        contradiction
      exact (span_append isTagBlank gap (lexeme ++ rest) areBlanks solid).1

end LexMode

theorem LexMode.Takes.no_text {mode : LexMode} {lexeme rest : List Char} {kind : Token.Kind}
    (takes : mode.Takes lexeme rest kind) (inside : mode.after kind = .tag) (content : String) :
    kind ≠ .text content := by
  rintro rfl
  obtain ⟨rfl, _⟩ := text_of_scan takes.outcome
  contradiction

theorem Lexer.next_of_takes {mode : LexMode} (offset : Nat) {gap lexeme rest : List Char}
    {kind : Token.Kind} (skips : mode.Skips gap) (takes : mode.Takes lexeme rest kind) :
    (Lexer.mk (gap ++ lexeme ++ rest) offset mode false).next =
      (.ok ⟨kind, .ofRange (offset + byteLength gap)
          (offset + byteLength gap + byteLength lexeme)⟩,
        ⟨rest, offset + byteLength gap + byteLength lexeme, mode.after kind,
          kind.isEndOfInput⟩) := by
  rw [List.append_assoc]
  simp only [next, LexMode.blanks_eq skips takes, List.drop_left]
  rw [takes]
  simp [Scan.ofKind, LexMode.after, byteLength_nil]

namespace Reads

variable {mode : LexMode} {offset : Nat} {characters : List Char} {tokens : List Token}

theorem collect (reads : Reads mode offset characters tokens)
    (short : offset + byteLength characters ≤ Span.limit) (seen : List Token) :
    (Lexer.mk characters offset mode false).collect seen = .ok (seen.reverse ++ tokens) := by
  induction reads generalizing seen with
  | @finish mode offset gap skips =>
      have stepped := Lexer.next_of_takes offset skips mode.takes_end
      simp only [List.append_nil, byteLength_nil, Nat.add_zero] at stepped
      rw [Lexer.collect_of_next stepped, Span.ofRange, Nat.min_eq_left short]
      simp [Token.Kind.isEndOfInput, Span.point]
  | @token mode offset gap lexeme rest kind tokens skips takes more later ih =>
      rw [byteLength_append, byteLength_append] at short
      rw [Lexer.collect_of_next (Lexer.next_of_takes offset skips takes),
        Token.Kind.isEndOfInput_eq_false more, if_neg Bool.false_ne_true, ih (by omega),
        Span.ofRange, Nat.min_eq_left (by omega), Nat.min_eq_left (by omega)]
      simp

theorem shift (reads : Reads mode offset characters tokens) (count : Nat) :
    Reads mode (offset + count) characters (tokens.map (Token.shift count)) := by
  induction reads with
  | @finish mode offset gap skips =>
      have moved : Reads mode (offset + count) gap _ := .finish skips
      simpa [Token.shift, Span.shift, Span.point, Nat.add_right_comm] using moved
  | @token mode offset gap lexeme rest kind tokens skips takes more _ ih =>
      rw [Nat.add_right_comm _ _ count, Nat.add_right_comm _ _ count] at ih
      have moved := Reads.token skips takes more ih
      simpa [Token.shift, Span.shift, Nat.add_right_comm] using moved

theorem behind_blanks (reads : Reads .tag offset characters tokens) {blanks : List Char}
    (areBlanks : ∀ blank ∈ blanks, isTagBlank blank = true) :
    Reads .tag offset (blanks ++ characters) (tokens.map (Token.shift (byteLength blanks))) := by
  have skipsBoth {gap : List Char} (skips : LexMode.tag.Skips gap) :
      LexMode.tag.Skips (blanks ++ gap) :=
    ⟨List.forall_mem_append.mpr ⟨areBlanks, skips.1⟩, fun text => nomatch text⟩
  cases reads with
  | finish skips =>
      have moved : Reads .tag offset _ _ := .finish (skipsBoth skips)
      simpa [Token.shift, Span.shift, Span.point, byteLength_append, Nat.add_assoc,
        Nat.add_comm, Nat.add_left_comm] using moved
  | @token _ _ gap lexeme rest kind tokens skips takes more later =>
      have place : offset + byteLength gap + byteLength lexeme + byteLength blanks =
          offset + byteLength (blanks ++ gap) + byteLength lexeme := by
        rw [byteLength_append]
        omega
      have laterMoved := later.shift (byteLength blanks)
      rw [place] at laterMoved
      have moved := Reads.token (skipsBoth skips) takes more laterMoved
      simpa [Token.shift, Span.shift, byteLength_append, Nat.add_assoc,
        Nat.add_comm, Nat.add_left_comm] using moved

theorem stopsText_iff {content : List Char} (reads : Reads .text offset characters tokens) :
    StopsText content characters ↔ ∀ kind ∈ (tokens.map Token.kind).head?,
      kind = .endOfInput ∨ ¬EndsInBackslash content ∧ kind = .startTag := by
  cases reads with
  | finish skips => simp [StopsText, skips.2 rfl]
  | @token _ _ gap lexeme rest kind tokens skips takes more later =>
      have unfinished : lexeme ++ rest ≠ [] := mt takes.ended_iff.mpr more
      have opens : ['{', '$'] <+: lexeme ++ rest ↔ kind = .startTag := by
        constructor
        · rintro ⟨others, shape⟩
          rw [LexMode.Takes, ← shape] at takes
          exact (Scan.ofKind_inj.mp takes).2.2.symm
        · rintro rfl
          obtain rfl : lexeme = ['{', '$'] := by
            simpa [Token.Kind.Decodes] using congrArg String.toList takes.decodes
          exact List.prefix_append _ _
      rw [StopsText, skips.2 rfl, List.nil_append, opens]
      simp [unfinished, more]

theorem insert {before after : List Token} {token : Token}
    (reads : Reads mode offset characters (before ++ token :: after))
    (inTag : mode.afterAll (before ++ [token]) = .tag) (more : token.kind ≠ .endOfInput) :
    ∃ left right, characters = left ++ right ∧ offset + byteLength left = token.span.stop ∧
      left ≠ [] ∧ ∀ blanks, (∀ blank ∈ blanks, isTagBlank blank = true) →
        Reads mode offset (left ++ (blanks ++ right))
          (before ++ token :: after.map (Token.shift (byteLength blanks))) := by
  induction before generalizing mode offset characters with
  | nil =>
      generalize shape : [] ++ token :: after = tokens at reads
      cases reads with
      | finish _ =>
          obtain ⟨rfl, _⟩ := List.cons.inj shape
          contradiction
      | @token _ _ gap lexeme rest kind tokens skips takes _ later =>
          obtain ⟨rfl, rfl⟩ := List.cons.inj shape
          have inside : mode.after kind = .tag := inTag
          rw [inside] at later
          refine ⟨gap ++ lexeme, rest, rfl, by rw [byteLength_append, Nat.add_assoc], ?_, ?_⟩
          · simp [takes.lexeme_ne_nil more]
          · intro blanks areBlanks
            have admits : kind.Admits (blanks ++ rest) := by
              cases blanks with
              | nil => exact takes.bounded.admits
              | cons blank blanks =>
                  refine Token.Kind.admits_of_startsBlank (takes.no_text inside) more ?_
                  exact ⟨blank, blanks ++ rest, rfl, areBlanks blank (by simp)⟩
            have moved := later.behind_blanks areBlanks
            rw [← inside] at moved
            exact .token skips (takes.bounded.again _ admits) more moved
  | cons first before ih =>
      generalize shape : first :: before ++ token :: after = tokens at reads
      cases reads with
      | finish _ => simp at shape
      | @token _ _ gap lexeme rest kind tokens skips takes unfinished later =>
          obtain ⟨rfl, rfl⟩ := List.cons.inj shape
          obtain ⟨left, right, rfl, place, nonempty, extend⟩ := ih later inTag
          refine ⟨gap ++ lexeme ++ left, right, by simp, ?_, by simp [nonempty], ?_⟩
          · rw [← place, byteLength_append, byteLength_append]
            omega
          · intro blanks areBlanks
            have extended := extend blanks areBlanks
            have admits : kind.Admits (left ++ (blanks ++ right)) := by
              by_cases text : ∃ content, kind = .text content
              · obtain ⟨content, rfl⟩ := text
                obtain ⟨rfl, _⟩ := LexMode.text_of_scan takes.outcome
                -- A text goes by the kind of the token behind it, which is the same.
                refine extended.stopsText_iff.mpr ?_
                rw [kinds_shift]
                exact later.stopsText_iff.mp takes.bounded.admits
              · obtain ⟨next, others, rfl⟩ := List.exists_cons_of_ne_nil nonempty
                refine Token.Kind.admits_cons ?_ takes.bounded.admits
                rintro content rfl
                exact text ⟨content, rfl⟩
            have whole := Reads.token skips (takes.bounded.again _ admits) unfinished extended
            simpa using whole

theorem mode_resumed {front back : List Token}
    (reads : Reads mode offset characters (front ++ back)) :
    ((Lexer.mk characters offset mode false).resumed front.length).mode = mode.afterAll front := by
  induction front generalizing mode offset characters with
  | nil => rfl
  | cons first front ih =>
      generalize shape : first :: front ++ back = tokens at reads
      cases reads with
      | finish skips =>
          obtain ⟨rfl, ended⟩ := List.cons.inj shape
          obtain ⟨rfl, rfl⟩ := List.append_eq_nil_iff.mp ended
          have stepped := Lexer.next_of_takes offset skips mode.takes_end
          rw [List.append_nil, List.append_nil] at stepped
          rw [List.length_singleton, Lexer.resumed, Lexer.resumed, stepped]
          rfl
      | @token _ _ gap lexeme rest kind tokens skips takes more later =>
          obtain ⟨rfl, rfl⟩ := List.cons.inj shape
          have stepped := Lexer.next_of_takes offset skips takes
          rw [Token.Kind.isEndOfInput_eq_false more] at stepped
          rw [List.length_cons, Lexer.resumed, stepped]
          exact ih later

end Reads

theorem byteLength_le_limit {source : String} (short : source.utf8ByteSize < 2 ^ 32) :
    byteLength source.toList ≤ Span.limit := by
  rw [byteLength_toList]
  exact Nat.le_of_lt_succ short

theorem reads_of_tokenize {source : String} {tokens : List Token}
    (short : source.utf8ByteSize < 2 ^ 32) (found : tokenize source = .ok tokens) :
    Reads .text 0 source.toList tokens := by
  obtain ⟨later, rfl, reads⟩ := Lexer.reads_of_collect found
    (by simpa [Lexer.ofSource] using byteLength_le_limit short)
  exact reads

theorem tokenize_of_reads {source : String} {tokens : List Token}
    (short : source.utf8ByteSize < 2 ^ 32) (reads : Reads .text 0 source.toList tokens) :
    tokenize source = .ok tokens :=
  reads.collect (by simpa using byteLength_le_limit short) []

/-- Blanks put behind a token inside a tag change nothing but the places of what follows. -/
theorem tokenize_insert_blanks {source : String} {before after : List Token} {token : Token}
    (short : source.utf8ByteSize < 2 ^ 32)
    (found : tokenize source = .ok (before ++ token :: after)) (more : token.kind ≠ .endOfInput)
    (inTag : ((Lexer.ofSource source).resumed (before.length + 1)).mode = .tag) :
    ∃ left right, source = left ++ right ∧ left.utf8ByteSize = token.span.stop ∧
      ∀ blanks : String, (∀ blank ∈ blanks.toList, isTagBlank blank = true) →
        (left ++ blanks ++ right).utf8ByteSize < 2 ^ 32 →
          tokenize (left ++ blanks ++ right) =
              .ok (before ++ token :: after.map (Token.shift blanks.utf8ByteSize)) ∧
            (Document.parse (left ++ blanks ++ right)).mapError ParseError.cause =
              (Document.parse source).mapError ParseError.cause := by
  have reads := reads_of_tokenize short found
  have mode : LexMode.text.afterAll (before ++ [token]) = .tag := by
    have readsWhole : Reads .text 0 source.toList (before ++ [token] ++ after) := by
      simpa using reads
    have resumed := readsWhole.mode_resumed
    rw [List.length_append, List.length_singleton] at resumed
    exact resumed.symm.trans inTag
  obtain ⟨left, right, whole, place, _, insert⟩ := reads.insert mode more
  refine ⟨String.ofList left, String.ofList right, ?_, ?_, fun blanks areBlanks shortAgain => ?_⟩
  · rw [← String.ofList_append, ← whole, String.ofList_toList]
  · rw [utf8ByteSize_ofList, ← place, Nat.zero_add]
  · have inserted := insert blanks.toList areBlanks
    rw [byteLength_toList] at inserted
    have foundAgain := tokenize_of_reads shortAgain (by simpa using inserted)
    refine ⟨foundAgain, ?_⟩
    rw [Document.parse, Document.parse, found, foundAgain]
    exact Document.ofTokens_congr (kinds_shift before after token _)

theorem resumed_sumSource : ((Lexer.ofSource sumSource).resumed 9).mode = .tag := by
  have reads : Reads .text 0 sumSource.toList (sumTokens.take 9 ++ sumTokens.drop 9) :=
    reads_of_tokenize (by decide) tokenize_sumSource
  exact reads.mode_resumed

theorem tokenize_sumSource_insert_blanks :
    sumSource.utf8ByteSize < 2 ^ 32 ∧ tokenize sumSource = .ok sumTokens ∧
      ((Lexer.ofSource sumSource).resumed 9).mode = .tag ∧
      ∃ left right, sumSource = left ++ right ∧ left.utf8ByteSize = 32 ∧
        tokenize (left ++ "\n\t" ++ right) = .ok (sumTokens.take 9 ++ [⟨.endTag, ⟨34, 36⟩⟩,
          ⟨.text "\n", ⟨36, 37⟩⟩, ⟨.endOfInput, ⟨37, 37⟩⟩]) ∧
        (Document.parse (left ++ "\n\t" ++ right)).mapError ParseError.cause =
          (Document.parse sumSource).mapError ParseError.cause := by
  refine ⟨by decide, tokenize_sumSource, resumed_sumSource, ?_⟩
  obtain ⟨left, right, whole, place, insert⟩ :=
    @tokenize_insert_blanks sumSource (sumTokens.take 8) (sumTokens.drop 9)
      ⟨.operator .add, ⟨31, 32⟩⟩ (by decide) tokenize_sumSource (by simp) resumed_sumSource
  have sizeOfBlanks : "\n\t".utf8ByteSize = 2 := by decide
  have short : (left ++ "\n\t" ++ right).utf8ByteSize < 2 ^ 32 := by
    have size := congrArg String.utf8ByteSize whole
    have sizeOfSum : sumSource.utf8ByteSize = 35 := by decide
    rw [String.utf8ByteSize_append] at size
    rw [String.utf8ByteSize_append, String.utf8ByteSize_append]
    omega
  obtain ⟨found, parsed⟩ := insert "\n\t" (by simp [isTagBlank]) short
  rw [sizeOfBlanks] at found
  exact ⟨left, right, whole, place, found, parsed⟩

end TagTemplate
