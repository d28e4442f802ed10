import Mathlib.Data.List.Induction
import TagTemplate.Proofs.Derivation

/-!
Loops as brackets. Where every tag is complete, only the nesting of the loops can be wrong. Such
tokens are parsed exactly if headers and ends match like brackets. Otherwise the first end without a
loop to close is reported or, if there is none, the innermost loop left open.
-/

namespace TagTemplate

structure EchoTag where
  elements : List Element
  opening : Span
  name : Span
  operands : List Token
  closing : Span
  spelled : operands.map Token.kind = elements.map Element.kind

structure HeaderTag where
  header : LoopHeader
  opening : Span
  word : Span
  name : Span
  bounds : List Token
  closing : Span
  spelled : bounds.map Token.kind = header.bounds.map Element.kind
  bounding : ∀ bound ∈ header.bounds, bound.Bounding

structure EndTag where
  opening : Span
  word : Span
  closing : Span

/-- A complete part of a template: a text or a whole tag, with the spans of its tokens. -/
inductive Piece where
  | text (content : String) (span : Span)
  | echo (tag : EchoTag)
  | header (tag : HeaderTag)
  | ending (tag : EndTag)

theorem eq_or_apart {α : Type} {front back before behind : List α} {first second : α}
    (same : front ++ first :: back = before ++ second :: behind) :
    (front = before ∧ first = second ∧ back = behind) ∨
      (∃ between, front = before ++ second :: between ∧ behind = between ++ first :: back) ∨
      ∃ between, before = front ++ first :: between ∧ back = between ++ second :: behind := by
  rcases List.append_eq_append_iff.mp same with ⟨between, rfl, split⟩ | ⟨between, rfl, split⟩
  · cases between with
    | nil => exact Or.inl (by simpa using split)
    | cons next between =>
        obtain ⟨rfl, rfl⟩ := List.cons.inj split
        exact Or.inr (Or.inr ⟨between, rfl, rfl⟩)
  · cases between with
    | nil => exact Or.inl (by simpa [eq_comm] using split)
    | cons next between =>
        obtain ⟨rfl, rfl⟩ := List.cons.inj split
        exact Or.inr (Or.inl ⟨between, rfl, rfl⟩)

namespace Piece

def tokens : Piece → List Token
  | .text content span => [⟨.text content, span⟩]
  | .echo tag =>
      ⟨.startTag, tag.opening⟩ :: ⟨.tagName, tag.name⟩ :: (tag.operands ++ [⟨.endTag, tag.closing⟩])
  | .header tag =>
      ⟨.startTag, tag.opening⟩ :: ⟨.loopWord, tag.word⟩ ::
        ⟨.variable tag.header.loopVariable, tag.name⟩ :: (tag.bounds ++ [⟨.endTag, tag.closing⟩])
  | .ending tag => [⟨.startTag, tag.opening⟩, ⟨.endWord, tag.word⟩, ⟨.endTag, tag.closing⟩]

def allTokens (pieces : List Piece) : List Token :=
  pieces.flatMap tokens

def node? : Piece → Option Node
  | .text content _ => some (.text content)
  | .echo tag => some (.echo tag.elements)
  | .header _ | .ending _ => none

/-- Headers and ends match. -/
inductive Balanced : List Piece → Prop
  | nil : Balanced []
  | node {piece others} : piece.node?.isSome → Balanced others → Balanced (piece :: others)
  | loop {header body ending others} : Balanced body → Balanced others →
      Balanced (.header header :: (body ++ .ending ending :: others))

def LeaveOpen (behind : List Piece) : Prop :=
  ∀ body ending others, behind = body ++ .ending ending :: others → ¬Balanced body

def HasOpen (pieces : List Piece) : Prop :=
  ∃ before header behind, pieces = before ++ .header header :: behind ∧ LeaveOpen behind

def NoSurplus (pieces : List Piece) : Prop :=
  ∀ before ending after, pieces = before ++ .ending ending :: after → HasOpen before

structure FirstSurplus (pieces before : List Piece) (ending : EndTag) (after : List Piece) :
    Prop where
  split : pieces = before ++ .ending ending :: after
  surplus : ¬HasOpen before
  first : NoSurplus before

/-- The header opened last among those that are still open at the end. -/
structure InnermostOpen (pieces before : List Piece) (header : HeaderTag) (behind : List Piece) :
    Prop where
  split : pieces = before ++ .header header :: behind
  isOpen : LeaveOpen behind
  last : ¬HasOpen behind

/-- The outcome of a parse is decided by the brackets alone. The error of an open loop covers its
header from the word on. -/
structure FollowsBrackets (pieces : List Piece) (outcome : Except ParseError Document) : Prop where
  accepted : (∃ document, outcome = .ok document) ↔ Balanced pieces
  surplus : ∀ before ending after, FirstSurplus pieces before ending after →
    outcome = .error ⟨.unmatchedEnd, ending.word⟩
  unclosed : NoSurplus pieces → ∀ before header behind,
    InnermostOpen pieces before header behind →
      outcome = .error ⟨.unclosedLoop header.header.loopVariable, header.word.merge header.closing⟩
  exhaustive : Balanced pieces ∨
    (∃ before ending after, FirstSurplus pieces before ending after) ∨
    NoSurplus pieces ∧ ∃ before header behind, InnermostOpen pieces before header behind

inductive Opens : List Piece → List HeaderTag → Prop
  | balanced {pieces} : Balanced pieces → Opens pieces []
  | header {before headers header body} : Opens before headers → Balanced body →
      Opens (before ++ .header header :: body) (header :: headers)

theorem allTokens_append (left right : List Piece) :
    allTokens (left ++ right) = allTokens left ++ allTokens right :=
  List.flatMap_append

theorem allTokens_cons (piece : Piece) (others : List Piece) :
    allTokens (piece :: others) = piece.tokens ++ allTokens others :=
  List.flatMap_cons

theorem isEndOfInput_of_spelled {tokens : List Token} {elements : List Element}
    (spelled : tokens.map Token.kind = elements.map Element.kind) {token : Token}
    (member : token ∈ tokens) : token.kind.isEndOfInput = false := by
  have kind := List.mem_map_of_mem (f := Token.kind) member
  rw [spelled] at kind
  obtain ⟨element, -, same⟩ := List.mem_map.mp kind
  rw [← same]
  exact element.isEndOfInput_kind

theorem isEndOfInput_of_mem_tokens {piece : Piece} {token : Token} (member : token ∈ piece.tokens) :
    token.kind.isEndOfInput = false := by
  cases piece with
  | text content span =>
      obtain rfl := List.mem_singleton.mp member
      rfl
  | echo tag =>
      simp only [tokens, List.mem_cons, List.mem_append, List.not_mem_nil, or_false] at member
      rcases member with rfl | rfl | operand | rfl
      · rfl
      · rfl
      · exact isEndOfInput_of_spelled tag.spelled operand
      · rfl
  | header tag =>
      simp only [tokens, List.mem_cons, List.mem_append, List.not_mem_nil, or_false] at member
      rcases member with rfl | rfl | rfl | bound | rfl
      · rfl
      · rfl
      · rfl
      · exact isEndOfInput_of_spelled tag.spelled bound
      · rfl
  | ending tag =>
      simp only [tokens, List.mem_cons, List.not_mem_nil, or_false] at member
      rcases member with rfl | rfl | rfl <;> rfl

end Piece

namespace Draft

variable {draft : Draft}

theorem complete_append {front : List Token}
    (more : ∀ token ∈ front, token.kind.isEndOfInput = false) (last final : Span)
    (rest : List Token) :
    draft.complete last (front ++ ⟨.endOfInput, final⟩ :: rest) =
      draft.feed front >>= fun next => next.finish final := by
  induction front generalizing draft last with
  | nil => rfl
  | cons token others ih =>
      obtain ⟨here, later⟩ := List.forall_mem_cons.mp more
      rw [List.cons_append, complete, here, feed, List.foldlM_cons]
      cases stepped : draft.step token with
      | error error => rfl
      | ok next => exact ih later token.span

theorem feed_header_piece (place : draft.position = .content) (tag : HeaderTag) :
    draft.feed (Piece.header tag).tokens =
      .ok (draft.openLoop tag.header (tag.word.merge tag.closing)) :=
  feed_headerTag place tag.bounding rfl rfl rfl tag.spelled rfl

theorem feed_ending_piece (place : draft.position = .content) (tag : EndTag) :
    draft.feed (Piece.ending tag).tokens = draft.closeLoop tag.word :=
  feed_endTag place rfl rfl rfl

theorem feed_node_piece (place : draft.position = .content) {piece : Piece}
    (plain : piece.node?.isSome) : ∃ node, draft.feed piece.tokens = .ok (draft.attach node) := by
  cases piece with
  | text content span =>
      exact ⟨.text content, feed_cons_eq_ok_iff.mpr ⟨_, by simp only [step, place], rfl⟩⟩
  | echo tag =>
      refine ⟨.echo tag.elements, feed_echo place ?_⟩
      simp [Piece.tokens, Node.linear, tag.spelled]
  | header tag => simp [Piece.node?] at plain
  | ending tag => simp [Piece.node?] at plain

theorem feed_append_of_error {front : List Token} {error : ParseError}
    (failed : draft.feed front = .error error) (back : List Token) :
    draft.feed (front ++ back) = .error error := by
  unfold feed at failed ⊢
  rw [List.foldlM_append, failed]
  rfl

end Draft

namespace Piece

theorem Balanced.feed {pieces : List Piece} (balanced : Balanced pieces) (draft : Draft)
    (place : draft.position = .content) :
    ∃ next, draft.feed (allTokens pieces) = .ok next ∧ next.position = .content ∧
      next.openLoops = draft.openLoops := by
  induction balanced generalizing draft with
  | nil => exact ⟨draft, rfl, place, rfl⟩
  | node plain _ ih =>
      obtain ⟨node, attached⟩ := Draft.feed_node_piece place plain
      obtain ⟨next, fed, reached, loops⟩ := ih _ (Draft.position_attach draft node)
      exact ⟨next, by rw [allTokens_cons, Draft.feed_append attached, fed], reached, loops⟩
  | @loop header body ending others _ _ ihBody ihOthers =>
      have opened := Draft.feed_header_piece place header
      obtain ⟨inner, fedBody, inside, loops⟩ :=
        ihBody _ (Draft.position_openLoop draft header.header _)
      let outer : Draft := ⟨.content,
        .loop header.header inner.reversedNodes.reverse :: draft.reversedNodes, draft.openLoops⟩
      have closed : inner.feed (Piece.ending ending).tokens = .ok outer := by
        rw [Draft.feed_ending_piece inside, Draft.closeLoop, loops]
        rfl
      obtain ⟨next, fedOthers, reached, kept⟩ := ihOthers outer rfl
      refine ⟨next, ?_, reached, kept⟩
      rw [allTokens_cons, Draft.feed_append opened, allTokens_append, Draft.feed_append fedBody,
        allTokens_cons, Draft.feed_append closed, fedOthers]

structure Kept (headers : List HeaderTag) (draft : Draft) : Prop where
  position : draft.position = .content
  loops : draft.openLoops.map (fun loop => (loop.header, loop.span)) =
    headers.map fun tag => (tag.header, tag.word.merge tag.closing)

theorem Opens.feed {pieces : List Piece} {headers : List HeaderTag} (opens : Opens pieces headers) :
    ∃ draft, Draft.empty.feed (allTokens pieces) = .ok draft ∧ Kept headers draft := by
  induction opens with
  | balanced balanced =>
      obtain ⟨draft, fed, place, loops⟩ := balanced.feed .empty rfl
      exact ⟨draft, fed, place, by rw [loops]; rfl⟩
  | @header before headers header body _ balanced ih =>
      obtain ⟨outer, fedBefore, place, kept⟩ := ih
      have opened := Draft.feed_header_piece place header
      obtain ⟨draft, fedBody, inside, loops⟩ :=
        balanced.feed _ (Draft.position_openLoop outer header.header _)
      refine ⟨draft, ?_, inside, ?_⟩
      · rw [allTokens_append, Draft.feed_append fedBefore, allTokens_cons,
          Draft.feed_append opened, fedBody]
      · rw [loops, List.map_cons, ← kept]
        rfl

theorem Balanced.feed_ending {before : List Piece} (balanced : Balanced before) (ending : EndTag)
    (after : List Piece) : Draft.empty.feed (allTokens (before ++ .ending ending :: after)) =
      .error ⟨.unmatchedEnd, ending.word⟩ := by
  obtain ⟨draft, fed, place, loops⟩ := balanced.feed .empty rfl
  have surplus := Draft.feed_ending_piece place ending
  rw [Draft.closeLoop, loops] at surplus
  rw [allTokens_append, Draft.feed_append fed, allTokens_cons]
  exact Draft.feed_append_of_error surplus _

theorem Balanced.append {left right : List Piece} (balanced : Balanced left)
    (behind : Balanced right) : Balanced (left ++ right) := by
  induction balanced with
  | nil => exact behind
  | node plain _ ih => exact .node plain ih
  | loop body _ _ ih =>
      rw [List.cons_append, List.append_assoc, List.cons_append]
      exact .loop body ih

theorem LeaveOpen.of_append {front back : List Piece} (isOpen : LeaveOpen (front ++ back)) :
    LeaveOpen front := by
  rintro body ending others rfl
  exact isOpen body ending (others ++ back) (by simp)

theorem Balanced.leaveOpen {pieces : List Piece} (balanced : Balanced pieces) :
    LeaveOpen pieces := by
  rintro body ending others rfl inner
  obtain ⟨draft, fed, -⟩ := balanced.feed .empty rfl
  rw [inner.feed_ending] at fed
  cases fed

theorem Balanced.not_hasOpen {pieces : List Piece} (balanced : Balanced pieces) :
    ¬HasOpen pieces := by
  induction balanced with
  | nil =>
      rintro ⟨before, header, behind, split, -⟩
      simp at split
  | @node piece others plain _ ih =>
      rintro ⟨before, header, behind, split, isOpen⟩
      rcases List.cons_eq_append_iff.mp split with ⟨-, same⟩ | ⟨before, -, rfl⟩
      · obtain ⟨rfl, -⟩ := List.cons.inj same
        simp [node?] at plain
      · exact ih ⟨before, header, behind, rfl, isOpen⟩
  | @loop first body ending others balanced _ ihBody ihOthers =>
      rintro ⟨before, header, behind, split, isOpen⟩
      rcases List.cons_eq_append_iff.mp split with ⟨-, same⟩ | ⟨before, -, inner⟩
      · obtain ⟨-, rfl⟩ := List.cons.inj same
        exact isOpen body ending others rfl balanced
      rcases eq_or_apart inner with ⟨-, same, -⟩ | ⟨later, rfl, rfl⟩ | ⟨later, -, rfl⟩
      · cases same
      · exact ihBody ⟨before, header, later, rfl, isOpen.of_append⟩
      · exact ihOthers ⟨later, header, behind, rfl, isOpen⟩

theorem Opens.append {pieces more : List Piece} {headers : List HeaderTag}
    (opens : Opens pieces headers) (balanced : Balanced more) : Opens (pieces ++ more) headers := by
  cases opens with
  | balanced before => exact .balanced (before.append balanced)
  | header outer body =>
      rw [List.append_assoc, List.cons_append]
      exact .header outer (body.append balanced)

theorem Opens.close {pieces : List Piece} {header : HeaderTag} {headers : List HeaderTag}
    (opens : Opens pieces (header :: headers)) (ending : EndTag) :
    Opens (pieces ++ [.ending ending]) headers := by
  cases opens with
  | header outer body =>
      rw [List.append_assoc, List.cons_append]
      exact outer.append (.loop body .nil)

theorem Opens.hasOpen {pieces : List Piece} {header : HeaderTag} {headers : List HeaderTag}
    (opens : Opens pieces (header :: headers)) : HasOpen pieces := by
  cases opens with
  | header outer body => exact ⟨_, _, _, rfl, body.leaveOpen⟩

theorem Opens.of_nil {pieces : List Piece} (opens : Opens pieces []) : Balanced pieces := by
  cases opens with
  | balanced balanced => exact balanced

theorem NoSurplus.concat {pieces : List Piece} {last : Piece} (earlier : NoSurplus pieces)
    (closes : ∀ ending, last = .ending ending → HasOpen pieces) : NoSurplus (pieces ++ [last]) := by
  intro before ending after split
  rcases eq_or_apart split with ⟨rfl, same, -⟩ | ⟨later, rfl, -⟩ | ⟨later, -, nothing⟩
  · exact closes ending same
  · exact earlier before ending later rfl
  · simp at nothing

/-- Read from the front, pieces leave some headers open until an end comes that closes none. -/
theorem opens_or_surplus (pieces : List Piece) :
    (∃ headers, Opens pieces headers) ∧ NoSurplus pieces ∨
      ∃ before ending after, FirstSurplus pieces before ending after := by
  induction pieces using List.reverseRecOn with
  | nil => exact Or.inl ⟨⟨[], .balanced .nil⟩, fun _ _ _ split => by simp at split⟩
  | append_singleton pieces last ih =>
      rcases ih with ⟨⟨headers, opens⟩, earlier⟩ | ⟨before, ending, after, split, surplus, first⟩
      · cases last with
        | text content span =>
            refine Or.inl ⟨⟨headers, opens.append (.node rfl .nil)⟩, earlier.concat ?_⟩
            rintro _ ⟨⟩
        | echo tag =>
            refine Or.inl ⟨⟨headers, opens.append (.node rfl .nil)⟩, earlier.concat ?_⟩
            rintro _ ⟨⟩
        | header tag =>
            refine Or.inl ⟨⟨tag :: headers, .header opens .nil⟩, earlier.concat ?_⟩
            rintro _ ⟨⟩
        | ending tag =>
            cases headers with
            | nil => exact Or.inr ⟨pieces, tag, [], rfl, opens.of_nil.not_hasOpen, earlier⟩
            | cons header headers =>
                exact Or.inl ⟨⟨headers, opens.close tag⟩, earlier.concat fun _ _ => opens.hasOpen⟩
      · exact Or.inr ⟨before, ending, after ++ [last], by simp [split], surplus, first⟩

theorem balanced_or_surplus_or_open (pieces : List Piece) :
    Balanced pieces ∨ (∃ before ending after, FirstSurplus pieces before ending after) ∨
      NoSurplus pieces ∧ ∃ header headers, Opens pieces (header :: headers) := by
  rcases opens_or_surplus pieces with ⟨⟨headers, opens⟩, noSurplus⟩ | surplus
  · cases headers with
    | nil => exact Or.inl opens.of_nil
    | cons header headers => exact Or.inr (Or.inr ⟨noSurplus, header, headers, opens⟩)
  · exact Or.inr (Or.inl surplus)

theorem FirstSurplus.balanced {pieces before after : List Piece} {ending : EndTag}
    (surplus : FirstSurplus pieces before ending after) : Balanced before := by
  rcases balanced_or_surplus_or_open before with
    balanced | ⟨front, earlier, others, found⟩ | ⟨-, header, headers, opens⟩
  · exact balanced
  · exact absurd (surplus.first front earlier others found.split) found.surplus
  · exact absurd opens.hasOpen surplus.surplus

theorem Opens.innermostOpen {pieces : List Piece} {header : HeaderTag} {headers : List HeaderTag}
    (opens : Opens pieces (header :: headers)) :
    ∃ before behind, InnermostOpen pieces before header behind := by
  cases opens with
  | header outer body => exact ⟨_, _, rfl, body.leaveOpen, body.not_hasOpen⟩

theorem InnermostOpen.unique {pieces before behind others rest : List Piece}
    {header other : HeaderTag} (innermost : InnermostOpen pieces before header behind)
    (same : InnermostOpen pieces others other rest) : header = other := by
  rcases eq_or_apart (innermost.split.symm.trans same.split) with
    ⟨-, found, -⟩ | ⟨between, -, rfl⟩ | ⟨between, -, rfl⟩
  · cases found
    rfl
  · exact absurd ⟨between, header, behind, rfl, innermost.isOpen⟩ same.last
  · exact absurd ⟨between, other, rest, rfl, same.isOpen⟩ innermost.last

end Piece

namespace Document

variable {pieces : List Piece}

theorem ofTokens_allTokens (pieces : List Piece) (final : Span) (rest : List Token) :
    ofTokens (Piece.allTokens pieces ++ ⟨.endOfInput, final⟩ :: rest) =
      Draft.empty.feed (Piece.allTokens pieces) >>= fun draft => draft.finish final := by
  refine Draft.complete_append (fun token member => ?_) _ _ _
  obtain ⟨piece, -, inside⟩ := List.mem_flatMap.mp member
  exact Piece.isEndOfInput_of_mem_tokens inside

theorem ofTokens_of_balanced (balanced : Piece.Balanced pieces) (final : Span) (rest : List Token) :
    ∃ document, ofTokens (Piece.allTokens pieces ++ ⟨.endOfInput, final⟩ :: rest) =
      .ok document := by
  obtain ⟨⟨position, nodes, loops⟩, fed, place, kept⟩ := balanced.feed .empty rfl
  obtain rfl : position = .content := place
  obtain rfl : loops = [] := kept
  exact ⟨⟨nodes.reverse⟩, by rw [ofTokens_allTokens, fed]; rfl⟩

theorem ofTokens_of_firstSurplus {before after : List Piece} {ending : EndTag}
    (surplus : Piece.FirstSurplus pieces before ending after) (final : Span) (rest : List Token) :
    ofTokens (Piece.allTokens pieces ++ ⟨.endOfInput, final⟩ :: rest) =
      .error ⟨.unmatchedEnd, ending.word⟩ := by
  rw [ofTokens_allTokens, surplus.split, surplus.balanced.feed_ending]
  rfl

theorem ofTokens_of_opens {header : HeaderTag} {headers : List HeaderTag}
    (opens : Piece.Opens pieces (header :: headers)) (final : Span) (rest : List Token) :
    ofTokens (Piece.allTokens pieces ++ ⟨.endOfInput, final⟩ :: rest) =
      .error ⟨.unclosedLoop header.header.loopVariable, header.word.merge header.closing⟩ := by
  obtain ⟨⟨position, nodes, loops⟩, fed, place, kept⟩ := opens.feed
  obtain rfl : position = .content := place
  obtain ⟨innermost, others, rfl, same, -⟩ := List.map_eq_cons_iff.mp kept
  obtain ⟨sameHeader, sameSpan⟩ := Prod.mk.inj same
  rw [ofTokens_allTokens, fed, ← sameHeader, ← sameSpan]
  rfl

/-- Among complete pieces, the headers and ends of loops alone decide whether the parser accepts
them, and if not, which tag it reports. -/
theorem ofTokens_followsBrackets (pieces : List Piece) (final : Span) (rest : List Token) :
    Piece.FollowsBrackets pieces
      (ofTokens (Piece.allTokens pieces ++ ⟨.endOfInput, final⟩ :: rest)) := by
  constructor
  case accepted =>
    refine ⟨?_, fun balanced => ofTokens_of_balanced balanced final rest⟩
    rintro ⟨document, accepted⟩
    rcases Piece.balanced_or_surplus_or_open pieces with
      balanced | ⟨before, ending, after, surplus⟩ | ⟨-, header, headers, opens⟩
    · exact balanced
    · rw [ofTokens_of_firstSurplus surplus] at accepted
      cases accepted
    · rw [ofTokens_of_opens opens] at accepted
      cases accepted
  case surplus =>
    intro before ending after surplus
    exact ofTokens_of_firstSurplus surplus final rest
  case unclosed =>
    intro noSurplus before header behind innermost
    rcases Piece.balanced_or_surplus_or_open pieces with
      balanced | ⟨front, ending, after, surplus⟩ | ⟨-, found, headers, opens⟩
    · exact absurd ⟨before, header, behind, innermost.split, innermost.isOpen⟩ balanced.not_hasOpen
    · exact absurd (noSurplus front ending after surplus.split) surplus.surplus
    · obtain ⟨outer, body, last⟩ := opens.innermostOpen
      obtain rfl := innermost.unique last
      exact ofTokens_of_opens opens final rest
  case exhaustive =>
    refine (Piece.balanced_or_surplus_or_open pieces).imp_right (Or.imp_right ?_)
    rintro ⟨noSurplus, header, headers, opens⟩
    obtain ⟨before, behind, innermost⟩ := opens.innermostOpen
    exact ⟨noSurplus, before, header, behind, innermost⟩

/-- A surplus end is reported even where a loop behind it is never closed. -/
example : parse "a\x7b$END$\x7d\x7b$FOR i 0 3 1$\x7d" = .error ⟨.unmatchedEnd, ⟨3, 6⟩⟩ := by
  cbv

end Document

end TagTemplate
