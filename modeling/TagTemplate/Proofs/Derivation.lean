import TagTemplate.Document.Parsing
import TagTemplate.Proofs.Forest
import TagTemplate.Proofs.Lexing

/-!
The grammar of templates. Every node has a linear form, the kinds of the tokens it is written
with. The parser accepts a list of tokens if it begins with the linear form of a document and the
end of input behind it, and then builds this document.
-/

namespace TagTemplate

def Element.Bounding : Element → Prop
  | .integer _ | .double _ | .string _ | .variable _ => True
  | .function _ | .operator _ => False

def Node.Grammatical : Node → Prop
  | .document _ => False
  | .loop header _ => ∀ bound ∈ header.bounds, bound.Bounding
  | .text _ | .echo _ => True

/-- No document stands inside this one, and all loops run between constants and variables. -/
def Document.Grammatical (document : Document) : Prop :=
  ∀ node ∈ document.nodes, node.Grammatical

def Element.kind : Element → Token.Kind
  | .integer number => .integer number
  | .double number => .double number
  | .string content => .string content
  | .variable name => .variable name
  | .function name => .function name
  | .operator symbol => .operator symbol

section Linear

variable (spell : Element → List Token.Kind)

def LoopHeader.linear (header : LoopHeader) : List Token.Kind :=
  .startTag :: .loopWord :: .variable header.loopVariable ::
    (header.bounds.flatMap spell ++ [.endTag])

mutual

def Node.linear : Node → List Token.Kind
  | .document children => Node.linearAll children
  | .text content => [.text content]
  | .loop header children =>
      header.linear spell ++ Node.linearAll children ++ [.startTag, .endWord, .endTag]
  | .echo elements => .startTag :: .tagName :: (elements.flatMap spell ++ [.endTag])

def Node.linearAll : List Node → List Token.Kind
  | [] => []
  | node :: others => node.linear ++ Node.linearAll others

end

theorem Node.linearAll_append (left right : List Node) :
    Node.linearAll spell (left ++ right) =
      Node.linearAll spell left ++ Node.linearAll spell right := by
  induction left with
  | nil => simp [Node.linearAll]
  | cons node others ih => simp [Node.linearAll, ih]

end Linear

def Element.spelling (element : Element) : List Token.Kind :=
  [element.kind]

def Document.linear (document : Document) : List Token.Kind :=
  Node.linearAll Element.spelling document.children

@[simp] theorem Element.flatMap_spelling (elements : List Element) :
    elements.flatMap Element.spelling = elements.map Element.kind := by
  induction elements with
  | nil => rfl
  | cons element others ih => simp [Element.spelling, ih]

theorem Element.ofToken?_kind (element : Element) :
    Element.ofToken? element.kind = some element := by
  cases element <;> rfl

theorem Element.isEndOfInput_kind (element : Element) : element.kind.isEndOfInput = false := by
  cases element <;> rfl

theorem Element.kind_of_ofToken? {kind : Token.Kind} {element : Element}
    (spelled : Element.ofToken? kind = some element) : kind = element.kind := by
  cases kind <;> simp [Element.ofToken?] at spelled <;> subst spelled <;> rfl

def Position.linear : Position → List Token.Kind
  | .content => []
  | .tag => [.startTag]
  | .loopVariable _ => [.startTag, .loopWord]
  | .loopBounds _ name reversedBounds =>
      .startTag :: .loopWord :: .variable name :: reversedBounds.reverse.map Element.kind
  | .echo reversedElements => .startTag :: .tagName :: reversedElements.reverse.map Element.kind
  | .endOfEndTag _ => [.startTag, .endWord]

namespace Draft

theorem position_moveTo (draft : Draft) (position : Position) :
    (draft.moveTo position).position = position :=
  rfl

theorem position_attach (draft : Draft) (node : Node) : (draft.attach node).position = .content :=
  rfl

theorem position_openLoop (draft : Draft) (header : LoopHeader) (span : Span) :
    (draft.openLoop header span).position = .content :=
  rfl

/-- What a token of some kind does to a draft when it is accepted. -/
inductive Moves : Draft → Token.Kind → Draft → Prop
  | text {draft content} : draft.position = .content →
      Moves draft (.text content) (draft.attach (.text content))
  | startTag {draft} : draft.position = .content → Moves draft .startTag (draft.moveTo .tag)
  | loopWord {draft span} : draft.position = .tag →
      Moves draft .loopWord (draft.moveTo (.loopVariable span))
  | tagName {draft} : draft.position = .tag → Moves draft .tagName (draft.moveTo (.echo []))
  | endWord {draft span} : draft.position = .tag →
      Moves draft .endWord (draft.moveTo (.endOfEndTag span))
  | loopVariable {draft start name} : draft.position = .loopVariable start →
      Moves draft (.variable name) (draft.moveTo (.loopBounds start name []))
  | bound {draft start name reversedBounds bound} :
      draft.position = .loopBounds start name reversedBounds → bound.Bounding →
      Moves draft bound.kind (draft.moveTo (.loopBounds start name (bound :: reversedBounds)))
  | header {draft start name reversedBounds header span} :
      draft.position = .loopBounds start name reversedBounds →
      header.loopVariable = name → header.bounds = reversedBounds.reverse →
      Moves draft .endTag (draft.openLoop header span)
  | element {draft reversedElements element} : draft.position = .echo reversedElements →
      Moves draft element.kind (draft.moveTo (.echo (element :: reversedElements)))
  | echo {draft reversedElements} : draft.position = .echo reversedElements →
      Moves draft .endTag (draft.attach (.echo reversedElements.reverse))
  | close {draft word innermost others} : draft.position = .endOfEndTag word →
      draft.openLoops = innermost :: others →
      Moves draft .endTag ⟨.content,
        .loop innermost.header draft.reversedNodes.reverse :: innermost.reversedBefore, others⟩

theorem finishHeader_eq_ok {draft next : Draft} {span : Span} {name : String}
    {bounds : List Element} (finished : draft.finishHeader span name bounds = .ok next) :
    ∃ header, header.loopVariable = name ∧ header.bounds = bounds ∧
      next = draft.openLoop header span := by
  unfold finishHeader at finished
  split at finished
  · simp only [Except.ok.injEq] at finished
    exact ⟨_, rfl, rfl, finished.symm⟩
  · simp only [Except.ok.injEq] at finished
    exact ⟨_, rfl, rfl, finished.symm⟩
  · simp at finished

theorem addBound_eq_ok {draft next : Draft} {start : Span} {name : String}
    {reversedBounds : List Element} {token : Token}
    (added : draft.addBound start name reversedBounds token = .ok next) :
    ∃ bound : Element, token.kind = bound.kind ∧ bound.Bounding ∧
      next = draft.moveTo (.loopBounds start name (bound :: reversedBounds)) := by
  unfold addBound at added
  split at added
  · simp at added
  · simp at added
  · rename_i bound noOperator noFunction spelled
    simp only [Except.ok.injEq] at added
    refine ⟨bound, Element.kind_of_ofToken? spelled, ?_, added.symm⟩
    cases bound with
    | operator symbol => exact (noOperator symbol rfl).elim
    | function name => exact (noFunction name rfl).elim
    | _ => trivial
  · simp at added

theorem moves_of_step {draft next : Draft} {token : Token}
    (stepped : draft.step token = .ok next) : draft.Moves token.kind next := by
  cases place : draft.position with
  | content =>
      cases kind : token.kind <;> simp only [step, place, kind, reduceCtorEq, Except.ok.injEq]
        at stepped <;> subst stepped
      · exact .startTag place
      · exact .text place
  | tag =>
      cases kind : token.kind <;> simp only [step, place, kind, reduceCtorEq, Except.ok.injEq]
        at stepped <;> subst stepped
      · exact .loopWord place
      · exact .endWord place
      · exact .tagName place
  | loopVariable start =>
      cases kind : token.kind <;> simp only [step, place, kind, reduceCtorEq, Except.ok.injEq]
        at stepped
      subst stepped
      exact .loopVariable place
  | loopBounds start name reversedBounds =>
      by_cases ended : token.kind = .endTag
      · simp only [step, place, ended] at stepped
        obtain ⟨header, named, bounded, rfl⟩ := finishHeader_eq_ok stepped
        rw [ended]
        exact .header place named bounded
      · have added : draft.addBound start name reversedBounds token = .ok next := by
          simpa only [step, place] using stepped
        obtain ⟨bound, spelled, bounding, rfl⟩ := addBound_eq_ok added
        rw [spelled]
        exact .bound place bounding
  | echo reversedElements =>
      by_cases ended : token.kind = .endTag
      · simp only [step, place, ended, Except.ok.injEq] at stepped
        subst stepped
        rw [ended]
        exact .echo place
      · simp only [step, place] at stepped
        split at stepped
        · rename_i element spelled
          simp only [Except.ok.injEq] at stepped
          subst stepped
          rw [Element.kind_of_ofToken? spelled]
          exact .element place
        · simp at stepped
  | endOfEndTag word =>
      by_cases ended : token.kind = .endTag
      · simp only [step, place, ended, closeLoop] at stepped
        split at stepped
        · simp at stepped
        · rename_i innermost others opened
          simp only [Except.ok.injEq] at stepped
          subst stepped
          rw [ended]
          exact .close place opened
      · simp [step, place] at stepped

def enclosing : List OpenLoop → List Token.Kind
  | [] => []
  | innermost :: others =>
      enclosing others ++ Node.linearAll Element.spelling innermost.reversedBefore.reverse ++
        innermost.header.linear Element.spelling

/-- The tokens a draft was built from: a linear form that breaks off. -/
def linear (draft : Draft) : List Token.Kind :=
  enclosing draft.openLoops ++ Node.linearAll Element.spelling draft.reversedNodes.reverse ++
    draft.position.linear

theorem Moves.linear {draft next : Draft} {kind : Token.Kind} (moves : draft.Moves kind next) :
    next.linear = draft.linear ++ [kind] := by
  cases moves with
  | header place named bounded =>
      simp [Draft.linear, openLoop, place, Position.linear, enclosing, LoopHeader.linear, bounded,
        named, Node.linearAll]
  | close place opened =>
      simp [Draft.linear, place, opened, Position.linear, enclosing, Node.linearAll_append,
        Node.linearAll, Node.linear]
  | _ place =>
      simp [Draft.linear, attach, moveTo, place, Position.linear, Node.linearAll_append,
        Node.linearAll, Node.linear]

structure Grammatical (draft : Draft) : Prop where
  nodes : ∀ node ∈ Node.forest draft.reversedNodes, node.Grammatical
  loops : ∀ loop ∈ draft.openLoops, (∀ bound ∈ loop.header.bounds, bound.Bounding) ∧
    ∀ node ∈ Node.forest loop.reversedBefore, node.Grammatical
  bounds : ∀ start name reversedBounds, draft.position = .loopBounds start name reversedBounds →
    ∀ bound ∈ reversedBounds, bound.Bounding

theorem Grammatical.moveTo {draft : Draft} {position : Position} (grammatical : draft.Grammatical)
    (bounds : ∀ start name reversedBounds, position = .loopBounds start name reversedBounds →
      ∀ bound ∈ reversedBounds, bound.Bounding) : (draft.moveTo position).Grammatical :=
  ⟨grammatical.nodes, grammatical.loops, bounds⟩

theorem Grammatical.attach {draft : Draft} {node : Node} (grammatical : draft.Grammatical)
    (finished : ∀ inner ∈ node.subtree, inner.Grammatical) : (draft.attach node).Grammatical := by
  refine ⟨?_, grammatical.loops, by simp [Draft.attach]⟩
  intro inner member
  rcases List.mem_append.mp member with first | later
  · exact finished inner first
  · exact grammatical.nodes inner later

theorem Grammatical.openLoop {draft : Draft} {header : LoopHeader} {span : Span}
    (grammatical : draft.Grammatical) (bounding : ∀ bound ∈ header.bounds, bound.Bounding) :
    (draft.openLoop header span).Grammatical := by
  refine ⟨by simp [Draft.openLoop], ?_, by simp [Draft.openLoop]⟩
  intro loop member
  rcases List.mem_cons.mp member with rfl | earlier
  · exact ⟨bounding, grammatical.nodes⟩
  · exact grammatical.loops loop earlier

theorem Moves.grammatical {draft next : Draft} {kind : Token.Kind} (moves : draft.Moves kind next)
    (grammatical : draft.Grammatical) : next.Grammatical := by
  cases moves with
  | text place => exact grammatical.attach (by simp [Node.subtree, Node.Grammatical])
  | echo place => exact grammatical.attach (by simp [Node.subtree, Node.Grammatical])
  | loopVariable place =>
      refine grammatical.moveTo ?_
      rintro _ _ _ ⟨rfl, rfl, rfl⟩ bound member
      simp at member
  | bound place bounding =>
      refine grammatical.moveTo ?_
      rintro _ _ _ ⟨rfl, rfl, rfl⟩ bound member
      rcases List.mem_cons.mp member with rfl | earlier
      · exact bounding
      · exact grammatical.bounds _ _ _ place bound earlier
  | header place named bounded =>
      refine grammatical.openLoop ?_
      intro bound member
      rw [bounded, List.mem_reverse] at member
      exact grammatical.bounds _ _ _ place bound member
  | @close _ innermost others place opened =>
      have loops := grammatical.loops
      rw [opened] at loops
      obtain ⟨bounding, before⟩ := loops innermost (by simp)
      refine ⟨?_, fun loop member => loops loop (by simp [member]), by simp⟩
      intro node member
      rcases List.mem_append.mp member with inside | outside
      · rcases List.mem_cons.mp inside with rfl | child
        · exact bounding
        · exact grammatical.nodes node (Node.mem_forest_reverse.mp child)
      · exact before node outside
  | _ place => exact grammatical.moveTo (by simp)

def feed (draft : Draft) (tokens : List Token) : Except ParseError Draft :=
  tokens.foldlM step draft

theorem feed_cons {draft next : Draft} {token : Token} (others : List Token)
    (stepped : draft.step token = .ok next) : draft.feed (token :: others) = next.feed others := by
  rw [feed, List.foldlM_cons, stepped]
  rfl

theorem feed_invariant {draft next : Draft} {tokens : List Token}
    (fed : draft.feed tokens = .ok next) (grammatical : draft.Grammatical) :
    next.linear = draft.linear ++ tokens.map Token.kind ∧ next.Grammatical := by
  induction tokens generalizing draft with
  | nil =>
      cases fed
      exact ⟨by simp, grammatical⟩
  | cons token others ih =>
      simp only [feed, List.foldlM_cons] at fed
      cases stepped : draft.step token with
      | error error => simp [stepped, bind, Except.bind] at fed
      | ok middle =>
          have moves := moves_of_step stepped
          have fedOthers : middle.feed others = .ok next := by
            simpa [stepped, bind, Except.bind, feed] using fed
          obtain ⟨read, kept⟩ := ih fedOthers (moves.grammatical grammatical)
          exact ⟨by simp [read, moves.linear], kept⟩

theorem Moves.not_endOfInput {draft next : Draft} {kind : Token.Kind}
    (moves : draft.Moves kind next) : kind.isEndOfInput = false := by
  cases moves with
  | bound _ _ => exact Element.isEndOfInput_kind _
  | element _ => exact Element.isEndOfInput_kind _
  | _ => rfl

theorem feed_cons_eq_ok_iff {draft next : Draft} {token : Token} {others : List Token} :
    draft.feed (token :: others) = .ok next ↔
      ∃ middle, draft.step token = .ok middle ∧ middle.feed others = .ok next := by
  simp only [feed, List.foldlM_cons]
  cases draft.step token <;> simp [bind, Except.bind]

theorem complete_eq_ok_iff {draft : Draft} {last : Span} {tokens : List Token}
    {document : Document} :
    draft.complete last tokens = .ok document ↔
      ∃ front final rest next, tokens = front ++ final :: rest ∧ final.kind.isEndOfInput = true ∧
        draft.feed front = .ok next ∧ next.finish final.span = .ok document := by
  induction tokens generalizing draft last with
  | nil => simp [complete]
  | cons token others ih =>
      rw [complete]
      constructor
      · intro completed
        split at completed
        · rename_i ended
          exact ⟨[], token, others, draft, rfl, ended, rfl, completed⟩
        · split at completed
          · simp at completed
          · rename_i middle stepped
            obtain ⟨front, final, rest, next, rfl, ended, fed, finished⟩ := ih.mp completed
            exact ⟨token :: front, final, rest, next, rfl, ended,
              feed_cons_eq_ok_iff.mpr ⟨middle, stepped, fed⟩, finished⟩
      · rintro ⟨front, final, rest, next, shape, ended, fed, finished⟩
        cases front with
        | nil =>
            obtain ⟨rfl, rfl⟩ := List.cons.inj shape
            cases fed
            simp [ended, finished]
        | cons first front =>
            obtain ⟨rfl, rfl⟩ := List.cons.inj shape
            obtain ⟨middle, stepped, fed⟩ := feed_cons_eq_ok_iff.mp fed
            have more := (moves_of_step stepped).not_endOfInput
            simpa [more, stepped] using ih.mpr ⟨front, final, rest, next, rfl, ended, fed, finished⟩

theorem finish_eq_ok_iff {draft : Draft} {endOfInput : Span} {document : Document} :
    draft.finish endOfInput = .ok document ↔
      draft = ⟨.content, document.children.reverse, []⟩ := by
  obtain ⟨position, reversedNodes, openLoops⟩ := draft
  obtain ⟨children⟩ := document
  unfold finish
  split
  · rename_i place closed
    simp only at place closed
    simp [place, closed, List.reverse_eq_iff]
  · rename_i place opened
    simp only at opened
    simp [opened]
  · rename_i elsewhere _
    simp only [reduceCtorEq, mk.injEq, false_iff, not_and]
    intro place _ closed
    exact elsewhere place closed

theorem feed_append {draft middle : Draft} {front back : List Token}
    (fed : draft.feed front = .ok middle) : draft.feed (front ++ back) = middle.feed back := by
  unfold feed at fed ⊢
  rw [List.foldlM_append, fed]
  rfl

theorem step_bound {draft : Draft} {start : Span} {name : String} {reversedBounds : List Element}
    {token : Token} {bound : Element}
    (place : draft.position = .loopBounds start name reversedBounds) (bounding : bound.Bounding)
    (spelled : token.kind = bound.kind) :
    draft.step token = .ok (draft.moveTo (.loopBounds start name (bound :: reversedBounds))) := by
  simp only [step, place, addBound, spelled, Element.ofToken?_kind]
  cases bound with
  | operator _ => exact bounding.elim
  | function _ => exact bounding.elim
  | _ => rfl

theorem step_element {draft : Draft} {reversedElements : List Element} {token : Token}
    {element : Element} (place : draft.position = .echo reversedElements)
    (spelled : token.kind = element.kind) :
    draft.step token = .ok (draft.moveTo (.echo (element :: reversedElements))) := by
  simp only [step, place, spelled]
  cases element <;> rfl

theorem feed_bounds {draft : Draft} {start : Span} {name : String}
    {bounds reversedBounds : List Element} {tokens : List Token}
    (place : draft.position = .loopBounds start name reversedBounds)
    (bounding : ∀ bound ∈ bounds, bound.Bounding)
    (spelled : tokens.map Token.kind = bounds.map Element.kind) :
    draft.feed tokens =
      .ok (draft.moveTo (.loopBounds start name (bounds.reverse ++ reversedBounds))) := by
  induction bounds generalizing draft reversedBounds tokens with
  | nil =>
      obtain rfl := List.map_eq_nil_iff.mp spelled
      simp [feed, moveTo, ← place, pure, Except.pure]
  | cons bound others ih =>
      obtain ⟨token, rest, rfl, first, later⟩ := List.map_eq_cons_iff.mp spelled
      have stepped := step_bound place (bounding bound (by simp)) first
      have fed := ih (position_moveTo draft (.loopBounds start name (bound :: reversedBounds)))
        (fun inner member => bounding inner (by simp [member])) later
      exact feed_cons_eq_ok_iff.mpr ⟨_, stepped, by simpa [moveTo] using fed⟩

theorem feed_elements {draft : Draft} {elements reversedElements : List Element}
    {tokens : List Token} (place : draft.position = .echo reversedElements)
    (spelled : tokens.map Token.kind = elements.map Element.kind) :
    draft.feed tokens = .ok (draft.moveTo (.echo (elements.reverse ++ reversedElements))) := by
  induction elements generalizing draft reversedElements tokens with
  | nil =>
      obtain rfl := List.map_eq_nil_iff.mp spelled
      simp [feed, moveTo, ← place, pure, Except.pure]
  | cons element others ih =>
      obtain ⟨token, rest, rfl, first, later⟩ := List.map_eq_cons_iff.mp spelled
      have stepped := step_element place first
      have fed := ih (position_moveTo draft (.echo (element :: reversedElements))) later
      exact feed_cons_eq_ok_iff.mpr ⟨_, stepped, by simpa [moveTo] using fed⟩

theorem finishHeader_bounds (draft : Draft) (span : Span) (header : LoopHeader) :
    draft.finishHeader span header.loopVariable header.bounds =
      .ok (draft.openLoop header span) := by
  obtain ⟨loopVariable, start, stop, step⟩ := header
  cases step <;> rfl

theorem feed_headerTag {draft : Draft} {header : LoopHeader} {opening word name closing : Token}
    {bounds : List Token} (place : draft.position = .content)
    (bounding : ∀ bound ∈ header.bounds, bound.Bounding) (opens : opening.kind = .startTag)
    (isWord : word.kind = .loopWord) (isName : name.kind = .variable header.loopVariable)
    (isBounds : bounds.map Token.kind = header.bounds.map Element.kind)
    (closes : closing.kind = .endTag) :
    draft.feed (opening :: word :: name :: (bounds ++ [closing])) =
      .ok (draft.openLoop header (word.span.merge closing.span)) := by
  simp only [feed_cons_eq_ok_iff]
  refine ⟨draft.moveTo .tag, by simp [step, place, opens], _,
    by simp [step, moveTo, isWord]; rfl, _, by simp [step, moveTo, isName]; rfl, ?_⟩
  rw [feed_append (feed_bounds rfl bounding isBounds)]
  refine feed_cons_eq_ok_iff.mpr ⟨draft.openLoop header (word.span.merge closing.span), ?_, rfl⟩
  have finished := finishHeader_bounds (draft.moveTo (.loopBounds word.span header.loopVariable
    header.bounds.reverse)) (word.span.merge closing.span) header
  simpa [step, moveTo, openLoop, closes] using finished

theorem feed_header {draft : Draft} {header : LoopHeader} {tokens : List Token}
    (place : draft.position = .content) (bounding : ∀ bound ∈ header.bounds, bound.Bounding)
    (spelled : tokens.map Token.kind = header.linear Element.spelling) :
    ∃ span, draft.feed tokens = .ok (draft.openLoop header span) := by
  simp only [LoopHeader.linear, Element.flatMap_spelling, List.map_eq_cons_iff,
    List.map_eq_append_iff, List.map_eq_nil_iff] at spelled
  obtain ⟨opening, _, rfl, opens, word, _, rfl, isWord, name, _, rfl, isName, bounds, _, rfl,
    isBounds, closing, _, rfl, closes, rfl⟩ := spelled
  exact ⟨_, feed_headerTag place bounding opens isWord isName isBounds closes⟩

theorem feed_endTag {draft : Draft} {opening word closing : Token}
    (place : draft.position = .content) (opens : opening.kind = .startTag)
    (isWord : word.kind = .endWord) (closes : closing.kind = .endTag) :
    draft.feed [opening, word, closing] = draft.closeLoop word.span := by
  have opened : draft.step opening = .ok (draft.moveTo .tag) := by simp only [step, place, opens]
  have moved : (draft.moveTo .tag).step word = .ok (draft.moveTo (.endOfEndTag word.span)) := by
    simp only [step, moveTo, isWord]
  have closed : (draft.moveTo (.endOfEndTag word.span)).step closing =
      draft.closeLoop word.span := by
    simp only [step, moveTo, closes, closeLoop]
  rw [feed_cons _ opened, feed_cons _ moved, ← closed]
  exact bind_pure _

theorem feed_echo {draft : Draft} {elements : List Element} {tokens : List Token}
    (place : draft.position = .content)
    (spelled : tokens.map Token.kind = Node.linear Element.spelling (.echo elements)) :
    draft.feed tokens = .ok (draft.attach (.echo elements)) := by
  simp only [Node.linear, Element.flatMap_spelling, List.map_eq_cons_iff, List.map_eq_append_iff,
    List.map_eq_nil_iff] at spelled
  obtain ⟨opening, _, rfl, opens, name, _, rfl, isName, content, _, rfl, isContent, closing, _, rfl,
    closes, rfl⟩ := spelled
  simp only [feed_cons_eq_ok_iff]
  refine ⟨draft.moveTo .tag, by simp [step, place, opens], draft.moveTo (.echo []),
    by simp [step, moveTo, isName], ?_⟩
  rw [feed_append (feed_elements rfl isContent)]
  exact feed_cons_eq_ok_iff.mpr ⟨_, by simp [step, moveTo, attach, closes], rfl⟩

theorem feed_nodes {nodes : List Node} (grammatical : ∀ node ∈ Node.forest nodes, node.Grammatical)
    {draft : Draft} {tokens : List Token} (place : draft.position = .content)
    (spelled : tokens.map Token.kind = Node.linearAll Element.spelling nodes) :
    draft.feed tokens = .ok ⟨.content, nodes.reverse ++ draft.reversedNodes, draft.openLoops⟩ := by
  induction nodes using Node.forestInduction generalizing draft tokens with
  | nil =>
      obtain rfl := List.map_eq_nil_iff.mp spelled
      simp [feed, ← place, pure, Except.pure]
  | document children others _ _ =>
      exact (grammatical (.document children) (by simp [Node.forest_cons])).elim
  | text content others ih =>
      simp only [Node.linearAll, Node.linear, List.cons_append, List.nil_append,
        List.map_eq_cons_iff] at spelled
      obtain ⟨token, rest, rfl, first, later⟩ := spelled
      have fed := ih (fun node member => grammatical node (by simp [Node.forest_cons, member]))
        (position_attach draft (.text content)) later
      exact feed_cons_eq_ok_iff.mpr ⟨draft.attach (.text content), by simp [step, place, first],
        by simpa [attach] using fed⟩
  | loop header children others ihChildren ihOthers =>
      simp only [Node.linearAll, Node.linear, List.map_eq_append_iff] at spelled
      obtain ⟨_, rest, rfl, ⟨_, closing, rfl, ⟨opening, body, rfl, opens, inner⟩, closes⟩, later⟩ :=
        spelled
      simp only [Node.forest_cons, Node.children, List.forall_mem_cons, List.forall_mem_append]
        at grammatical
      obtain ⟨span, opened⟩ := feed_header place grammatical.1 opens
      have fedBody : (draft.openLoop header span).feed body = .ok ⟨.content, children.reverse,
          ⟨header, span, draft.reversedNodes⟩ :: draft.openLoops⟩ := by
        simpa [openLoop] using
          ihChildren grammatical.2.1 (position_openLoop draft header span) inner
      simp only [List.map_eq_cons_iff, List.map_eq_nil_iff] at closes
      obtain ⟨first, _, rfl, isOpening, word, _, rfl, isWord, last, _, rfl, isClosing, rfl⟩ :=
        closes
      have closed : feed ⟨.content, children.reverse,
          ⟨header, span, draft.reversedNodes⟩ :: draft.openLoops⟩ [first, word, last] =
            .ok ⟨.content, .loop header children :: draft.reversedNodes, draft.openLoops⟩ := by
        rw [feed_endTag rfl isOpening isWord isClosing, closeLoop, List.reverse_reverse]
      have fedRest : feed ⟨.content, .loop header children :: draft.reversedNodes, draft.openLoops⟩
          rest = .ok ⟨.content, others.reverse ++ .loop header children :: draft.reversedNodes,
            draft.openLoops⟩ :=
        ihOthers grammatical.2.2 (position_attach draft (.loop header children)) later
      rw [List.append_assoc, List.append_assoc, feed_append opened, feed_append fedBody,
        feed_append closed, fedRest]
      simp
  | echo elements others ih =>
      simp only [Node.linearAll, List.map_eq_append_iff] at spelled
      obtain ⟨front, rest, rfl, first, later⟩ := spelled
      have fed := ih (fun node member => grammatical node (by simp [Node.forest_cons, member]))
        (position_attach draft (.echo elements)) later
      rw [feed_append (feed_echo place first), fed]
      simp [attach]

end Draft

namespace Document

theorem linear_of_ofTokens {tokens : List Token} {document : Document}
    (parsed : ofTokens tokens = .ok document) :
    document.Grammatical ∧ document.linear ++ [.endOfInput] <+: tokens.map Token.kind := by
  obtain ⟨front, final, rest, next, rfl, ended, fed, finished⟩ :=
    Draft.complete_eq_ok_iff.mp parsed
  obtain ⟨read, grammatical⟩ := Draft.feed_invariant fed
    ⟨by simp [Draft.empty], by simp [Draft.empty], by simp [Draft.empty]⟩
  rw [Draft.finish_eq_ok_iff.mp finished] at read grammatical
  have spelled : document.linear = front.map Token.kind := by
    simpa [Draft.linear, Draft.enclosing, Draft.empty, Position.linear, Node.linearAll,
      Document.linear] using read
  have closed : final.kind = .endOfInput := Token.Kind.eq_endOfInput ended
  constructor
  · intro node member
    exact grammatical.nodes node (Node.mem_forest_reverse.mpr member)
  · exact ⟨rest.map Token.kind, by simp [spelled, closed]⟩

theorem ofTokens_of_linear {tokens : List Token} {document : Document}
    (grammatical : document.Grammatical)
    (spelled : document.linear ++ [.endOfInput] <+: tokens.map Token.kind) :
    ofTokens tokens = .ok document := by
  obtain ⟨rest, spelled⟩ := spelled
  rw [List.append_assoc] at spelled
  obtain ⟨front, _, rfl, isFront, isEnd⟩ := List.map_eq_append_iff.mp spelled.symm
  obtain ⟨final, behind, rfl, ended, _⟩ := List.map_eq_cons_iff.mp isEnd
  have start : Draft.empty.position = .content := rfl
  have fed := Draft.feed_nodes grammatical start isFront
  refine Draft.complete_eq_ok_iff.mpr ⟨front, final, behind, _, rfl, ?_, fed, ?_⟩
  · simp [ended, Token.Kind.isEndOfInput]
  · simp [Draft.finish_eq_ok_iff, Draft.empty]

/-- The parser accepts exactly the linear forms of grammatical documents, with the end of input
behind them and any tokens behind that, and returns the document whose linear form it has read. -/
theorem ofTokens_eq_ok_iff (tokens : List Token) (document : Document) :
    ofTokens tokens = .ok document ↔
      document.Grammatical ∧ document.linear ++ [.endOfInput] <+: tokens.map Token.kind :=
  ⟨linear_of_ofTokens, fun ⟨grammatical, spelled⟩ => ofTokens_of_linear grammatical spelled⟩

end Document

end TagTemplate
