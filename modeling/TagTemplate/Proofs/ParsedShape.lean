import TagTemplate.Proofs.Payloads

/-!
Documents that templates are read as. Parsing a template finds the grammatical document whose linear
form the template is cut into, and every such document can be written.
-/

namespace TagTemplate

namespace Node

theorem linear_eq_cons {node : Node} (grammatical : node.Grammatical) :
    ∃ kind kinds, node.linear Element.spelling = kind :: kinds ∧
      (kind = .startTag → node.text? = none) ∧ kind.isEndOfInput = false := by
  cases node with
  | document children => exact grammatical.elim
  | text content => exact ⟨_, _, rfl, by simp, rfl⟩
  | loop header children => exact ⟨_, _, rfl, fun _ => rfl, rfl⟩
  | echo elements => exact ⟨_, _, rfl, fun _ => rfl, rfl⟩

theorem parts_of_precedes {content : String} {next : Node} {kinds : List Token.Kind}
    (grammatical : next.Grammatical)
    (precedes : ∀ kind ∈ (next.linear Element.spelling ++ kinds).head?,
      Token.Kind.Precedes (.text content) kind) :
    Parts (.text content) next := by
  obtain ⟨kind, more, shape, noText, notEnd⟩ := linear_eq_cons grammatical
  intro found isText
  cases isText
  rcases precedes kind (by simp [shape]) content rfl with rfl | ⟨tag, unescaped⟩
  · simp [Token.Kind.isEndOfInput] at notEnd
  · exact ⟨noText tag, unescaped⟩

theorem last_cons {first : Node} {others : List Node} {holds : Node → Prop}
    (alone : others = [] → holds first) (last : ∀ node ∈ others.getLast?, holds node) :
    ∀ node ∈ (first :: others).getLast?, holds node := by
  intro node final
  cases others with
  | nil =>
      cases final
      exact alone rfl
  | cons next others =>
      rw [List.getLast?_cons_cons] at final
      exact last node final

theorem closed_of_text?_eq_none {node : Node} (noText : node.text? = none) : node.Closed := by
  simp [Closed, noText]

theorem closed_of_dropLast {siblings : List Node}
    (before : ∀ child ∈ siblings.dropLast, child.Closed)
    (last : ∀ child ∈ siblings.getLast?, child.Closed) : ∀ child ∈ siblings, child.Closed := by
  intro child member
  rcases List.eq_nil_or_concat siblings with rfl | ⟨front, final, rfl⟩
  · simp at member
  · simp only [List.concat_eq_append, List.dropLast_concat, List.getLast?_concat,
      Option.mem_def, Option.some.injEq, forall_eq', List.mem_append, List.mem_singleton] at *
    rcases member with earlier | rfl
    · exact before child earlier
    · exact last

theorem apart_cons {first : Node} {others : List Node} {tagBehind : Prop}
    (noText : first.text? = none) (parts : others.IsChain Parts)
    (last : tagBehind → ∀ node ∈ others.getLast?, node.Closed) :
    (first :: others).IsChain Parts ∧
      (tagBehind → ∀ node ∈ (first :: others).getLast?, node.Closed) := by
  refine ⟨List.isChain_cons.mpr ⟨?_, parts⟩, ?_⟩
  · simp [Parts, noText]
  · intro tag
    exact last_cons (fun _ => closed_of_text?_eq_none noText) (last tag)

theorem apart_cons_text {content : String} {others : List Node} {tail : List Token.Kind}
    (grammatical : ∀ node ∈ forest others, node.Grammatical)
    (precedes : ∀ kind ∈ (linearAll Element.spelling others ++ tail).head?,
      Token.Kind.Precedes (.text content) kind)
    (parts : others.IsChain Parts)
    (last : tail.head? = some .startTag → ∀ node ∈ others.getLast?, node.Closed) :
    (text content :: others).IsChain Parts ∧
      (tail.head? = some .startTag → ∀ node ∈ (text content :: others).getLast?, node.Closed) := by
  refine ⟨List.isChain_cons.mpr ⟨?_, parts⟩, ?_⟩
  · intro next ahead
    obtain ⟨more, rfl⟩ := List.head?_eq_some_iff.mp ahead
    have behind : ∀ kind ∈ (next.linear Element.spelling ++
        (linearAll Element.spelling more ++ tail)).head?,
        Token.Kind.Precedes (.text content) kind := by
      simpa [linearAll] using precedes
    exact parts_of_precedes (grammatical next (mem_forest_of_mem (by simp))) behind
  · intro tag
    refine last_cons ?_ (last tag)
    rintro rfl found isText
    cases isText
    rcases precedes .startTag (by simpa [linearAll] using tag) content rfl with ended | stops
    · contradiction
    · exact stops.2

theorem writable_of_readable {bound : Element} (readable : bound.kind.Readable) :
    bound.Writable := by
  cases bound <;> exact readable

theorem writable_of_linear {nodes : List Node} {tail : List Token.Kind}
    (grammatical : ∀ node ∈ forest nodes, node.Grammatical)
    (readable : ∀ kind ∈ linearAll Element.spelling nodes, kind.Readable)
    (precedes : (linearAll Element.spelling nodes ++ tail).IsChain Token.Kind.Precedes) :
    (∀ node ∈ forest nodes, node.Writable) ∧ nodes.IsChain Parts ∧
      (tail.head? = some .startTag → ∀ node ∈ nodes.getLast?, node.Closed) := by
  induction nodes using Node.forestInduction generalizing tail with
  | nil => simp
  | document children others _ _ =>
      exact (grammatical (.document children) (by simp [forest_cons])).elim
  | text content others ih =>
      simp only [forest_cons, children, forest_nil, List.nil_append, List.forall_mem_cons]
        at grammatical ⊢
      simp only [linearAll, linear, List.cons_append, List.nil_append, List.forall_mem_cons,
        List.isChain_cons] at readable precedes
      obtain ⟨writable, parts, last⟩ := ih grammatical.2 readable.2 precedes.2
      exact ⟨⟨readable.1, writable⟩, apart_cons_text grammatical.2 precedes.1 parts last⟩
  | loop header children others ihChildren ihOthers =>
      simp only [forest_cons, Node.children, List.forall_mem_cons, List.forall_mem_append]
        at grammatical ⊢
      obtain ⟨bounding, innerGrammatical, outerGrammatical⟩ := grammatical
      simp only [linearAll, linear, LoopHeader.linear, Element.flatMap_spelling, List.cons_append,
        List.nil_append, List.append_assoc, List.forall_mem_cons, List.forall_mem_append,
        List.forall_mem_map] at readable precedes
      obtain ⟨_, _, named, boundsReadable, _, innerReadable, _, _, _, outerReadable⟩ := readable
      have innerPrecedes := precedes.tail.tail.tail.right_of_append.tail
      have outerPrecedes := innerPrecedes.right_of_append.tail.tail.tail
      obtain ⟨innerWritable, innerParts, innerLast⟩ :=
        ihChildren innerGrammatical innerReadable innerPrecedes
      obtain ⟨outerWritable, outerParts, outerLast⟩ :=
        ihOthers outerGrammatical outerReadable outerPrecedes
      obtain ⟨apart, closed⟩ := isChain_parts_iff.mp innerParts
      have bounds : ∀ bound ∈ header.bounds, bound.Bounding ∧ bound.Writable := fun bound member =>
        ⟨bounding bound member, writable_of_readable (boundsReadable bound member)⟩
      exact ⟨⟨⟨named, bounds, apart, closed_of_dropLast closed (innerLast rfl)⟩, innerWritable,
        outerWritable⟩, apart_cons rfl outerParts outerLast⟩
  | echo elements others ih =>
      simp only [forest_cons, children, forest_nil, List.nil_append, List.forall_mem_cons]
        at grammatical ⊢
      simp only [linearAll, linear, Element.flatMap_spelling, List.cons_append, List.nil_append,
        List.append_assoc, List.forall_mem_cons, List.forall_mem_append, List.forall_mem_map]
        at readable precedes
      obtain ⟨_, _, elementsReadable, _, othersReadable⟩ := readable
      have othersPrecedes := precedes.tail.tail.right_of_append.tail
      obtain ⟨writable, parts, last⟩ := ih grammatical.2 othersReadable othersPrecedes
      have elementsWritable : ∀ element ∈ elements, element.Writable := fun element member =>
        writable_of_readable (elementsReadable element member)
      exact ⟨⟨elementsWritable, writable⟩, apart_cons rfl parts last⟩

end Node

namespace Document

/-- Parsing finds the grammatical document whose linear form the source is cut into. -/
theorem parse_eq_ok_iff_lexes {source : String} {document : Document} :
    parse source = .ok document ↔
      document.Grammatical ∧ Lexes .text source.toList (document.linear ++ [.endOfInput]) := by
  constructor
  · intro parsed
    unfold parse at parsed
    split at parsed
    · simp at parsed
    · rename_i tokens collected
      obtain ⟨grammatical, rest, shape⟩ := linear_of_ofTokens parsed
      have lexes := (tokenize_kinds_iff source _).mp ⟨tokens, collected, shape.symm⟩
      obtain ⟨front, whole, before⟩ := lexes.endOfInput_last
      -- Tokens behind the end of input would put it before the last token.
      obtain rfl : rest = [] := by
        rcases List.eq_nil_or_concat rest with empty | ⟨more, final, rfl⟩
        · exact empty
        · rw [List.concat_eq_append, ← List.append_assoc] at whole
          have inside := (List.append_inj' whole rfl).1
          have early := before .endOfInput (by simp [← inside])
          simp [Token.Kind.isEndOfInput] at early
      rw [List.append_nil] at lexes
      exact ⟨grammatical, lexes⟩
  · rintro ⟨grammatical, lexes⟩
    obtain ⟨tokens, collected, kinds⟩ := (tokenize_kinds_iff source _).mpr lexes
    simp only [parse, collected]
    exact ofTokens_of_linear grammatical ⟨[], by rw [kinds, List.append_nil]⟩

theorem writable_of_linear {document : Document}
    (grammatical : document.Grammatical)
    (readable : ∀ kind ∈ document.linear, kind.Readable)
    (precedes : (document.linear ++ [Token.Kind.endOfInput]).IsChain Token.Kind.Precedes) :
    document.Writable := by
  obtain ⟨writable, parts, _⟩ := Node.writable_of_linear grammatical readable precedes
  obtain ⟨apart, closed⟩ := Node.isChain_parts_iff.mp parts
  exact ⟨writable, apart, closed⟩

theorem writable_of_parse {source : String} {document : Document}
    (parsed : parse source = .ok document) : document.Writable := by
  obtain ⟨grammatical, lexes⟩ := parse_eq_ok_iff_lexes.mp parsed
  exact writable_of_linear grammatical
    (fun kind member => lexes.readable kind (List.mem_append_left _ member)) lexes.precedes

end Document

end TagTemplate
