import TagTemplate.Proofs.Double.Bits
import TagTemplate.Proofs.ParsedShape

/-!
Equality of documents. Documents that are equal under `==` have linear forms that differ in the
values of doubles alone. So one of them can be written if the other can, and both hold as many
doubles.
-/

namespace TagTemplate

namespace Token.Kind

/-- A token with the value of its double, if it is one, left out. -/
def blur : Kind → Kind
  | .double _ => .double Double.nan
  | kind => kind

def double? : Kind → Option Double
  | .double number => some number
  | _ => none

@[simp] theorem readable_blur (kind : Kind) : kind.blur.Readable ↔ kind.Readable := by
  cases kind <;> simp [blur, Readable, InTag]

@[simp] theorem precedes_blur (left right : Kind) :
    Precedes left.blur right.blur ↔ Precedes left right := by
  cases left <;> cases right <;> simp [blur, Precedes]

@[simp] theorem isSome_double?_blur (kind : Kind) :
    kind.blur.double?.isSome = kind.double?.isSome := by
  cases kind <;> simp [blur, double?]

end Token.Kind

namespace Element

def outline (element : Element) : Token.Kind :=
  element.kind.blur

theorem blur_comp_kind : Token.Kind.blur ∘ kind = outline :=
  rfl

theorem outline_of_beq {left right : Element} (same : (left == right) = true) :
    left.outline = right.outline := by
  cases left <;> cases right <;>
    simp_all [BEq.beq, instBEqElement.beq, outline, kind, Token.Kind.blur]

theorem map_outline_of_beq {lefts rights : List Element} (same : (lefts == rights) = true) :
    lefts.map outline = rights.map outline := by
  induction lefts generalizing rights with
  | nil => cases rights <;> simp at same ⊢
  | cons left lefts ih =>
      cases rights with
      | nil => simp at same
      | cons right rights =>
          simp only [List.cons_beq_cons, Bool.and_eq_true] at same
          rw [List.map_cons, List.map_cons, outline_of_beq same.1, ih same.2]

theorem bounding_of_outline_eq {left right : Element} (same : left.outline = right.outline)
    (bounding : left.Bounding) : right.Bounding := by
  cases left <;> cases right <;> simp_all [outline, kind, Token.Kind.blur, Bounding]

theorem forall_bounding_of_map_outline_eq {lefts rights : List Element}
    (same : lefts.map outline = rights.map outline) (bounding : ∀ left ∈ lefts, left.Bounding) :
    ∀ right ∈ rights, right.Bounding := by
  intro right member
  have outlined : right.outline ∈ lefts.map outline := by
    rw [same]
    exact List.mem_map_of_mem member
  obtain ⟨left, isLeft, alike⟩ := List.mem_map.mp outlined
  exact bounding_of_outline_eq alike (bounding left isLeft)

end Element

theorem LoopHeader.outline_of_beq {left right : LoopHeader} (same : (left == right) = true) :
    left.loopVariable = right.loopVariable ∧
      left.bounds.map Element.outline = right.bounds.map Element.outline := by
  obtain ⟨leftVariable, leftStart, leftStop, leftStep⟩ := left
  obtain ⟨rightVariable, rightStart, rightStop, rightStep⟩ := right
  simp only [BEq.beq, instBEqLoopHeader.beq, Bool.and_eq_true, decide_eq_true_eq] at same
  obtain ⟨named, starts, stops, steps⟩ := same
  have start := Element.outline_of_beq starts
  have stop := Element.outline_of_beq stops
  cases leftStep <;> cases rightStep <;> simp [Option.instBEq.beq] at steps
  · simp [bounds, named, start, stop]
  · simp [bounds, named, start, stop, Element.outline_of_beq steps]

namespace Node

theorem sameAll_cons {left : Node} {lefts rights : List Node}
    (same : sameAll (left :: lefts) rights = true) :
    ∃ right others, rights = right :: others ∧ Node.same left right = true ∧
      sameAll lefts others = true := by
  cases rights with
  | nil => simp [sameAll] at same
  | cons right others => exact ⟨right, others, rfl, by simpa [sameAll] using same⟩

theorem sameAll_spec {lefts rights : List Node} (same : sameAll lefts rights = true)
    (grammatical : ∀ node ∈ forest lefts, node.Grammatical) :
    (∀ node ∈ forest rights, node.Grammatical) ∧
      (linearAll Element.spelling lefts).map Token.Kind.blur =
        (linearAll Element.spelling rights).map Token.Kind.blur := by
  induction lefts using Node.forestInduction generalizing rights with
  | nil =>
      cases rights with
      | nil => simp
      | cons right rights => simp [sameAll] at same
  | document children others _ _ =>
      exact (grammatical (.document children) (by simp [forest_cons])).elim
  | text content others ih =>
      obtain ⟨right, rights, rfl, first, later⟩ := sameAll_cons same
      cases right <;> simp only [Node.same, Bool.false_eq_true, beq_iff_eq] at first
      subst first
      simp only [forest_cons, children, forest_nil, List.nil_append, List.forall_mem_cons]
        at grammatical ⊢
      obtain ⟨obeyed, alike⟩ := ih later grammatical.2
      exact ⟨⟨trivial, obeyed⟩, by simp [linearAll, linear, alike]⟩
  | loop header children others ihChildren ihOthers =>
      obtain ⟨right, rights, rfl, first, later⟩ := sameAll_cons same
      cases right <;> simp only [Node.same, Bool.false_eq_true, Bool.and_eq_true] at first
      obtain ⟨named, bounds⟩ := LoopHeader.outline_of_beq first.1
      simp only [forest_cons, Node.children, List.forall_mem_cons, List.forall_mem_append]
        at grammatical ⊢
      obtain ⟨bounding, inner, outer⟩ := grammatical
      obtain ⟨innerObeyed, innerAlike⟩ := ihChildren first.2 inner
      obtain ⟨outerObeyed, outerAlike⟩ := ihOthers later outer
      refine ⟨⟨Element.forall_bounding_of_map_outline_eq bounds bounding, innerObeyed,
        outerObeyed⟩, ?_⟩
      simp [linearAll, linear, LoopHeader.linear, named, Element.blur_comp_kind, bounds, innerAlike,
        outerAlike]
  | echo elements others ih =>
      obtain ⟨right, rights, rfl, first, later⟩ := sameAll_cons same
      cases right <;> simp only [Node.same, Bool.false_eq_true] at first
      have contents := Element.map_outline_of_beq first
      simp only [forest_cons, children, forest_nil, List.nil_append, List.forall_mem_cons]
        at grammatical ⊢
      obtain ⟨obeyed, alike⟩ := ih later grammatical.2
      refine ⟨⟨trivial, obeyed⟩, ?_⟩
      simp [linearAll, linear, Element.blur_comp_kind, contents, alike]

end Node

section Reflexivity

theorem Element.beq_self {element : Element} (finite : element.Finite) :
    (element == element) = true := by
  cases element with
  | double number => exact Double.beq_self_of_isFinite finite
  | _ => simp [BEq.beq, instBEqElement.beq]

theorem Element.beq_self_all {elements : List Element}
    (finite : ∀ element ∈ elements, element.Finite) : (elements == elements) = true := by
  induction elements with
  | nil => rfl
  | cons element others ih =>
      obtain ⟨first, later⟩ := List.forall_mem_cons.mp finite
      simp [Element.beq_self first, ih later]

theorem LoopHeader.beq_self {header : LoopHeader}
    (finite : ∀ bound ∈ header.bounds, bound.Finite) : (header == header) = true := by
  obtain ⟨loopVariable, start, stop, step⟩ := header
  have starts : instBEqElement.beq start start = true :=
    Element.beq_self (finite start (by simp [bounds]))
  have stops : instBEqElement.beq stop stop = true :=
    Element.beq_self (finite stop (by simp [bounds]))
  simp only [BEq.beq, instBEqLoopHeader.beq, decide_true, starts, stops, Bool.true_and]
  cases step with
  | none => rfl
  | some step => exact Element.beq_self (finite step (by simp [bounds]))

theorem Node.sameAll_self {nodes : List Node}
    (finite : ∀ node ∈ forest nodes, ∀ element ∈ node.elements, element.Finite) :
    sameAll nodes nodes = true := by
  -- Only a NaN is not equal to itself, and no finite document holds one.
  induction nodes using Node.forestInduction with
  | nil => rfl
  | document children others ihChildren ihOthers =>
      simp only [forest_cons, Node.children, List.forall_mem_cons, List.forall_mem_append] at finite
      simp [sameAll, same, ihChildren finite.2.1, ihOthers finite.2.2]
  | text content others ih =>
      simp only [forest_cons, children, forest_nil, List.nil_append, List.forall_mem_cons] at finite
      simp [sameAll, same, ih finite.2]
  | loop header children others ihChildren ihOthers =>
      simp only [forest_cons, Node.children, Node.elements, List.forall_mem_cons,
        List.forall_mem_append] at finite
      obtain ⟨bounds, inner, outer⟩ := finite
      simp [sameAll, same, LoopHeader.beq_self bounds, ihChildren inner, ihOthers outer]
  | echo elements others ih =>
      simp only [forest_cons, children, Node.elements, forest_nil, List.nil_append,
        List.forall_mem_cons] at finite
      simp [sameAll, same, Element.beq_self_all finite.1, ih finite.2]

end Reflexivity

namespace Document

theorem Finite.beq_self {document : Document} (finite : document.Finite) :
    (document == document) = true :=
  Node.sameAll_self finite

def doubles (document : Document) : List Double :=
  document.linear.filterMap Token.Kind.double?

theorem grammatical_of_beq {left right : Document} (same : (left == right) = true)
    (grammatical : left.Grammatical) : right.Grammatical :=
  (Node.sameAll_spec same grammatical).1

theorem map_blur_linear_of_beq {left right : Document} (same : (left == right) = true)
    (grammatical : left.Grammatical) :
    left.linear.map Token.Kind.blur = right.linear.map Token.Kind.blur :=
  (Node.sameAll_spec same grammatical).2

theorem length_doubles_of_beq {left right : Document} (same : (left == right) = true)
    (grammatical : left.Grammatical) : left.doubles.length = right.doubles.length := by
  have alike := congrArg (List.countP fun kind => kind.double?.isSome)
    (map_blur_linear_of_beq same grammatical)
  simpa [doubles, List.length_filterMap_eq_countP, List.countP_map, Function.comp_def] using alike

theorem writable_of_beq {source : String} {parsed document : Document}
    (wasParsed : parse source = .ok parsed) (same : (parsed == document) = true) :
    document.Writable := by
  obtain ⟨grammatical, lexes⟩ := parse_eq_ok_iff_lexes.mp wasParsed
  have alike := map_blur_linear_of_beq same grammatical
  refine writable_of_linear (grammatical_of_beq same grammatical) ?_ ?_
  · have readable : ∀ kind ∈ parsed.linear.map Token.Kind.blur, kind.Readable := by
      intro kind member
      obtain ⟨sharp, isKind, rfl⟩ := List.mem_map.mp member
      exact (Token.Kind.readable_blur sharp).mpr
        (lexes.readable sharp (List.mem_append_left _ isKind))
    rw [alike] at readable
    intro kind member
    exact (Token.Kind.readable_blur kind).mp (readable _ (List.mem_map_of_mem member))
  · have precedes : ((parsed.linear ++ [Token.Kind.endOfInput]).map Token.Kind.blur).IsChain
        Token.Kind.Precedes := by
      rw [List.isChain_map]
      exact lexes.precedes.imp fun left right => (Token.Kind.precedes_blur left right).mpr
    rw [List.map_append, alike, ← List.map_append, List.isChain_map] at precedes
    exact precedes.imp fun left right => (Token.Kind.precedes_blur left right).mp

end Document

end TagTemplate
