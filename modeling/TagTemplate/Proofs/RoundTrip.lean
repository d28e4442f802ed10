import TagTemplate.Proofs.Equality
import TagTemplate.Proofs.WrittenTokens

/-!
Writing and reading. A document that was parsed and holds finite doubles only is given back as it
was. A document built in any other way is given back, up to the sign of zeros, exactly if it is
well-formed.
-/

namespace TagTemplate

theorem flatMap_spelled {elements : List Element}
    (finite : ∀ element ∈ elements, element.Finite) :
    elements.flatMap Element.spelled = elements.flatMap Element.spelling := by
  induction elements with
  | nil => rfl
  | cons element others ih =>
      obtain ⟨first, later⟩ := List.forall_mem_cons.mp finite
      rw [List.flatMap_cons, List.flatMap_cons, Element.spelled_of_finite first, ih later]

theorem Node.linearAll_spelled {nodes : List Node}
    (finite : ∀ node ∈ forest nodes, ∀ element ∈ node.elements, element.Finite) :
    linearAll Element.spelled nodes = linearAll Element.spelling nodes := by
  induction nodes using Node.forestInduction with
  | nil => rfl
  | document children others ihChildren ihOthers =>
      simp only [forest_cons, Node.children, List.forall_mem_cons, List.forall_mem_append] at finite
      simp only [linearAll, linear, ihChildren finite.2.1, ihOthers finite.2.2]
  | text content others ih =>
      simp only [forest_cons, children, forest_nil, List.nil_append, List.forall_mem_cons] at finite
      simp only [linearAll, linear, ih finite.2]
  | loop header children others ihChildren ihOthers =>
      simp only [forest_cons, Node.children, Node.elements, List.forall_mem_cons,
        List.forall_mem_append] at finite
      obtain ⟨bounds, inner, outer⟩ := finite
      simp only [linearAll, linear, LoopHeader.linear, flatMap_spelled bounds, ihChildren inner,
        ihOthers outer]
  | echo elements others ih =>
      simp only [forest_cons, children, Node.elements, forest_nil, List.nil_append,
        List.forall_mem_cons] at finite
      simp only [linearAll, linear, flatMap_spelled finite.1, ih finite.2]

section Doubles

open Token.Kind

theorem Element.filterMap_spelled (element : Element) :
    element.spelled.filterMap double? =
      (element.spelling.filterMap double?).filter Double.isFinite := by
  cases element with
  | double number =>
      by_cases finite : number.isFinite = true
      · have same : (Element.double number).spelled = (Element.double number).spelling :=
          spelled_of_finite finite
        rw [same]
        simp [spelling, kind, double?, finite]
      · have above : ¬Double.rank number < Double.infinityRank :=
          fun below => finite ((Double.isFinite_iff number).mpr below)
        have none : (Double.spelled number).filterMap double? = [] := by
          unfold Double.spelled
          split
          · rfl
          · rw [if_pos (by omega)]
            split <;> rfl
        simp [spelled, none, spelling, kind, double?, finite]
  | _ => rfl

theorem Element.filterMap_flatMap_spelled (elements : List Element) :
    (elements.flatMap spelled).filterMap double? =
      ((elements.flatMap spelling).filterMap double?).filter Double.isFinite := by
  induction elements with
  | nil => rfl
  | cons element others ih =>
      rw [List.flatMap_cons, List.flatMap_cons, List.filterMap_append, List.filterMap_append,
        List.filter_append, filterMap_spelled, ih]

theorem Node.filterMap_linearAll_spelled (nodes : List Node) :
    (linearAll Element.spelled nodes).filterMap double? =
      ((linearAll Element.spelling nodes).filterMap double?).filter Double.isFinite := by
  induction nodes using Node.forestInduction with
  | nil => rfl
  | document children others ihChildren ihOthers =>
      simp only [linearAll, linear, List.filterMap_append, List.filter_append, ihChildren, ihOthers]
  | text content others ih =>
      simp only [linearAll, linear, List.cons_append, List.nil_append, List.filterMap_cons, double?,
        ih]
  | loop header children others ihChildren ihOthers =>
      simp only [linearAll, linear, LoopHeader.linear, List.cons_append, List.append_assoc,
        List.nil_append, List.filterMap_cons, List.filterMap_append, List.filter_append, double?,
        Element.filterMap_flatMap_spelled, ihChildren, ihOthers]
  | echo elements others ih =>
      simp only [linearAll, linear, List.cons_append, List.append_assoc, List.nil_append,
        List.filterMap_cons, List.filterMap_append, List.filter_append, double?,
        Element.filterMap_flatMap_spelled, ih]

theorem Node.kind_mem_linearAll {nodes : List Node} {node : Node} {element : Element}
    (member : node ∈ forest nodes) (inside : element ∈ node.elements) :
    element.kind ∈ linearAll Element.spelling nodes := by
  induction nodes using Node.forestInduction with
  | nil => simp at member
  | document children others ihChildren ihOthers =>
      simp only [forest_cons, Node.children, List.mem_cons, List.mem_append] at member
      rcases member with rfl | inner | outer
      · simp [elements] at inside
      · simp [linearAll, linear, ihChildren inner]
      · simp [linearAll, ihOthers outer]
  | text content others ih =>
      simp only [forest_cons, children, forest_nil, List.nil_append, List.mem_cons] at member
      rcases member with rfl | outer
      · simp [elements] at inside
      · simp [linearAll, ih outer]
  | loop header children others ihChildren ihOthers =>
      simp only [forest_cons, Node.children, List.mem_cons, List.mem_append] at member
      rcases member with rfl | inner | outer
      · have spelled := List.mem_map_of_mem (f := Element.kind) inside
        simp_all [linearAll, linear, LoopHeader.linear, elements]
      · simp [linearAll, linear, ihChildren inner]
      · simp [linearAll, ihOthers outer]
  | echo elements others ih =>
      simp only [forest_cons, children, forest_nil, List.nil_append, List.mem_cons] at member
      rcases member with rfl | outer
      · have spelled := List.mem_map_of_mem (f := Element.kind) inside
        simp_all [linearAll, linear, Node.elements]
      · simp [linearAll, ih outer]

end Doubles

namespace Document

theorem Writable.grammatical {document : Document} (writable : document.Writable) :
    document.Grammatical := by
  intro node member
  have shape := writable.nodes node member
  cases node with
  | document children => exact shape.elim
  | loop header children => exact fun bound isBound => (shape.2.1 bound isBound).1
  | text content => trivial
  | echo elements => trivial

theorem WellFormed.parse_written {document : Document} (wellFormed : document.WellFormed) :
    parse document.written = .ok document := by
  obtain ⟨writable, finite⟩ := wellFormed
  have lexes := lexes_written writable
  rw [Node.linearAll_spelled finite] at lexes
  exact parse_eq_ok_iff_lexes.mpr ⟨writable.grammatical, lexes⟩

/-- A document that was parsed from any source is given back as it is by writing it and parsing
what was written, as long as its doubles are finite. -/
theorem parse_written_of_parse {source : String} {document : Document}
    (parsed : parse source = .ok document) (finite : document.Finite) :
    parse document.written = .ok document :=
  WellFormed.parse_written ⟨writable_of_parse parsed, finite⟩

def twoAndHalf : Double :=
  Double.ofRank false 0x4004000000000000

theorem ofLiteral?_twoAndHalf :
    Number.ofLiteral? ['2', '.', '5'] = some (.double twoAndHalf) := by
  have noInteger : Integer.read? ['2', '.', '5'] = none := by decide
  have decimal : Double.Decimal.read? ['2', '.', '5'] = some ⟨25, -1⟩ := by decide
  have rank : Double.Decimal.rank ⟨25, -1⟩ = 0x4004000000000000 := by decide +kernel
  simp [Number.ofLiteral?, Number.readDouble?, noInteger, decimal, rank, twoAndHalf]

def halfwayLoop : Document :=
  ⟨[.text "a", .loop ⟨"i", .integer 1, .double twoAndHalf, some (.integer 1)⟩
    [.echo [.variable "i"]], .text "b\\"]⟩

theorem parse_halfwayLoop :
    parse "a\x7b$FOR i 1 2.5 1$\x7d\x7b$=i$\x7d\x7b$END$\x7db\\" = .ok halfwayLoop := by
  refine parse_eq_ok_iff_lexes.mpr ⟨?_, ?_⟩
  · simp [Grammatical, halfwayLoop, nodes, Node.forest_cons, Node.children, LoopHeader.bounds,
      Node.Grammatical, Element.Bounding]
  · iterate 5 refine .token rfl rfl ?_
    refine ((cuts_number (Or.inl rfl) (List.all_eq_true.mp (by decide)) ofLiteral?_twoAndHalf
      ⟨' ', _, rfl, rfl⟩).lexes ?_ rfl).space
    iterate 10 refine .token rfl rfl ?_
    exact .finish rfl

theorem finite_halfwayLoop : halfwayLoop.Finite := by
  have finite : twoAndHalf.isFinite = true :=
    (Double.isFinite_iff twoAndHalf).mpr (by decide +kernel)
  simp [Finite, halfwayLoop, nodes, Node.forest_cons, Node.children, Node.elements,
    LoopHeader.bounds, Element.Finite, finite]

theorem parse_written_halfwayLoop :
    parse "a\x7b$FOR i 1 2.5 1$\x7d\x7b$=i$\x7d\x7b$END$\x7db\\" = .ok halfwayLoop ∧
      halfwayLoop.Finite ∧ parse halfwayLoop.written = .ok halfwayLoop :=
  ⟨parse_halfwayLoop, finite_halfwayLoop,
    parse_written_of_parse parse_halfwayLoop finite_halfwayLoop⟩

theorem finite_of_doubles {document : Document}
    (finite : ∀ number ∈ document.doubles, number.isFinite = true) : document.Finite := by
  intro node member element inside
  have spelled := Node.kind_mem_linearAll member inside
  cases element with
  | double number => exact finite number (List.mem_filterMap.mpr ⟨_, spelled, rfl⟩)
  | _ => trivial

/-- Writing and parsing gives back a document, with doubles compared as numbers, exactly if it is
well-formed. -/
theorem parse_written_beq_iff (document : Document) :
    (∃ reparsed, parse document.written = .ok reparsed ∧ (reparsed == document) = true) ↔
      document.WellFormed := by
  constructor
  · rintro ⟨reparsed, parsed, same⟩
    have writable := writable_of_beq parsed same
    obtain ⟨grammatical, lexes⟩ := parse_eq_ok_iff_lexes.mp parsed
    -- The doubles read are the finite ones of those written, and they are just as many.
    have spelled := List.append_cancel_right (lexes.unique (lexes_written writable))
    have read : reparsed.doubles = document.doubles.filter Double.isFinite := by
      rw [doubles, spelled, Node.filterMap_linearAll_spelled]
      rfl
    have count := length_doubles_of_beq same grammatical
    rw [read, List.length_filter_eq_length_iff] at count
    exact ⟨writable, finite_of_doubles count⟩
  · intro wellFormed
    exact ⟨document, wellFormed.parse_written, wellFormed.2.beq_self⟩

end Document

end TagTemplate
