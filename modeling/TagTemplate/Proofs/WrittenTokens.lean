import TagTemplate.Proofs.Lexemes

/-!
The tokens of written documents. Writing a document and lexing the text gives the linear form of
the document, in which a double that is not finite is spelled by names and signs.
-/

namespace TagTemplate

def Double.spelled (number : Double) : List Token.Kind :=
  if infinityRank < rank number then [.variable "NaN"]
  else if rank number = infinityRank then
    if isNegative number then [.operator .subtract, .variable "Infinity"]
    else [.variable "Infinity"]
  else [.double number]

def Element.spelled : Element → List Token.Kind
  | .double number => Double.spelled number
  | element => [element.kind]

theorem Element.spelled_of_finite {element : Element} (finite : element.Finite) :
    element.spelled = element.spelling := by
  cases element with
  | double number =>
      have below := (Double.isFinite_iff number).mp finite
      rw [spelled, Double.spelled, if_neg (by omega), if_neg (by omega)]
      rfl
  | _ => rfl

theorem isLiteralCharacter_of_isNumeralCharacter {character : Char}
    (numeral : Double.isNumeralCharacter character = true) :
    Scan.isLiteralCharacter character = true := by
  simp only [Double.isNumeralCharacter, Bool.or_eq_true, decide_eq_true_eq] at numeral
  rcases numeral with ((digit | rfl) | rfl) | rfl
  · exact Scan.isLiteralCharacter_of_isDigit digit
  · decide
  · decide
  · decide

theorem cuts_signed {negative : Prop} [Decidable negative] {body rest : List Char} {number : Number}
    (digit : ∃ first others, body = first :: others ∧ first.isDigit = true)
    (plain : ∀ character ∈ body, Double.isNumeralCharacter character = true)
    (denotes : Number.ofLiteral? (if negative then '-' :: body else body) = some number)
    (stopped : StartsBlank rest) :
    LexMode.tag.Cuts (if negative then '-' :: body else body) rest number.kind := by
  obtain ⟨first, others, rfl, isDigit⟩ := digit
  have literal : ∀ character ∈ first :: others, Scan.isLiteralCharacter character = true :=
    fun character member => isLiteralCharacter_of_isNumeralCharacter (plain character member)
  split at denotes
  · rename_i sign
    rw [if_pos sign]
    exact cuts_number (Or.inr ⟨rfl, isDigit⟩) (List.forall_mem_cons.mpr ⟨by decide, literal⟩)
      denotes stopped
  · rename_i noSign
    rw [if_neg noSign]
    exact cuts_number (Or.inl isDigit) literal denotes stopped

theorem cuts_integer {rest : List Char} (number : Int64) (stopped : StartsBlank rest) :
    LexMode.tag.Cuts (Integer.text number).toList rest (.integer number) := by
  have denotes := Number.ofLiteral?_integerText number
  rw [Integer.text, Integer.toList_toString] at denotes ⊢
  exact cuts_signed (Digits.text_eq_cons _)
    (fun character member =>
      Double.isNumeralCharacter_of_isDigit (Digits.isDigit_of_mem_text member)) denotes stopped

theorem cuts_double {number : Double} {rest : List Char} (finite : number.isFinite = true)
    (stopped : StartsBlank rest) :
    LexMode.tag.Cuts (Double.text number).toList rest (.double number) := by
  have denotes := Number.ofLiteral?_doubleText finite
  obtain ⟨body, _, shape, numeral, _, _⟩ := Double.text_of_isFinite finite
  rw [shape] at denotes ⊢
  exact cuts_signed numeral.digit numeral.plain denotes stopped

theorem isVariableName_nan : IsVariableName "NaN".toList :=
  ⟨⟨'N', ['a', 'N'], by decide, by decide⟩, List.all_eq_true.mp (by decide), by decide, by decide⟩

theorem isVariableName_infinity : IsVariableName "Infinity".toList :=
  ⟨⟨'I', ['n', 'f', 'i', 'n', 'i', 't', 'y'], by decide, by decide⟩,
    List.all_eq_true.mp (by decide), by decide, by decide⟩

theorem lexes_double {rest : List Char} {kinds : List Token.Kind} (number : Double)
    (stopped : StartsBlank rest) (later : Lexes .tag rest kinds) :
    Lexes .tag ((Double.text number).toList ++ rest) (Double.spelled number ++ kinds) := by
  by_cases finite : number.isFinite = true
  · have spelled : (Element.double number).spelled = (Element.double number).spelling :=
      Element.spelled_of_finite finite
    rw [show Double.spelled number = [.double number] from spelled]
    exact (cuts_double finite stopped).lexes later rfl
  · have above : ¬Double.rank number < Double.infinityRank :=
      fun below => finite ((Double.isFinite_iff number).mpr below)
    have nan := (cuts_variable isVariableName_nan stopped).lexes later rfl
    have infinity := (cuts_variable isVariableName_infinity stopped).lexes later rfl
    rw [String.ofList_toList] at nan infinity
    simp only [Double.text, Double.spelled]
    by_cases isNan : Double.infinityRank < Double.rank number
    · rw [if_pos isNan, if_pos isNan]
      exact nan
    · have infinite : Double.rank number = Double.infinityRank := by omega
      simp only [if_neg isNan, if_pos infinite]
      by_cases sign : Double.isNegative number = true
      · have signed := (cuts_operator .subtract rfl).lexes infinity rfl
        simpa [sign, Operator.symbol] using signed
      · simpa [sign] using infinity

theorem lexes_element {element : Element} {rest : List Char} {kinds : List Token.Kind}
    (writable : element.Writable) (stopped : StartsBlank rest) (later : Lexes .tag rest kinds) :
    Lexes .tag (element.text.toList ++ rest) (element.spelled ++ kinds) := by
  cases element with
  | integer number => exact (cuts_integer number stopped).lexes later rfl
  | double number => exact lexes_double number stopped later
  | string content =>
      have cuts := cuts_string rest (Text.quote_not_mem_escapeLineBreaks writable.1)
      rw [Text.unescape_escapeLineBreaks writable.2, String.ofList_toList] at cuts
      simpa [Element.text, Element.spelled, Element.kind] using cuts.lexes later rfl
  | «variable» name =>
      have cuts := cuts_variable writable stopped
      rw [String.ofList_toList] at cuts
      exact cuts.lexes later rfl
  | function name =>
      have cuts := cuts_function writable stopped
      rw [String.ofList_toList] at cuts
      simpa [Element.text, Element.spelled, Element.kind] using cuts.lexes later rfl
  | operator symbol =>
      have noNumber : Scan.startsWithDigit rest = false := by
        obtain ⟨blank, others, rfl, isBlank⟩ := stopped
        simp only [isTagBlank, Bool.or_eq_true, decide_eq_true_eq] at isBlank
        rcases isBlank with ((rfl | rfl) | rfl) | rfl <;> rfl
      have lexes := (cuts_operator symbol noNumber).lexes later rfl
      simpa [Element.text, Operator.text, Element.spelled, Element.kind] using lexes

theorem startsBlank_writtenAll {rest : List Char} (elements : List Element)
    (stopped : StartsBlank rest) : StartsBlank ((Element.writtenAll elements).toList ++ rest) := by
  cases elements with
  | nil => simpa [Element.writtenAll] using stopped
  | cons element others => exact ⟨' ', _, by simp [Element.writtenAll]; rfl, rfl⟩

theorem lexes_elements {elements : List Element} {rest : List Char} {kinds : List Token.Kind}
    (writable : ∀ element ∈ elements, element.Writable) (stopped : StartsBlank rest)
    (later : Lexes .tag rest kinds) :
    Lexes .tag ((Element.writtenAll elements).toList ++ rest)
      (elements.flatMap Element.spelled ++ kinds) := by
  induction elements with
  | nil => simpa [Element.writtenAll] using later
  | cons element others ih =>
      obtain ⟨first, later⟩ := List.forall_mem_cons.mp writable
      have spelled := lexes_element first (startsBlank_writtenAll others stopped) (ih later)
      simpa [Element.writtenAll] using spelled.space

theorem lexes_tagEnd {rest : List Char} {kinds : List Token.Kind} (later : Lexes .text rest kinds) :
    Lexes .tag (' ' :: '$' :: '}' :: rest) (.endTag :: kinds) :=
  ((cuts_endTag rest).lexes later rfl).space

theorem lexes_header {header : LoopHeader} {rest : List Char} {kinds : List Token.Kind}
    (named : IsVariableName header.loopVariable.toList)
    (writable : ∀ bound ∈ header.bounds, bound.Writable) (later : Lexes .text rest kinds) :
    Lexes .text (header.written.toList ++ rest) (header.linear Element.spelled ++ kinds) := by
  have stopped : StartsBlank (' ' :: '$' :: '}' :: rest) := ⟨' ', _, rfl, rfl⟩
  have bounds := lexes_elements writable stopped (lexes_tagEnd later)
  have name := (cuts_variable named (startsBlank_writtenAll header.bounds stopped)).lexes bounds rfl
  rw [String.ofList_toList] at name
  have word := (cuts_loopWord _).lexes name.space rfl
  have tag := (cuts_startTag .text _).lexes word.space rfl
  simpa [LoopHeader.written, LoopHeader.linear] using tag

theorem lexes_echo {elements : List Element} {rest : List Char} {kinds : List Token.Kind}
    (writable : ∀ element ∈ elements, element.Writable) (later : Lexes .text rest kinds) :
    Lexes .text ((Node.echo elements).written.toList ++ rest)
      ((Node.echo elements).linear Element.spelled ++ kinds) := by
  have stopped : StartsBlank (' ' :: '$' :: '}' :: rest) := ⟨' ', _, rfl, rfl⟩
  have content := lexes_elements writable stopped (lexes_tagEnd later)
  have tag := (cuts_startTag .text _).lexes ((cuts_tagName _).lexes content rfl) rfl
  simpa [Node.written, Node.linear] using tag

theorem lexes_loopEnd {rest : List Char} {kinds : List Token.Kind}
    (later : Lexes .text rest kinds) :
    Lexes .text ('{' :: '$' :: 'E' :: 'N' :: 'D' :: '$' :: '}' :: rest)
      (.startTag :: .endWord :: .endTag :: kinds) := by
  have word := (cuts_endWord _).lexes ((cuts_endTag rest).lexes later rfl) rfl
  exact (cuts_startTag .text _).lexes word rfl

namespace Node

theorem opensTag_written {node : Node} (writable : node.Writable) (noText : node.text? = none) :
    ['{', '$'] <+: node.written.toList := by
  cases node with
  | document children => exact writable.elim
  | text content => simp [text?] at noText
  | loop header children => exact ⟨_, by simp [written, LoopHeader.written]; rfl⟩
  | echo elements => exact ⟨_, by simp [written]; rfl⟩

theorem stopsText_writtenAll {content : String} {others : List Node} {rest : List Char}
    (parts : (Node.text content :: others).IsChain Parts)
    (writable : ∀ node ∈ others, node.Writable)
    (last : others = [] → StopsText content.toList rest) :
    StopsText content.toList ((writtenAll others).toList ++ rest) := by
  cases others with
  | nil => simpa [writtenAll] using last rfl
  | cons next others =>
      obtain ⟨noText, unescaped⟩ := (List.isChain_cons_cons.mp parts).1 content rfl
      have tag := opensTag_written (writable next (by simp)) noText
      refine Or.inr ⟨unescaped, tag.trans ?_⟩
      simp [writtenAll]

theorem last_of_cons {first : Node} {others : List Node} {holds : Node → Prop}
    (last : ∀ node ∈ (first :: others).getLast?, holds node) :
    ∀ node ∈ others.getLast?, holds node := by
  intro node final
  refine last node ?_
  rw [List.getLast?_cons, Option.mem_def.mp final]
  rfl

/-- Siblings are read as their tokens if their last text stops at what follows them. -/
theorem lexes_writtenAll {nodes : List Node} {rest : List Char} {kinds : List Token.Kind}
    (writable : ∀ node ∈ forest nodes, node.Writable) (parts : nodes.IsChain Parts)
    (last : ∀ node ∈ nodes.getLast?, ∀ content ∈ node.text?, StopsText content.toList rest)
    (later : Lexes .text rest kinds) :
    Lexes .text ((writtenAll nodes).toList ++ rest)
      (linearAll Element.spelled nodes ++ kinds) := by
  induction nodes using Node.forestInduction generalizing rest kinds with
  | nil => simpa [writtenAll, linearAll] using later
  | document children others _ _ =>
      exact (writable (.document children) (by simp [forest_cons])).elim
  | text content others ih =>
      simp only [forest_cons, children, forest_nil, List.nil_append, List.forall_mem_cons]
        at writable
      have behind := ih writable.2 parts.tail (last_of_cons last) later
      have stops := stopsText_writtenAll parts
        (fun node member => writable.2 node (mem_forest_of_mem member))
        (by rintro rfl; exact last (.text content) rfl content rfl)
      have text := (cuts_text writable.1 stops).lexes behind rfl
      simpa [writtenAll, written, linearAll, linear] using text
  | loop header children others ihChildren ihOthers =>
      simp only [forest_cons, Node.children, List.forall_mem_cons, List.forall_mem_append]
        at writable
      obtain ⟨⟨named, bounds, apart, closed⟩, inner, outer⟩ := writable
      have behind := lexes_loopEnd (ihOthers outer parts.tail (last_of_cons last) later)
      have innerParts : children.IsChain Parts := isChain_parts_iff.mpr
        ⟨apart, fun child member => closed child (List.dropLast_subset _ member)⟩
      -- The end of the loop opens a tag, which stops the last text of the body.
      have body := ihChildren inner innerParts (fun node final content isText =>
        Or.inr ⟨closed node (List.mem_of_getLast? final) content isText, _, rfl⟩) behind
      have loop := lexes_header named (fun bound member => (bounds bound member).2) body
      simpa [writtenAll, written, linearAll, linear] using loop
  | echo elements others ih =>
      simp only [forest_cons, children, forest_nil, List.nil_append, List.forall_mem_cons]
        at writable
      have behind := ih writable.2 parts.tail (last_of_cons last) later
      have echo := lexes_echo writable.1 behind
      simpa [writtenAll, linearAll] using echo

end Node

theorem Document.lexes_written {document : Document} (writable : document.Writable) :
    Lexes .text document.written.toList
      (Node.linearAll Element.spelled document.children ++ [.endOfInput]) := by
  have parts := Node.isChain_parts_iff.mpr ⟨writable.apart, writable.closed⟩
  have lexes := Node.lexes_writtenAll writable.nodes parts
    (fun _ _ _ _ => Or.inl rfl) (lexes_nil .text)
  simpa [Document.written] using lexes

end TagTemplate
