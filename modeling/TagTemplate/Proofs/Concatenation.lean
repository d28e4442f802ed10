import TagTemplate.Proofs.Lookahead
import TagTemplate.Proofs.ParsedShape
import TagTemplate.Proofs.SourceTiling

/-!
Templates put end to end. Unless a tag opening arises at the seam or is escaped there, the nodes of
both templates follow one another, and two texts that meet become one.
-/

namespace TagTemplate

/-- No tag opening arises where two pieces of source meet, and none is lost. -/
structure Meets (left right : List Char) : Prop where
  noTag : ∀ front back, left = front ++ ['{'] → right = '$' :: back → EndsInBackslash front
  noEscape : EndsInBackslash left → ¬['{', '$'] <+: right

/-- The nodes of two templates in order, where a text at the end of one and a text at the start of
the other become one text. -/
def Node.join (left right : List Node) : List Node :=
  match left.getLast?, right with
  | some (.text ending), .text beginning :: others =>
      left.dropLast ++ .text (ending ++ beginning) :: others
  | _, _ => left ++ right

theorem LexMode.cut_eq_ok {mode : LexMode} {characters : List Char} {kind : Token.Kind}
    (cut : (mode.cut characters).outcome = .ok kind) :
    ∃ gap lexeme, characters = gap ++ lexeme ++ (mode.cut characters).rest ∧ mode.Skips gap ∧
      kind.Decodes (String.ofList lexeme) := by
  have active : (Lexer.mk characters 0 mode false).finished = false := rfl
  obtain ⟨token, after, stepped, rfl⟩ := Lexer.exists_next active cut
  obtain ⟨_, rest, _⟩ := Lexer.next_eq_ok stepped
  obtain ⟨gap, lexeme, whole, skips, takes, _⟩ := Lexer.next_eq_takes stepped
  exact ⟨gap, lexeme, by rw [← rest]; exact whole, skips, takes.decodes⟩

theorem LexMode.kind_of_scan_text {characters : List Char} {kind : Token.Kind}
    (cut : (text.scan characters).outcome = .ok kind) :
    kind = .endOfInput ∨ kind = .startTag ∨ ∃ content, kind = .text content := by
  unfold scan at cut
  split at cut
  · cases cut
    exact Or.inl rfl
  · cases cut
    exact Or.inr (Or.inl rfl)
  · cases cut
    exact Or.inr (Or.inr ⟨_, rfl⟩)

namespace Lexes

theorem endTag {mode : LexMode} {characters : List Char} {kinds : List Token.Kind}
    (lexes : Lexes mode characters (.endTag :: kinds)) :
    mode = .tag ∧ ∃ gap rest, characters = gap ++ '$' :: '}' :: rest ∧
      (∀ blank ∈ gap, isTagBlank blank = true) ∧ Lexes .text rest kinds := by
  cases lexes with
  | token outcome more later =>
      obtain ⟨gap, lexeme, whole, ⟨blanks, _⟩, decodes⟩ := LexMode.cut_eq_ok outcome
      obtain rfl : lexeme = ['$', '}'] := by
        simpa using congrArg String.toList decodes
      refine ⟨?_, gap, _, by simpa using whole, blanks, later⟩
      cases mode with
      | tag => rfl
      | text =>
          rcases LexMode.kind_of_scan_text outcome with ended | opened | ⟨content, text⟩ <;>
            contradiction

theorem behind_blanks {gap characters : List Char} {kinds : List Token.Kind}
    (lexes : Lexes .tag characters kinds) (blanks : ∀ blank ∈ gap, isTagBlank blank = true) :
    Lexes .tag (gap ++ characters) kinds := by
  induction gap with
  | nil => exact lexes
  | cons blank gap ih =>
      exact (ih fun later member => blanks later (by simp [member])).blank (blanks blank (by simp))

theorem split_endTag {mode : LexMode} {characters : List Char} {front kinds : List Token.Kind}
    (lexes : Lexes mode characters (front ++ .endTag :: kinds)) :
    ∃ before rest, characters = before ++ '}' :: rest ∧ Lexes .text rest kinds ∧
      ∀ more others, Lexes .text (rest ++ more) others →
        Lexes mode (characters ++ more) (front ++ .endTag :: others) := by
  -- Each token in front leaves characters over, and so has seen all that it goes by.
  induction front generalizing mode characters with
  | nil =>
      obtain ⟨rfl, gap, rest, rfl, blanks, later⟩ := lexes.endTag
      refine ⟨gap ++ ['$'], rest, by simp, later, ?_⟩
      intro more others extended
      have closed := (cuts_endTag (rest ++ more)).lexes extended rfl
      simpa using closed.behind_blanks blanks
  | cons kind front ih =>
      rw [List.cons_append] at lexes
      generalize shape : front ++ .endTag :: kinds = behindFirst at lexes
      cases lexes with
      | finish outcome => simp at shape
      | token outcome more later =>
          rw [← shape] at later
          obtain ⟨gap, lexeme, whole, _⟩ := LexMode.cut_eq_ok outcome
          obtain ⟨before, rest, left, behind, extend⟩ := ih later
          have leaves : (mode.cut characters).rest ≠ [] := by simp [left]
          refine ⟨gap ++ lexeme ++ before, rest, ?_, behind, ?_⟩
          · rw [left] at whole
            simpa using whole
          · intro appended others extended
            have same := LexMode.cut_append appended leaves
            exact .token (by rw [same]; exact outcome) more
              (by rw [same]; exact extend appended others extended)

theorem endOfInput {characters : List Char} {kinds : List Token.Kind}
    (lexes : Lexes .text characters (.endOfInput :: kinds)) : characters = [] := by
  cases lexes with
  | finish outcome => exact LexMode.eq_nil_of_scan outcome
  | token outcome more later => simp [Token.Kind.isEndOfInput] at more

theorem startTag {characters : List Char} {kinds : List Token.Kind}
    (lexes : Lexes .text characters (.startTag :: kinds)) : ['{', '$'] <+: characters := by
  cases lexes with
  | token outcome more later =>
      obtain ⟨gap, lexeme, whole, ⟨_, noGap⟩, decodes⟩ := LexMode.cut_eq_ok outcome
      obtain rfl : lexeme = ['{', '$'] := by
        simpa using congrArg String.toList decodes
      rw [whole, noGap rfl]
      exact ⟨_, rfl⟩

theorem text {characters : List Char} {content : String} {kinds : List Token.Kind}
    (lexes : Lexes .text characters (.text content :: kinds)) :
    ∃ rest, characters = content.toList ++ rest ∧ IsText content.toList ∧
      StopsText content.toList rest ∧ Lexes .text rest kinds := by
  cases lexes with
  | token outcome more later =>
      obtain ⟨gap, lexeme, whole, ⟨_, noGap⟩, rfl⟩ := LexMode.cut_eq_ok outcome
      obtain ⟨_, isText, stops⟩ := LexMode.text_of_scan outcome
      rw [noGap rfl, List.nil_append] at whole
      exact ⟨_, by rw [String.toList_ofList]; exact whole, isText, stops, later⟩

end Lexes

namespace Node

theorem linear_eq_startTag {node : Node} (grammatical : node.Grammatical)
    (noText : node.text? = none) :
    ∃ kinds, node.linear Element.spelling = .startTag :: kinds := by
  cases node with
  | document children => exact grammatical.elim
  | text content => simp [text?] at noText
  | loop header children => exact ⟨_, rfl⟩
  | echo elements => exact ⟨_, rfl⟩

theorem linear_eq_endTag {node : Node} (grammatical : node.Grammatical)
    (noText : node.text? = none) :
    ∃ front, node.linear Element.spelling = front ++ [.endTag] := by
  cases node with
  | document children => exact grammatical.elim
  | text content => simp [text?] at noText
  | loop header children =>
      exact ⟨header.linear Element.spelling ++ linearAll Element.spelling children ++
        [.startTag, .endWord], by simp [linear]⟩
  | echo elements =>
      exact ⟨.startTag :: .tagName :: elements.flatMap Element.spelling, by simp [linear]⟩

theorem split_linearAll {nodes : List Node} {characters : List Char} {kinds : List Token.Kind}
    (grammatical : ∀ node ∈ nodes, node.Grammatical)
    (noText : ∀ node ∈ nodes.getLast?, node.text? = none)
    (lexes : Lexes .text characters (linearAll Element.spelling nodes ++ kinds)) :
    ∃ before rest, characters = before ++ rest ∧ ¬EndsInBackslash before ∧ Lexes .text rest kinds ∧
      ∀ more others, Lexes .text (rest ++ more) others →
        Lexes .text (characters ++ more) (linearAll Element.spelling nodes ++ others) := by
  rcases List.eq_nil_or_concat nodes with rfl | ⟨initial, last, rfl⟩
  · exact ⟨[], characters, rfl, by simp [EndsInBackslash], lexes, fun _ _ extended => extended⟩
  · rw [List.concat_eq_append] at *
    obtain ⟨front, shape⟩ := linear_eq_endTag (grammatical last (by simp)) (noText last (by simp))
    have spelled : linearAll Element.spelling (initial ++ [last]) =
        linearAll Element.spelling initial ++ front ++ [.endTag] := by
      rw [linearAll_append, List.append_assoc, ← shape]
      simp [linearAll]
    rw [spelled, List.append_assoc, List.singleton_append] at lexes
    obtain ⟨before, rest, rfl, later, extend⟩ := lexes.split_endTag
    refine ⟨before ++ ['}'], rest, by simp, by simp [EndsInBackslash], later, ?_⟩
    intro more others extended
    simpa [spelled] using extend more others extended

end Node

theorem Meets.opensNoTag_append {before left right behind : List Char}
    (meets : Meets (before ++ left) (right ++ behind)) (unescaped : ¬EndsInBackslash before)
    (opensLeft : OpensNoTag left) (opensRight : OpensNoTag right) :
    OpensNoTag (left ++ right) := by
  intro front back shape
  -- A brace and a dollar sign stand in the right text, or start in the left one.
  rcases List.append_eq_append_iff.mp shape with ⟨inner, rfl, inRight⟩ | ⟨inner, inLeft, seam⟩
  · have escaped := opensRight inner back inRight
    simp [escaped]
  · rcases inner with _ | ⟨brace, _ | ⟨dollar, inner⟩⟩
    · have escaped := opensRight [] back seam.symm
      simp at escaped
    · obtain ⟨rfl, rfl⟩ := List.cons.inj seam
      have escaped := meets.noTag (before ++ front) (back ++ behind) (by simp [inLeft]) rfl
      -- A backslash that does not belong to the left text does not escape its brace.
      by_cases alone : front = []
      · rw [alone, List.append_nil] at escaped
        contradiction
      · exact (endsInBackslash_append alone).mp escaped
    · simp only [List.cons_append, List.cons.injEq] at seam
      obtain ⟨rfl, rfl, _⟩ := seam
      exact opensLeft front inner inLeft

theorem Meets.lexes_text_append {before right : List Char} {ending beginning : String}
    {kinds : List Token.Kind} (meets : Meets (before ++ ending.toList) right)
    (unescaped : ¬EndsInBackslash before) (isText : IsText ending.toList)
    (lexes : Lexes .text right (.text beginning :: kinds)) :
    Lexes .text (ending.toList ++ right) (.text (ending ++ beginning) :: kinds) := by
  obtain ⟨rest, rfl, ⟨nonempty, opensNoTag⟩, stops, later⟩ := lexes.text
  have opens := meets.opensNoTag_append unescaped isText.2 opensNoTag
  have stopsBoth : StopsText (ending ++ beginning).toList rest := by
    rwa [StopsText, String.toList_append, endsInBackslash_append nonempty]
  rw [← List.append_assoc, ← String.toList_append]
  refine lexes_text ⟨?_, ?_⟩ stopsBoth later
  · simp [String.toList_append, nonempty]
  · rwa [String.toList_append]

theorem Meets.stopsText {before right : List Char} {ending : String} {nodes : List Node}
    (meets : Meets (before ++ ending.toList) right) (nonempty : ending.toList ≠ [])
    (grammatical : ∀ node ∈ nodes, node.Grammatical)
    (noText : ∀ node ∈ nodes.head?, node.text? = none)
    (lexes : Lexes .text right (Node.linearAll Element.spelling nodes ++ [.endOfInput])) :
    StopsText ending.toList right := by
  cases nodes with
  | nil => exact Or.inl lexes.endOfInput
  | cons node others =>
      obtain ⟨kinds, shape⟩ :=
        Node.linear_eq_startTag (grammatical node (by simp)) (noText node rfl)
      simp only [Node.linearAll, shape, List.cons_append] at lexes
      refine Or.inr ⟨?_, lexes.startTag⟩
      intro escaped
      exact meets.noEscape ((endsInBackslash_append nonempty).mpr escaped) lexes.startTag

namespace Node

theorem join_text (initial others : List Node) (ending beginning : String) :
    join (initial ++ [.text ending]) (.text beginning :: others) =
      initial ++ .text (ending ++ beginning) :: others := by
  simp [join]

theorem join_of_apart {left right : List Node}
    (apart : ∀ last ∈ left.getLast?, ∀ first ∈ right.head?,
      last.text? = none ∨ first.text? = none) : join left right = left ++ right := by
  unfold join
  split
  · rename_i ending beginning others final
    have impossible := apart (.text ending) final (.text beginning) rfl
    simp [text?] at impossible
  · rfl

theorem eq_text_of_text? {node : Node} {content : String} (isText : node.text? = some content) :
    node = .text content := by
  cases node <;> simp_all [text?]

theorem text_or_none_first (siblings : List Node) :
    (∃ beginning others, siblings = .text beginning :: others) ∨
      ∀ node ∈ siblings.head?, node.text? = none := by
  cases siblings with
  | nil => exact Or.inr (by simp)
  | cons first others =>
      cases first with
      | text beginning => exact Or.inl ⟨beginning, others, rfl⟩
      | _ => exact Or.inr (by simp [text?])

theorem mem_join {left right : List Node} {node : Node} (member : node ∈ join left right) :
    node ∈ left ∨ node ∈ right ∨ ∃ content, node = .text content := by
  unfold join at member
  split at member
  · rcases List.mem_append.mp member with before | behind
    · exact Or.inl (List.dropLast_subset _ before)
    rcases List.mem_cons.mp behind with rfl | later
    · exact Or.inr (Or.inr ⟨_, rfl⟩)
    · exact Or.inr (Or.inl (List.mem_cons_of_mem _ later))
  · rcases List.mem_append.mp member with before | behind
    · exact Or.inl before
    · exact Or.inr (Or.inl behind)

theorem TextsApart.split {siblings : List Node} (apart : TextsApart siblings) :
    (∀ node ∈ siblings.getLast?, node.text? = none) ∨
      ∃ initial ending, siblings = initial ++ [.text ending] ∧
        ∀ node ∈ initial.getLast?, node.text? = none := by
  rcases List.eq_nil_or_concat siblings with rfl | ⟨initial, last, rfl⟩
  · exact Or.inl (by simp)
  · rw [List.concat_eq_append] at *
    cases isText : last.text? with
    | none => exact Or.inl (by simp [isText])
    | some ending =>
        obtain rfl := eq_text_of_text? isText
        refine Or.inr ⟨initial, ending, rfl, ?_⟩
        intro node final
        have seam := (List.isChain_append.mp apart).2.2 node final (.text ending) rfl
        simpa [text?] using seam

end Node

theorem Meets.lexes_join {left right : List Char} {lefts rights : List Node}
    (meets : Meets left right) (apart : Node.TextsApart lefts)
    (grammaticalLefts : ∀ node ∈ lefts, node.Grammatical)
    (grammaticalRights : ∀ node ∈ rights, node.Grammatical)
    (lexesLeft : Lexes .text left (Node.linearAll Element.spelling lefts ++ [.endOfInput]))
    (lexesRight : Lexes .text right (Node.linearAll Element.spelling rights ++ [.endOfInput])) :
    Lexes .text (left ++ right)
      (Node.linearAll Element.spelling (Node.join lefts rights) ++ [.endOfInput]) := by
  rcases apart.split with noText | ⟨initial, ending, rfl, noText⟩
  · obtain ⟨before, rest, _, _, ended, extend⟩ :=
      Node.split_linearAll grammaticalLefts noText lexesLeft
    obtain rfl : rest = [] := ended.endOfInput
    rw [Node.join_of_apart fun last final _ _ => Or.inl (noText last final),
      Node.linearAll_append, List.append_assoc]
    exact extend right _ lexesRight
  · have grammaticalInitial : ∀ node ∈ initial, node.Grammatical :=
      fun node member => grammaticalLefts node (List.mem_append_left _ member)
    rw [Node.linearAll_append, List.append_assoc] at lexesLeft
    obtain ⟨before, rest, rfl, unescaped, last, extend⟩ :=
      Node.split_linearAll grammaticalInitial noText lexesLeft
    obtain ⟨nothing, rfl, isText, _, ended⟩ := Lexes.text last
    obtain rfl : nothing = [] := ended.endOfInput
    rw [List.append_nil] at *
    rcases Node.text_or_none_first rights with ⟨beginning, others, rfl⟩ | noFirst
    · have joined := meets.lexes_text_append unescaped isText lexesRight
      have extended := extend right _ joined
      simpa [Node.join_text, Node.linearAll_append, Node.linearAll, Node.linear] using extended
    · have stops := meets.stopsText isText.1 grammaticalRights noFirst lexesRight
      have extended := extend right _ (lexes_text isText stops lexesRight)
      rw [Node.join_of_apart fun _ _ first ahead => Or.inr (noFirst first ahead)]
      simpa [Node.linearAll_append, Node.linearAll, Node.linear] using extended

namespace Document

theorem grammatical_join {first second : Document} (grammaticalFirst : first.Grammatical)
    (grammaticalSecond : second.Grammatical) :
    Grammatical ⟨Node.join first.children second.children⟩ := by
  intro node member
  obtain ⟨sibling, inJoin, inside⟩ := Node.mem_forest.mp member
  rcases Node.mem_join inJoin with inFirst | inSecond | ⟨content, rfl⟩
  · exact grammaticalFirst node (Node.mem_forest.mpr ⟨sibling, inFirst, inside⟩)
  · exact grammaticalSecond node (Node.mem_forest.mpr ⟨sibling, inSecond, inside⟩)
  · simp only [Node.subtree, List.mem_singleton] at inside
    rw [inside]
    trivial

/-- Templates put end to end are parsed into the nodes of both, joined where they meet. -/
theorem parse_append {left right : String} {first second : Document}
    (parsedFirst : parse left = .ok first) (parsedSecond : parse right = .ok second)
    (meets : Meets left.toList right.toList) :
    parse (left ++ right) = .ok ⟨Node.join first.children second.children⟩ := by
  obtain ⟨grammaticalFirst, lexesFirst⟩ := parse_eq_ok_iff_lexes.mp parsedFirst
  obtain ⟨grammaticalSecond, lexesSecond⟩ := parse_eq_ok_iff_lexes.mp parsedSecond
  have apart := (writable_of_parse parsedFirst).apart
  refine parse_eq_ok_iff_lexes.mpr ⟨grammatical_join grammaticalFirst grammaticalSecond, ?_⟩
  rw [String.toList_append]
  exact meets.lexes_join apart
    (fun node member => grammaticalFirst node (Node.mem_forest_of_mem member))
    (fun node member => grammaticalSecond node (Node.mem_forest_of_mem member))
    lexesFirst lexesSecond

def braceLast : String :=
  "\x7b$= x $\x7d\\\x7b"

def dollarFirst : String :=
  "$\x7d\x7b$= y $\x7d"

theorem parse_braceLast :
    parse braceLast = .ok ⟨[.echo [.variable "x"], .text "\\\x7b"]⟩ := by
  refine parse_eq_ok_iff_lexes.mpr ⟨?_, ?_⟩
  · simp [Grammatical, nodes, Node.forest_cons, Node.children, Node.Grammatical]
  · iterate 5 refine .token rfl rfl ?_
    exact .finish rfl

theorem parse_dollarFirst :
    parse dollarFirst = .ok ⟨[.text "$\x7d", .echo [.variable "y"]]⟩ := by
  refine parse_eq_ok_iff_lexes.mpr ⟨?_, ?_⟩
  · simp [Grammatical, nodes, Node.forest_cons, Node.children, Node.Grammatical]
  · iterate 5 refine .token rfl rfl ?_
    exact .finish rfl

theorem meets_braceLast_dollarFirst : Meets braceLast.toList dollarFirst.toList := by
  have last : braceLast.toList = "\x7b$= x $\x7d\\".toList ++ ['{'] := by decide
  constructor
  · intro front back shape _
    rw [last] at shape
    rw [← List.append_cancel_right shape]
    rfl
  · intro escaped
    simp [EndsInBackslash, braceLast] at escaped

theorem parse_append_braceLast_dollarFirst :
    parse braceLast = .ok ⟨[.echo [.variable "x"], .text "\\\x7b"]⟩ ∧
      parse dollarFirst = .ok ⟨[.text "$\x7d", .echo [.variable "y"]]⟩ ∧
      Meets braceLast.toList dollarFirst.toList ∧
      parse (braceLast ++ dollarFirst) =
        .ok ⟨[.echo [.variable "x"], .text "\\\x7b$\x7d", .echo [.variable "y"]]⟩ :=
  ⟨parse_braceLast, parse_dollarFirst, meets_braceLast_dollarFirst,
    parse_append parse_braceLast parse_dollarFirst meets_braceLast_dollarFirst⟩

end Document

end TagTemplate
