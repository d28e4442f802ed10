import Mathlib.Data.List.Chain
import TagTemplate.Token
import TagTemplate.Token.Scan
import TagTemplate.Proofs.Derivation
import TagTemplate.Proofs.LineBreak

/-!
Well-formed documents, those that writing and reading give back. Well-formedness is stated node by
node. Whether all doubles are finite stands apart from the rest, which looks at no number.
-/

namespace TagTemplate

/-- A brace before a dollar sign opens a tag unless a backslash stands right before it. -/
def OpensNoTag (characters : List Char) : Prop :=
  ∀ front back, characters = front ++ '{' :: '$' :: back → front.getLast? = some '\\'

def EndsInBackslash (characters : List Char) : Prop :=
  characters.getLast? = some '\\'

def IsText (characters : List Char) : Prop :=
  characters ≠ [] ∧ OpensNoTag characters

structure IsVariableName (name : List Char) : Prop where
  letter : ∃ first others, name = first :: others ∧ Text.isAlphabetic first = true
  plain : ∀ character ∈ name, isNameCharacter character = true
  noLoopWord : ¬['F', 'O', 'R'] <+: name
  noEndWord : ¬['E', 'N', 'D'] <+: name

def IsFunctionName (name : List Char) : Prop :=
  name ≠ [] ∧ ∀ character ∈ name, isNameCharacter character = true

def IsStringContent (content : List Char) : Prop :=
  '"' ∉ content ∧ ¬Text.writtenLineBreak <:+: content

def Element.Writable : Element → Prop
  | .variable name => IsVariableName name.toList
  | .function name => IsFunctionName name.toList
  | .string content => IsStringContent content.toList
  | .integer _ | .double _ | .operator _ => True

def Element.Finite : Element → Prop
  | .double number => number.isFinite = true
  | .integer _ | .string _ | .variable _ | .function _ | .operator _ => True

namespace Node

def text? : Node → Option String
  | .text content => some content
  | .document _ | .loop _ _ | .echo _ => none

def elements : Node → List Element
  | .loop header _ => header.bounds
  | .echo elements => elements
  | .document _ | .text _ => []

def TextsApart (siblings : List Node) : Prop :=
  siblings.IsChain fun left right => left.text? = none ∨ right.text? = none

def Closed (node : Node) : Prop :=
  ∀ content ∈ node.text?, ¬EndsInBackslash content.toList

def Parts (left right : Node) : Prop :=
  ∀ content ∈ left.text?, right.text? = none ∧ ¬EndsInBackslash content.toList

def Writable : Node → Prop
  | .document _ => False
  | .text content => IsText content.toList
  | .loop header children =>
      IsVariableName header.loopVariable.toList ∧
        (∀ bound ∈ header.bounds, bound.Bounding ∧ bound.Writable) ∧
        TextsApart children ∧ ∀ child ∈ children, child.Closed
  | .echo elements => ∀ element ∈ elements, element.Writable

theorem parts_iff {left right : Node} :
    Parts left right ↔ (left.text? = none ∨ right.text? = none) ∧ left.Closed := by
  cases shape : left.text? <;> simp [Parts, Closed, shape]

theorem isChain_parts_iff {siblings : List Node} :
    siblings.IsChain Parts ↔
      TextsApart siblings ∧ ∀ child ∈ siblings.dropLast, child.Closed := by
  induction siblings with
  | nil => simp [TextsApart]
  | cons left others ih =>
      cases others with
      | nil => simp [TextsApart]
      | cons right others =>
          rw [TextsApart] at ih ⊢
          rw [List.isChain_cons_cons, List.isChain_cons_cons, ih, List.dropLast_cons_cons,
            List.forall_mem_cons, parts_iff, and_and_and_comm]

end Node

/-- What a document must fulfil to be given back, numbers aside. Only its last text may end in a
backslash, and only if nothing stands behind it. -/
structure Document.Writable (document : Document) : Prop where
  nodes : ∀ node ∈ document.nodes, node.Writable
  apart : Node.TextsApart document.children
  closed : ∀ child ∈ document.children.dropLast, child.Closed

def Document.Finite (document : Document) : Prop :=
  ∀ node ∈ document.nodes, ∀ element ∈ node.elements, element.Finite

def Document.WellFormed (document : Document) : Prop :=
  document.Writable ∧ document.Finite

end TagTemplate
