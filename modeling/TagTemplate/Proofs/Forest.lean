import TagTemplate.Document.Written

/-!
The nodes of a document as a forest: all of them in the order in which they are written, and the
induction that goes through siblings and the children of each.
-/

namespace TagTemplate

mutual

def Node.subtree : Node → List Node
  | .document children => .document children :: Node.forest children
  | .text content => [.text content]
  | .loop header children => .loop header children :: Node.forest children
  | .echo elements => [.echo elements]

def Node.forest : List Node → List Node
  | [] => []
  | node :: others => node.subtree ++ Node.forest others

end

def Document.nodes (document : Document) : List Node :=
  Node.forest document.children

theorem Node.subtree_eq (node : Node) : node.subtree = node :: Node.forest node.children := by
  cases node <;> simp [Node.subtree, Node.forest, Node.children]

@[simp] theorem Node.forest_nil : Node.forest [] = [] := by
  simp [Node.forest]

theorem Node.forest_cons (node : Node) (others : List Node) :
    Node.forest (node :: others) =
      node :: (Node.forest node.children ++ Node.forest others) := by
  simp [Node.forest, Node.subtree_eq]

theorem Node.mem_forest {node : Node} {siblings : List Node} :
    node ∈ Node.forest siblings ↔ ∃ sibling ∈ siblings, node ∈ sibling.subtree := by
  induction siblings with
  | nil => simp
  | cons first others ih => simp [Node.forest, ih]

theorem Node.mem_forest_of_mem {node : Node} {siblings : List Node} (member : node ∈ siblings) :
    node ∈ Node.forest siblings :=
  Node.mem_forest.mpr ⟨node, member, by simp [Node.subtree_eq]⟩

theorem Node.mem_forest_reverse {node : Node} {siblings : List Node} :
    node ∈ Node.forest siblings.reverse ↔ node ∈ Node.forest siblings := by
  simp [Node.mem_forest]

/-- What holds of no nodes, and of each kind of node before siblings once it holds of the node's
children and of these siblings, holds of all forests. -/
theorem Node.forestInduction {motive : List Node → Prop} (nil : motive [])
    (document : ∀ children others, motive children → motive others →
      motive (.document children :: others))
    (text : ∀ content others, motive others → motive (.text content :: others))
    (loop : ∀ header children others, motive children → motive others →
      motive (.loop header children :: others))
    (echo : ∀ elements others, motive others → motive (.echo elements :: others)) :
    ∀ nodes, motive nodes
  | [] => nil
  | .document children :: others =>
      document children others (forestInduction nil document text loop echo children)
        (forestInduction nil document text loop echo others)
  | .text content :: others =>
      text content others (forestInduction nil document text loop echo others)
  | .loop header children :: others =>
      loop header children others (forestInduction nil document text loop echo children)
        (forestInduction nil document text loop echo others)
  | .echo elements :: others =>
      echo elements others (forestInduction nil document text loop echo others)

end TagTemplate
