import TagTemplate.Element

/-!
Template documents.
-/

namespace TagTemplate

structure LoopHeader where
  loopVariable : String
  start : Element
  stop : Element
  step : Option Element
  deriving BEq

inductive Node where
  | document (children : List Node)
  | text (content : String)
  | loop (header : LoopHeader) (children : List Node)
  | echo (elements : List Element)

namespace Node

def children : Node → List Node
  | .document children | .loop _ children => children
  | .text _ | .echo _ => []

def isContainer : Node → Bool
  | .document _ | .loop _ _ => true
  | .text _ | .echo _ => false

mutual

/-- Two nodes of the same shape, with elements that are equal under `==`. -/
def same : Node → Node → Bool
  | .document left, .document right => sameAll left right
  | .text left, .text right => left == right
  | .loop leftHeader left, .loop rightHeader right =>
      leftHeader == rightHeader && sameAll left right
  | .echo left, .echo right => left == right
  | _, _ => false

def sameAll : List Node → List Node → Bool
  | [], [] => true
  | left :: lefts, right :: rights => same left right && sameAll lefts rights
  | _, _ => false

end

instance : BEq Node := ⟨same⟩

end Node

structure Document where
  children : List Node

instance : BEq Document := ⟨fun left right => Node.sameAll left.children right.children⟩

def Document.toNode (document : Document) : Node :=
  .document document.children

end TagTemplate
