import TagTemplate.Document

/-!
Walks through a document. A visitor says what to do at each kind of node; at a container it is
given the children, and the walk through them as an action to run as often as it wants, or not at
all. In the same way it may say what to do with a child before its kind is looked at.
-/

namespace TagTemplate

structure Visitor (m : Type → Type) where
  document : List Node → m Unit → m Unit
  text : String → m Unit
  loop : LoopHeader → List Node → m Unit → m Unit
  echo : List Element → m Unit
  child : Node → m Unit → m Unit := fun _ visitKind => visitKind

def Visitor.passive (m : Type → Type) [Monad m] : Visitor m where
  document := fun _ walkChildren => walkChildren
  text := fun _ => pure ()
  loop := fun _ _ walkChildren => walkChildren
  echo := fun _ => pure ()

mutual

def Node.walk {m : Type → Type} [Monad m] (visitor : Visitor m) : Node → m Unit
  | .document children => visitor.document children (Node.walkAll visitor children)
  | .text content => visitor.text content
  | .loop header children => visitor.loop header children (Node.walkAll visitor children)
  | .echo elements => visitor.echo elements

def Node.walkAll {m : Type → Type} [Monad m] (visitor : Visitor m) : List Node → m Unit
  | [] => pure ()
  | node :: others => do
      visitor.child node (node.walk visitor)
      Node.walkAll visitor others

end

def Document.walk {m : Type → Type} [Monad m] (visitor : Visitor m) (document : Document) :
    m Unit :=
  document.toNode.walk visitor

end TagTemplate
