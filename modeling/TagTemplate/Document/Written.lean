import TagTemplate.Document

/-!
Documents written as templates, with single spaces between the parts of a tag.
-/

namespace TagTemplate

def Element.writtenAll : List Element → String
  | [] => ""
  | element :: others => " " ++ element.text ++ Element.writtenAll others

def LoopHeader.bounds (header : LoopHeader) : List Element :=
  header.start :: header.stop :: header.step.toList

def LoopHeader.written (header : LoopHeader) : String :=
  "\x7b$ FOR " ++ header.loopVariable ++ Element.writtenAll header.bounds ++ " $\x7d"

mutual

def Node.written : Node → String
  | .document children => Node.writtenAll children
  | .text content => content
  | .loop header children => header.written ++ Node.writtenAll children ++ "\x7b$END$\x7d"
  | .echo elements => "\x7b$=" ++ Element.writtenAll elements ++ " $\x7d"

def Node.writtenAll : List Node → String
  | [] => ""
  | node :: others => node.written ++ Node.writtenAll others

end

def Document.written (document : Document) : String :=
  Node.writtenAll document.children

end TagTemplate
