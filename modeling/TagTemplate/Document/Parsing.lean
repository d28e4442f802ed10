import TagTemplate.Document
import TagTemplate.Document.ParseError
import TagTemplate.Token.Lexer

/-!
Documents built from tokens in one pass. Each token moves a half-built document on; the loops still
open form a stack, and a loop joins the nodes around it when its end is seen.
-/

namespace TagTemplate

def Element.ofToken? : Token.Kind → Option Element
  | .variable name => some (.variable name)
  | .integer number => some (.integer number)
  | .double number => some (.double number)
  | .string content => some (.string content)
  | .function name => some (.function name)
  | .operator symbol => some (.operator symbol)
  | _ => none

inductive Position where
  | content
  | tag
  | loopVariable (start : Span)
  | loopBounds (start : Span) (loopVariable : String) (reversedBounds : List Element)
  | echo (reversedElements : List Element)
  | endOfEndTag (word : Span)

structure OpenLoop where
  header : LoopHeader
  span : Span
  reversedBefore : List Node

/-- A half-built document: the nodes of the innermost open loop, last first, and the open loops,
innermost first. -/
structure Draft where
  position : Position
  reversedNodes : List Node
  openLoops : List OpenLoop

namespace Draft

def empty : Draft :=
  ⟨.content, [], []⟩

def moveTo (draft : Draft) (position : Position) : Draft :=
  { draft with position := position }

def attach (draft : Draft) (node : Node) : Draft :=
  { draft with position := .content, reversedNodes := node :: draft.reversedNodes }

def openLoop (draft : Draft) (header : LoopHeader) (span : Span) : Draft :=
  ⟨.content, [], ⟨header, span, draft.reversedNodes⟩ :: draft.openLoops⟩

/-- The innermost loop ends. The error of a surplus end points at its word. -/
def closeLoop (draft : Draft) (word : Span) : Except ParseError Draft :=
  match draft.openLoops with
  | [] => .error ⟨.unmatchedEnd, word⟩
  | innermost :: others =>
      let loop := Node.loop innermost.header draft.reversedNodes.reverse
      .ok ⟨.content, loop :: innermost.reversedBefore, others⟩

def finishHeader (draft : Draft) (span : Span) (loopVariable : String) (bounds : List Element) :
    Except ParseError Draft :=
  match bounds with
  | [start, stop] => .ok (draft.openLoop ⟨loopVariable, start, stop, none⟩ span)
  | [start, stop, step] => .ok (draft.openLoop ⟨loopVariable, start, stop, some step⟩ span)
  | _ => .error ⟨.loopArity bounds.length, span⟩

def addBound (draft : Draft) (start : Span) (loopVariable : String) (reversedBounds : List Element)
    (token : Token) : Except ParseError Draft :=
  match Element.ofToken? token.kind with
  | some (.operator _) => .error ⟨.operatorInHeader, token.span⟩
  | some (.function _) => .error ⟨.functionInHeader, token.span⟩
  | some bound => .ok (draft.moveTo (.loopBounds start loopVariable (bound :: reversedBounds)))
  | none => .error ⟨.unexpectedToken .loopBound token.kind, token.span⟩

def step (draft : Draft) (token : Token) : Except ParseError Draft :=
  match draft.position, token.kind with
  | .content, .text content => .ok (draft.attach (.text content))
  | .content, .startTag => .ok (draft.moveTo .tag)
  | .content, kind => .error ⟨.unexpectedToken .content kind, token.span⟩
  | .tag, .loopWord => .ok (draft.moveTo (.loopVariable token.span))
  | .tag, .tagName => .ok (draft.moveTo (.echo []))
  | .tag, .endWord => .ok (draft.moveTo (.endOfEndTag token.span))
  | .tag, kind => .error ⟨.unexpectedToken .tag kind, token.span⟩
  | .loopVariable start, .variable name => .ok (draft.moveTo (.loopBounds start name []))
  | .loopVariable _, _ => .error ⟨.missingLoopVariable, token.span⟩
  | .loopBounds start name reversedBounds, .endTag =>
      draft.finishHeader (start.merge token.span) name reversedBounds.reverse
  | .loopBounds start name reversedBounds, _ => draft.addBound start name reversedBounds token
  | .echo reversedElements, .endTag => .ok (draft.attach (.echo reversedElements.reverse))
  | .echo reversedElements, kind =>
      match Element.ofToken? kind with
      | some element => .ok (draft.moveTo (.echo (element :: reversedElements)))
      | none => .error ⟨.unexpectedToken .echoElement kind, token.span⟩
  | .endOfEndTag word, .endTag => draft.closeLoop word
  | .endOfEndTag _, kind => .error ⟨.unexpectedToken .endOfEndTag kind, token.span⟩

def finish (draft : Draft) (endOfInput : Span) : Except ParseError Document :=
  match draft.position, draft.openLoops with
  | .content, [] => .ok ⟨draft.reversedNodes.reverse⟩
  | .content, innermost :: _ =>
      .error ⟨.unclosedLoop innermost.header.loopVariable, innermost.span⟩
  | _, _ => .error ⟨.unexpectedEnd, endOfInput⟩

/-- The tokens ahead complete a draft. Those behind the end of input are not looked at; where it is
missing, the error points at the last token. -/
def complete (draft : Draft) (last : Span) : List Token → Except ParseError Document
  | [] => .error ⟨.unexpectedEnd, last⟩
  | token :: others =>
      if token.kind.isEndOfInput then draft.finish token.span
      else
        match draft.step token with
        | .error error => .error error
        | .ok next => next.complete token.span others

end Draft

namespace Document

def ofTokens (tokens : List Token) : Except ParseError Document :=
  Draft.empty.complete (.point 0) tokens

def parse (source : String) : Except ParseError Document :=
  match tokenize source with
  | .error error => .error (.ofLexError error)
  | .ok tokens => ofTokens tokens

end Document

end TagTemplate
