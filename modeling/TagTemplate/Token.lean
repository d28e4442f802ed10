import TagTemplate.Element
import TagTemplate.Span
import TagTemplate.Text.Quoted

/-!
The tokens of a template.
-/

namespace TagTemplate

inductive Token.Kind where
  | startTag
  | endTag
  | loopWord
  | endWord
  | tagName
  | text (content : String)
  | variable (name : String)
  | integer (number : Int64)
  | double (number : Double)
  | string (content : String)
  | operator (symbol : Operator)
  | function (name : String)
  | endOfInput

namespace Token.Kind

def name : Kind → String
  | .startTag => "STARTTAG"
  | .endTag => "ENDTAG"
  | .loopWord => "FOR"
  | .endWord => "END"
  | .tagName => "TAGNAME"
  | .text _ => "TEXT"
  | .variable _ => "VARIABLE"
  | .integer _ => "INTEGER"
  | .double _ => "DOUBLE"
  | .string _ => "STRING"
  | .operator _ => "OPERATOR"
  | .function _ => "FUNCTION"
  | .endOfInput => "EOF"

/-- What a token stands for, shown in parentheses behind its name. Words show by their names
alone. -/
def content? : Kind → Option String
  | .startTag => some "\x7b$"
  | .endTag => some "$\x7d"
  | .tagName => some "="
  | .text content => some (Text.quoted content)
  | .variable name => some name
  | .integer number => some (Integer.text number)
  | .double number => some (Double.text number)
  | .string content => some (Text.quoted content)
  | .operator symbol => some symbol.text
  | .function name => some ("@" ++ name)
  | .loopWord | .endWord | .endOfInput => none

def display (kind : Kind) : String :=
  match kind.content? with
  | some content => kind.name ++ "(" ++ content ++ ")"
  | none => kind.name

def isEndOfInput : Kind → Bool
  | .endOfInput => true
  | _ => false

end Token.Kind

structure Token where
  kind : Token.Kind
  span : Span

end TagTemplate
