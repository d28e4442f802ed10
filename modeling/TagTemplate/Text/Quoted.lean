import TagTemplate.Text.GraphemeExtend
import TagTemplate.Text.Printable

/-!
Quoted texts, in which every character that would not show is escaped.
-/

namespace TagTemplate.Text

def codePointEscape (character : Char) : List Char :=
  '\\' :: 'u' :: '{' :: (Nat.toDigits 16 character.toNat ++ ['}'])

/-- The halfwidth katakana sound marks extend a grapheme, but are drawn apart from it. -/
def isSoundMark (character : Char) : Bool :=
  character = '\uFF9E' || character = '\uFF9F'

def isVisible (character : Char) : Bool :=
  isPrintable character && (!isGraphemeExtend character || isSoundMark character)

def quotedCharacter (character : Char) : List Char :=
  if character = '\x00' then ['\\', '0']
  else if character = '\t' then ['\\', 't']
  else if character = '\r' then ['\\', 'r']
  else if character = '\n' then ['\\', 'n']
  else if character = '"' then ['\\', '"']
  else if character = '\\' then ['\\', '\\']
  else if isVisible character then [character]
  else codePointEscape character

def quoted (text : String) : String :=
  String.ofList ('"' :: (text.toList.flatMap quotedCharacter ++ ['"']))

end TagTemplate.Text
