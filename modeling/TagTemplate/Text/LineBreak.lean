/-!
Line breaks in string literals: a carriage return with a line feed is written as the four
characters `\r\n`. No other escape exists.
-/

namespace TagTemplate.Text

def escapeLineBreaks : List Char → List Char
  | '\r' :: '\n' :: others => '\\' :: 'r' :: '\\' :: 'n' :: escapeLineBreaks others
  | character :: others => character :: escapeLineBreaks others
  | [] => []

def unescapeLineBreaks : List Char → List Char
  | '\\' :: 'r' :: '\\' :: 'n' :: others => '\r' :: '\n' :: unescapeLineBreaks others
  | character :: others => character :: unescapeLineBreaks others
  | [] => []

end TagTemplate.Text
