import TagTemplate.Number
import TagTemplate.Text.Alphabetic
import TagTemplate.Text.Numeric
import TagTemplate.Token
import TagTemplate.Token.LexError

/-!
How the lexeme at the start of some characters is cut off, in text and inside a tag. In text a
brace behind a backslash opens no tag. Inside a tag the words of the language need no blank behind
them, but the name of a function needs one; a variable may also end at a dollar sign or with the
input, and a number literal runs up to a blank or a dollar sign. Only the two tag delimiters, where
they are cut off as tokens, set the mode that the lexer goes on in.
-/

namespace TagTemplate

inductive LexMode where
  | text
  | tag
  deriving Repr, DecidableEq

def byteLength (characters : List Char) : Nat :=
  characters.foldr (fun character length => character.utf8Size + length) 0

def isTagBlank (character : Char) : Bool :=
  character = ' ' || character = '\t' || character = '\r' || character = '\n'

def isNameCharacter (character : Char) : Bool :=
  Text.isAlphabetic character || Text.isNumeric character || character = '_'

/-- A cut through the characters ahead: those passed over, the lexeme, those left, what the lexeme
stands for, and the mode that is set, if any. -/
structure Scan where
  passed : List Char
  lexeme : List Char
  rest : List Char
  outcome : Except LexError.Cause Token.Kind
  switch : Option LexMode

namespace Scan

def token (lexeme rest : List Char) (kind : Token.Kind) : Scan :=
  ⟨[], lexeme, rest, .ok kind, none⟩

def delimiter (lexeme rest : List Char) (kind : Token.Kind) (mode : LexMode) : Scan :=
  ⟨[], lexeme, rest, .ok kind, some mode⟩

def failure (lexeme rest : List Char) (cause : LexError.Cause) : Scan :=
  ⟨[], lexeme, rest, .error cause, none⟩

/-- What follows a run of text: a tag opening, or nothing. -/
def dropText : List Char → List Char
  | '{' :: '$' :: others => '{' :: '$' :: others
  | '\\' :: '{' :: others => dropText others
  | _ :: others => dropText others
  | [] => []

def ofText (characters : List Char) : Scan :=
  let rest := dropText characters
  let lexeme := characters.take (characters.length - rest.length)
  token lexeme rest (.text (String.ofList lexeme))

def isLiteralCharacter (character : Char) : Bool :=
  !isTagBlank character && character ≠ '$'

def ofNumber (characters : List Char) : Scan :=
  let literal := characters.takeWhile isLiteralCharacter
  let rest := characters.dropWhile isLiteralCharacter
  match Number.ofLiteral? literal with
  | some (.integer number) => token literal rest (.integer number)
  | some (.double number) => token literal rest (.double number)
  | none => failure literal rest (.malformedNumber (String.ofList literal))

/-- A function, from the characters behind its `@`. -/
def ofFunction (characters : List Char) : Scan :=
  let name := characters.takeWhile isNameCharacter
  match characters.dropWhile isNameCharacter with
  | [] => failure ('@' :: name) [] .unterminatedFunction
  | character :: others =>
      if isTagBlank character then
        if name.isEmpty then failure ['@'] (character :: others) .emptyFunctionName
        else token ('@' :: name) (character :: others) (.function (String.ofList name))
      else ⟨'@' :: name, [character], others, .error (.invalidFunctionCharacter character), none⟩

def ofString (characters : List Char) : Scan :=
  let body := characters.takeWhile (· ≠ '"')
  match characters.dropWhile (· ≠ '"') with
  | [] => failure ('"' :: body) [] .unterminatedString
  | quote :: others =>
      token ('"' :: (body ++ [quote])) others
        (.string (String.ofList (Text.unescapeLineBreaks body)))

def ofVariable (characters : List Char) : Scan :=
  let name := characters.takeWhile isNameCharacter
  match characters.dropWhile isNameCharacter with
  | [] => token name [] (.variable (String.ofList name))
  | character :: others =>
      if isLiteralCharacter character then
        ⟨name, [character], others, .error (.invalidVariableCharacter character), none⟩
      else token name (character :: others) (.variable (String.ofList name))

def startsWithDigit : List Char → Bool
  | character :: _ => character.isDigit
  | [] => false

def ofCharacter (first : Char) (others : List Char) : Scan :=
  if first = '=' then token [first] others .tagName
  else if first = '-' && startsWithDigit others then ofNumber (first :: others)
  else if first = '@' then ofFunction others
  else if first = '"' then ofString others
  else if first.isDigit then ofNumber (first :: others)
  else if Text.isAlphabetic first then ofVariable (first :: others)
  else
    match Operator.ofChar? first with
    | some operator => token [first] others (.operator operator)
    | none => failure [first] others (.unrecognizedCharacter first)

def ofTag : List Char → Scan
  | '$' :: '}' :: others => delimiter ['$', '}'] others .endTag .text
  | 'F' :: 'O' :: 'R' :: others => token ['F', 'O', 'R'] others .loopWord
  | 'E' :: 'N' :: 'D' :: others => token ['E', 'N', 'D'] others .endWord
  | first :: others => ofCharacter first others
  | [] => token [] [] .endOfInput

end Scan

end TagTemplate
