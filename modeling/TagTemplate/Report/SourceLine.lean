/-!
The lines of a source. A line keeps its terminator.
-/

namespace TagTemplate

structure SourceLine where
  start : Nat
  characters : List Char

namespace SourceLine

def isTerminator (character : Char) : Bool :=
  character = '\n' || character = '\r' || character = '\x0b' || character = '\x0c' ||
    character = '\u0085' || character = '\u2028' || character = '\u2029'

/-- A source cut behind each line terminator. A carriage return and a line feed end one line. -/
def split : List Char → List (List Char)
  | [] => []
  | '\r' :: '\n' :: others => ['\r', '\n'] :: split others
  | character :: others =>
      if isTerminator character then [character] :: split others
      else
        match split others with
        | [] => [[character]]
        | line :: lines => (character :: line) :: lines

def place (start : Nat) : List (List Char) → List SourceLine
  | [] => []
  | line :: lines => ⟨start, line⟩ :: place (start + line.length) lines

def ofSource (characters : List Char) : List SourceLine :=
  place 0 (split characters)

def indexOf (lines : List SourceLine) (index : Nat) : Nat :=
  (lines.takeWhile fun line => line.start ≤ index).length - 1

end SourceLine

end TagTemplate
