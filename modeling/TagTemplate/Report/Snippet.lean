import TagTemplate.Report.CharRange
import TagTemplate.Report.SourceLine
import TagTemplate.Text.Blank
import TagTemplate.Text.Width

/-!
Snippets: the lines of a source that a span touches, drawn with an arrow and a message.
-/

namespace TagTemplate.Snippet

def spaces (count : Nat) : String :=
  String.ofList (List.replicate count ' ')

def tabWidth : Nat := 4

def shownCharacters (line : SourceLine) : List Char :=
  (line.characters.reverse.dropWhile Text.isBlank).reverse

def widthAt (column : Nat) (character : Char) : Nat :=
  if character = '\t' then tabWidth - column % tabWidth
  else if Text.isBlank character then 1
  else Text.displayWidth character

def shownAt (column : Nat) (character : Char) : List Char :=
  if Text.isBlank character then List.replicate (widthAt column character) ' ' else [character]

def shownText (line : SourceLine) : String :=
  String.ofList (((shownCharacters line).mapIdx shownAt).flatten)

/-- The width of a column, which is one behind the end of the text. -/
def columnWidth (line : SourceLine) (column : Nat) : Nat :=
  match (shownCharacters line)[column]? with
  | some character => widthAt column character
  | none => 1

def cell (width : Nat) (glyph fill : Char) : List Char :=
  (glyph :: List.replicate (width - 1) fill).take width

def cells (line : SourceLine) (last : Nat) (glyphs : Nat → Char × Char) : String :=
  String.ofList ((List.range (last + 1)).flatMap fun column =>
    let (glyph, fill) := glyphs column
    cell (columnWidth line column) glyph fill)

def sourceRow (margin number : Nat) (arrow : String) (line : SourceLine) : String :=
  let digits := toString (number + 1)
  spaces (margin - 1 - digits.length) ++ digits ++ " │ " ++ arrow ++ shownText line ++ "\n"

def singleLine (margin number : Nat) (line : SourceLine) (start stop middle : Nat)
    (message : String) : String :=
  let underline := fun column =>
    if start ≤ column && column < stop then (if column = middle then '┬' else '─', '─')
    else if column = middle then ('│', ' ')
    else (' ', ' ')
  let arrow := fun column =>
    if column < middle then (' ', ' ') else (if column = middle then '╰' else '─', '─')
  sourceRow margin number "" line ++
    spaces margin ++ "│ " ++ cells line (stop + 1) underline ++ "\n" ++
    spaces margin ++ "│ " ++ cells line (stop + 1) arrow ++ " " ++ message ++ "\n"

/-- The rows for a range over several lines: its first and its last line, and a gap between them
if other lines lie there. -/
def severalLines (margin firstNumber lastNumber : Nat) (first last : SourceLine)
    (message : String) : String :=
  let gap := if firstNumber + 1 < lastNumber then spaces margin ++ "┆ ┆   \n" else ""
  let tail := last.characters.length + 1
  sourceRow margin firstNumber "╭─▶ " first ++ gap ++
    sourceRow margin lastNumber "├─▶ " last ++
    spaces margin ++ "│ │   " ++ cells last tail (fun _ => (' ', ' ')) ++ "\n" ++
    spaces margin ++ "│ ╰───" ++ cells last tail (fun _ => ('─', '─')) ++ " " ++ message ++ "\n"

def draw (path message : String) (lines : List SourceLine) (start stop : Nat) : String :=
  let firstNumber := SourceLine.indexOf lines start
  let lastNumber := SourceLine.indexOf lines (max start (stop - 1))
  let margin := (toString (lastNumber + 1)).length + 2
  match lines[firstNumber]?, lines[lastNumber]? with
  | some first, some last =>
      let column := start - first.start
      let body :=
        if firstNumber = lastNumber then
          singleLine margin firstNumber first column (stop - first.start)
            ((start + stop) / 2 - first.start) message
        else severalLines margin firstNumber lastNumber first last message
      spaces margin ++ s!"╭─[{path}:{firstNumber + 1}:{column + 1}]\n" ++
        spaces margin ++ "│\n" ++ body ++
        String.ofList (List.replicate margin '─') ++ "╯\n"
  | _, _ => ""

/-- A message with the part of a source it is about. An empty source shows nothing. -/
def render (path source message : String) (span : Span) : String :=
  let characters := source.toList
  let (start, stop) := span.charRange characters
  "Error: " ++ message ++ "\n" ++ draw path message (SourceLine.ofSource characters) start stop

end TagTemplate.Snippet
