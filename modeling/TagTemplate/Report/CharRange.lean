import TagTemplate.Span

/-!
Spans of bytes as ranges of characters.
-/

namespace TagTemplate

def charactersBefore : List Char → Nat → Nat
  | [], _ => 0
  | _, 0 => 0
  | character :: others, offset => charactersBefore others (offset - character.utf8Size) + 1

/-- The characters that start in a span. If none does, the range holds the one character behind
the start of the span, as far as there is one. -/
def Span.charRange (span : Span) (characters : List Char) : Nat × Nat :=
  let start := charactersBefore characters span.start
  let stop := max start (charactersBefore characters span.stop)
  if start = stop ∧ stop < characters.length then (start, stop + 1) else (start, stop)

end TagTemplate
