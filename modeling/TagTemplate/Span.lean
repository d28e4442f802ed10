/-!
Ranges of byte offsets in a template.
-/

namespace TagTemplate

structure Span where
  start : Nat
  stop : Nat
  deriving Repr, DecidableEq

namespace Span

def limit : Nat := 0xFFFFFFFF

/-- A span of offsets in a text, those past the limit standing at the limit. -/
def ofRange (start stop : Nat) : Span :=
  ⟨min start limit, min stop limit⟩

def point (offset : Nat) : Span :=
  ⟨offset, offset⟩

def length (span : Span) : Nat :=
  span.stop - span.start

def isEmpty (span : Span) : Bool :=
  span.stop ≤ span.start

def merge (left right : Span) : Span :=
  ⟨min left.start right.start, max left.stop right.stop⟩

def text (span : Span) : String :=
  s!"{span.start}..{span.stop}"

end Span

end TagTemplate
