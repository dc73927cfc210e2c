/-!
# Spans

A span is a stretch of program text, given by the offset of its first character and the offset
after its last one. Every expression carries one, so that errors can say where they arose.
-/

namespace Manifest

/-- A stretch of program text. -/
structure Span where
  /-- where the stretch starts -/
  start : Nat
  /-- where it ends, exclusively -/
  stop : Nat
deriving DecidableEq, Inhabited

namespace Span

/-- The number of characters; a span that ends before it starts has none. -/
def size (s : Span) : Nat :=
  s.stop - s.start

/-- Whether the span covers nothing. -/
def isEmpty (s : Span) : Bool :=
  s.stop ≤ s.start

/-- The smallest span that covers both. -/
def merge (s t : Span) : Span :=
  ⟨min s.start t.start, max s.stop t.stop⟩

/-- The text of a span: its two offsets around two dots. -/
def text (s : Span) : String :=
  toString s.start ++ ".." ++ toString s.stop

end Span

end Manifest
