/-!
# Spans

A span is a half-open range of byte offsets into a line.
-/

set_option autoImplicit false

namespace Reckoner

/-- The bytes from `start` up to but not including `stop`. -/
structure Span where
  start : Nat
  stop : Nat
deriving DecidableEq, Repr

namespace Span

/-- The empty span at an offset. -/
def point (offset : Nat) : Span :=
  ⟨offset, offset⟩

/-- The smallest span that covers both. -/
def merge (a b : Span) : Span :=
  ⟨min a.start b.start, max a.stop b.stop⟩

/-- How many bytes the span covers; none if it ends before it starts. -/
def length (s : Span) : Nat :=
  s.stop - s.start

/-- The span covers no byte. -/
def isEmpty (s : Span) : Bool :=
  s.length == 0

/-- The column of the first byte, counted from one. -/
def column (s : Span) : Nat :=
  s.start + 1

/-- The column in words. -/
def describe (s : Span) : String :=
  "column " ++ toString s.column

end Span

end Reckoner
