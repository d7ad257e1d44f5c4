/-! # Spans
A span is a range of byte positions in a document. Its end never lies before its start. -/

namespace UmlSketch

/-- A **span**: the bytes from `start` up to `stop`, `stop` excluded. -/
structure Span where
  /-- The position of the first byte. -/
  start : Nat
  /-- The position after the last byte. -/
  stop : Nat
  /-- A span does not end before it starts. -/
  start_le_stop : start ≤ stop
  deriving DecidableEq, Repr

namespace Span

/-- The span between two positions; it is empty at `start` if `stop` lies before. -/
def between (start stop : Nat) : Span := ⟨start, max start stop, Nat.le_max_left start stop⟩

/-- The span of `length` bytes from a position on. -/
def ofLength (start length : Nat) : Span := ⟨start, start + length, Nat.le_add_right start length⟩

/-- The empty span at the start of a document. -/
def empty : Span := between 0 0

/-- The span moved to the right. -/
def shift (span : Span) (offset : Nat) : Span :=
  ⟨span.start + offset, span.stop + offset, Nat.add_le_add_right span.start_le_stop offset⟩

/-- The least span that holds two spans. -/
def union (first second : Span) : Span :=
  ⟨min first.start second.start, max first.stop second.stop,
    Nat.le_trans (Nat.min_le_left _ _) (Nat.le_trans first.start_le_stop (Nat.le_max_left _ _))⟩

/-- The number of bytes in a span. -/
def length (span : Span) : Nat := span.stop - span.start

/-- Whether a span holds no byte. -/
def isEmpty (span : Span) : Bool := span.start = span.stop

@[simp] theorem length_ofLength (start length : Nat) : (ofLength start length).length = length := by
  simp [ofLength, Span.length]

end Span

end UmlSketch
