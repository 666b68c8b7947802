/-
Stretches of source text.

Every declaration, pattern and operator remembers where it was written, and
every error says where it arose. A span is two byte offsets, the second one
exclusive, and nothing forces the second to be the larger: things that no
source text was written for carry the empty span at offset zero, and a span
whose end precedes its start simply has no length.
-/

set_option autoImplicit false

namespace RecordPatterns

/-- A stretch of source text: the offset of its first byte, and the offset
just after its last one. -/
structure Span where
  start : Nat
  stop : Nat
deriving DecidableEq

namespace Span

/-- The span of things that no source text was written for. -/
def generated : Span := ⟨0, 0⟩

/-- The smallest span that covers both. -/
def merge (a b : Span) : Span :=
  ⟨min a.start b.start, max a.stop b.stop⟩

/-- The number of bytes covered; a span that ends before it starts covers
none, which is what subtraction of naturals says. -/
def length (s : Span) : Nat := s.stop - s.start

/-- A span is empty when it covers no byte. -/
def isEmpty (s : Span) : Bool := s.stop ≤ s.start

/-- The written form, with two dots between the offsets. -/
def render (s : Span) : String := s!"{s.start}..{s.stop}"

end Span

end RecordPatterns
