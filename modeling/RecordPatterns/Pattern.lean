/-
Patterns: what may stand inside the parentheses of a structural match.

A pattern binds a variable, discards its value, or names a type and goes on
with one pattern per output of that type's deconstructor. Depth counts the
levels of a pattern, leaves included.
-/
import RecordPatterns.Span
import RecordPatterns.TypeTable

set_option autoImplicit false

namespace RecordPatterns

/-- One pattern. -/
inductive Pattern where
  /-- Binds the value to a variable, whose type is that of the value's source
  unless the pattern states one. -/
  | bind (name : Symbol) (type : Option TypeId) (span : Span)
  /-- Accepts any value and binds nothing. -/
  | discard (span : Span)
  /-- Takes the value apart and matches the outputs one by one. -/
  | record (type : TypeId) (arguments : List Pattern) (span : Span)

namespace Pattern

/-- Where the pattern was written. -/
def span : Pattern → Span
  | .bind _ _ span => span
  | .discard span => span
  | .record _ _ span => span

/-- The same pattern, written elsewhere. Only the outermost level moves. -/
def placedAt (span : Span) : Pattern → Pattern
  | .bind name type _ => .bind name type span
  | .discard _ => .discard span
  | .record type arguments _ => .record type arguments span

mutual

/-- The number of levels: one for a leaf, and one more than the deepest
argument otherwise. -/
def depth : Pattern → Nat
  | .bind .. => 1
  | .discard _ => 1
  | .record _ arguments _ => 1 + deepest arguments

/-- The number of levels of the deepest of several patterns. -/
def deepest : List Pattern → Nat
  | [] => 0
  | p :: rest => max p.depth (deepest rest)

end

end Pattern

end RecordPatterns
