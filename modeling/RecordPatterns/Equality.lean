/-
The equality that a record's values have.

Equality and hashing belong together: a record whose author wrote either of
the two gets neither synthesized. The half that was left out, or that was
declared without a body, then has nothing to run. Without such members, values
are compared component by component, in order, and hashed by folding the
hashes of the components into a seed, in the same order.
-/
import RecordPatterns.Declaration.Basic
import RecordPatterns.Digest

set_option autoImplicit false

namespace RecordPatterns

/-- How the values of a record type are compared and hashed. -/
inductive Equality where
  /-- By these members, in this order. -/
  | memberwise (members : List Symbol)
  /-- By bodies that the author wrote, as far as there are any. -/
  | written (equals hash : Option BodyHandle)
deriving DecidableEq

namespace Equality

/-- Whether no user wrote it. -/
def isSynthesized : Equality → Bool
  | memberwise _ => true
  | written .. => false

/-- What the hash of a record begins with. -/
def seed : UInt64 := 0x5245434f52445f31

/-- The odd number that the running hash is multiplied by after each member. -/
def multiplier : UInt64 := 0x517cc1b727220a95

/-- The running hash after one more member. -/
def combine (running member : UInt64) : UInt64 :=
  (Digest.rotateLeft running 5 ^^^ member) * multiplier

end Equality

/-- The equality of a record. The first written member of a name decides, and
its mere presence counts, whatever kind of member it is. -/
def Declaration.equality (d : Declaration) : Equality :=
  match (d.membersNamed .equals).head?, (d.membersNamed .hash).head? with
  | none, none => .memberwise (d.components.map Component.name)
  | equals, hash => .written (equals.bind Member.body) (hash.bind Member.body)

end RecordPatterns
