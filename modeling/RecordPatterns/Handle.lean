/-
Handles of things that live in the embedding compiler.

Subject expressions and the bodies of user written members are never looked
into here. They are known by number, and handed back to the host when they
have to be run.
-/

set_option autoImplicit false

namespace RecordPatterns

/-- A subject expression of the host. -/
structure ExprHandle where
  index : Nat
deriving DecidableEq

/-- The written form of an expression handle. -/
def ExprHandle.render (e : ExprHandle) : String := s!"ExprId({e.index})"

/-- The body of a user written member: a getter, an override of equality or
hashing, or a deconstructor. -/
structure BodyHandle where
  index : Nat
deriving DecidableEq

/-- The written form of a body handle. -/
def BodyHandle.render (b : BodyHandle) : String := s!"BodyId({b.index})"

end RecordPatterns
