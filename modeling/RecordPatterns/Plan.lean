/-
Plans: patterns with every choice made.

A plan is a tree with one node for each type pattern. A node says where its
subject comes from and of what static type it is, which deconstructor takes it
apart, and which test the subject has to pass first. Below the node stands one
argument for each output of the deconstructor: a variable that the output is
bound to, a discard, or a further node. The root reads a subject expression,
every other node an output of its parent, so a nested node taken by itself is
not a place where a match could start.
-/
import RecordPatterns.Deconstructor

set_option autoImplicit false

namespace RecordPatterns

/-- Where the subject of a node comes from. -/
inductive Source where
  /-- A subject expression of the host. -/
  | expression (e : ExprHandle)
  /-- An output of the parent's deconstructor. -/
  | output (index : Nat)
deriving DecidableEq

/-- The test that a subject passes before it is taken apart. Null passes none
of them. -/
inductive TypeTest where
  /-- The static type is a subtype of what is needed, and is never null. -/
  | unconditional
  /-- The static type is a subtype of what is needed. -/
  | nonNull
  /-- The subject's own type has to be a subtype of this type. -/
  | ofType (type : TypeId)
deriving DecidableEq

/-- What one type pattern was resolved to, its arguments apart. -/
structure Plan.Node where
  source : Source
  /-- The static type of the subject. -/
  static : TypeId
  /-- The type that the pattern names. -/
  target : TypeId
  deconstructor : Deconstructor
  test : TypeTest
  span : Span
deriving DecidableEq

/-- One argument of a node. -/
inductive Argument where
  /-- A variable, and its static type. -/
  | bind (name : Symbol) (type : TypeId)
  | discard
  /-- A node that takes the output apart, with its own arguments. -/
  | nested (node : Plan.Node) (arguments : List Argument)

namespace Argument

mutual

/-- Whether two arguments agree in every part. -/
def same : Argument → Argument → Bool
  | .bind x s, .bind y t => x = y && s = t
  | .discard, .discard => true
  | .nested m as, .nested n bs => m = n && sameAll as bs
  | _, _ => false

/-- Whether two lists of arguments agree in every part. -/
def sameAll : List Argument → List Argument → Bool
  | [], [] => true
  | a :: as, b :: bs => a.same b && sameAll as bs
  | _, _ => false

end

mutual

theorem same_iff : ∀ a b : Argument, a.same b = true ↔ a = b
  | .bind x s, b => by cases b <;> simp [same]
  | .discard, b => by cases b <;> simp [same]
  | .nested m as, b => by cases b <;> simp [same, sameAll_iff as]

theorem sameAll_iff : ∀ as bs : List Argument, sameAll as bs = true ↔ as = bs
  | [], bs => by cases bs <;> simp [sameAll]
  | a :: as, bs => by cases bs <;> simp [sameAll, same_iff a, sameAll_iff as]

end

/-- Agreement of arguments is decided part by part. -/
instance : DecidableEq Argument := fun a b => decidable_of_iff _ (same_iff a b)

mutual

/-- The variables that an argument binds, with their static types, from left
to right. -/
def bindings : Argument → List (Symbol × TypeId)
  | .bind name type => [(name, type)]
  | .discard => []
  | .nested _ arguments => bindingsAll arguments

/-- The variables that several arguments bind, from left to right. -/
def bindingsAll : List Argument → List (Symbol × TypeId)
  | [] => []
  | a :: rest => a.bindings ++ bindingsAll rest

end

mutual

/-- The number of nodes on the deepest path into an argument. -/
def depth : Argument → Nat
  | .bind .. => 0
  | .discard => 0
  | .nested _ arguments => 1 + deepest arguments

/-- The number of nodes on the deepest path into several arguments. -/
def deepest : List Argument → Nat
  | [] => 0
  | a :: rest => max a.depth (deepest rest)

end

end Argument

/-- A resolved pattern: a node and its arguments. -/
structure Plan where
  node : Plan.Node
  arguments : List Argument
deriving DecidableEq

namespace Plan

/-- The variables that a plan binds when it succeeds, with their static types,
in the order in which they are bound. -/
def bindings (p : Plan) : List (Symbol × TypeId) := Argument.bindingsAll p.arguments

/-- The number of nodes on the deepest path. -/
def depth (p : Plan) : Nat := 1 + Argument.deepest p.arguments

/-- The part of a plan below a path of argument positions, each of which has
to lead to a node. -/
def below? (p : Plan) : (path : List Nat) → Option Plan
  | [] => some p
  | index :: path =>
    match p.arguments[index]? with
    | some (.nested node arguments) => below? ⟨node, arguments⟩ path
    | _ => none

end Plan

end RecordPatterns
