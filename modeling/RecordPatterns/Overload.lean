/-
Overload choice: which deconstructor a pattern selects.

Given the type that a pattern names and the shapes of its arguments, exactly
one deconstructor has to apply: there must be as many outputs as arguments,
and each output has to satisfy the shape of its argument. Where several apply
there is no ranking. Where none applies, the answer lists how many outputs the
type's deconstructors do have, each number once and in ascending order.

Whoever resolves patterns may bring an oracle of its own; the registry is the
usual one.
-/
import RecordPatterns.Pattern
import RecordPatterns.Registry.Basic

set_option autoImplicit false

namespace RecordPatterns

/-- What an argument asks of the output that it receives. -/
inductive Shape where
  /-- Nothing: an untyped variable or a discard. -/
  | any
  /-- To be of a type: a typed variable. -/
  | binding (type : TypeId)
  /-- To be testable for the subject of some deconstructor of a type: a
  pattern that goes on. -/
  | nested (type : TypeId)
deriving DecidableEq

namespace Shape

/-- The shape of a pattern. -/
def ofPattern : Pattern → Shape
  | .bind _ (some type) _ => binding type
  | .bind _ none _ => any
  | .discard _ => any
  | .record type _ _ => nested type

/-- Whether an output of some type satisfies a shape, given the subject types
of the deconstructors of the type that a nested shape names. -/
def accepts (types : TypeTable) (output : TypeId) (subjects : List TypeId) : Shape → Bool
  | any => true
  | binding type => types.isSubtype output type
  | nested _ => subjects.any (types.isRelated output)

end Shape

/-- The outcome of looking for a deconstructor. -/
inductive Selection where
  | found (deconstructor : Deconstructor)
  /-- Several apply. -/
  | ambiguous (candidates : List Deconstructor)
  /-- None applies; the numbers of outputs that there are. -/
  | notFound (arities : List Nat)
deriving DecidableEq

/-- Selects the deconstructor of a type for arguments of some shapes. -/
abbrev Oracle := TypeId → List Shape → Selection

/-- Puts a number in its place in an ascending list, unless it is there. -/
def insertAscending (n : Nat) : List Nat → List Nat
  | [] => [n]
  | m :: rest =>
    if n < m then n :: m :: rest
    else if n = m then m :: rest
    else m :: insertAscending n rest

/-- The numbers of a list, each once and in ascending order. -/
def ascending (ns : List Nat) : List Nat := ns.foldr insertAscending []

namespace Registry

/-- The subject types that an output is tested against for a shape. A type
without deconstructors stands for itself, so that the pattern that names it is
chosen and reports what is missing. -/
def subjects (r : Registry) : Shape → List TypeId
  | .nested type =>
    match r.deconstructors type with
    | [] => [type]
    | ds => ds.map Deconstructor.subject
  | _ => []

/-- Whether an output of some type satisfies a shape, by the deconstructors
that the registry has. -/
def accepts (r : Registry) (shape : Shape) (output : TypeId) : Bool :=
  shape.accepts r.types output (r.subjects shape)

/-- Whether a deconstructor applies to arguments of some shapes. -/
def applies (r : Registry) (shapes : List Shape) (d : Deconstructor) : Bool :=
  d.arity = shapes.length
    && (shapes.zip d.outputs).all fun (shape, output) => r.accepts shape output

/-- The registry as an oracle. -/
def select (r : Registry) : Oracle := fun target shapes =>
  match (r.deconstructors target).filter (r.applies shapes) with
  | [] => .notFound (ascending ((r.deconstructors target).map Deconstructor.arity))
  | [d] => .found d
  | candidates => .ambiguous candidates

end Registry

end RecordPatterns
