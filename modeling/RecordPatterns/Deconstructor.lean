/-
Deconstructors: operators that take a value apart.

A deconstructor belongs to the type that patterns name it by, takes a subject
of some type, which need not be the same, and produces outputs of fixed types
in order, or declines. It is either synthesized, and then reads the components
of its record in order and never declines, or written by a user, and then runs
a body. A record has the deconstructors that its author wrote, under whatever
name; only if there are none does it get the synthesized one.
-/
import RecordPatterns.Declaration.Basic

set_option autoImplicit false

namespace RecordPatterns

/-- Where the behaviour of a deconstructor comes from. -/
inductive Deconstructor.Origin where
  /-- Reads the members with these names, one per output. -/
  | synthesized (members : List Symbol)
  /-- Runs a body of the host, if there is one. -/
  | written (body : Option BodyHandle)
deriving DecidableEq

/-- An operator that takes a value apart. -/
structure Deconstructor where
  /-- The type that patterns name it by. -/
  owner : TypeId
  /-- The type that its subject is narrowed to before it runs. -/
  subject : TypeId
  outputs : List TypeId
  origin : Deconstructor.Origin
  span : Span
deriving DecidableEq

namespace Deconstructor

/-- The number of outputs. -/
def arity (d : Deconstructor) : Nat := d.outputs.length

/-- Whether no user wrote it. -/
def isSynthesized (d : Deconstructor) : Bool :=
  match d.origin with
  | .synthesized _ => true
  | .written _ => false

/-- The deconstructor that a written member declares for some owner, if it
declares one. -/
def ofMember? (owner : TypeId) (m : Member) : Option Deconstructor :=
  match m.kind with
  | .deconstructor subject outputs => some ⟨owner, subject, outputs, .written m.body, m.span⟩
  | _ => none

/-- The deconstructor that reads the components of a record in order. -/
def positional (d : Declaration) : Deconstructor where
  owner := d.type
  subject := d.type
  outputs := d.components.map Component.type
  origin := .synthesized (d.components.map Component.name)
  span := d.span

end Deconstructor

/-- The deconstructors of a record: the written ones in the order of
declaration, or else the one that reads the components. -/
def Declaration.deconstructors (d : Declaration) : List Deconstructor :=
  match d.members.filterMap (Deconstructor.ofMember? d.type) with
  | [] => [.positional d]
  | first :: rest => first :: rest

end RecordPatterns
