/-
Record declarations, as the embedding compiler hands them over.

A record is declared with components, in an order that never changes after:
it is the order of the constructor's arguments, of equality, of hashing and
of positional deconstruction. Besides its components a record has members
that its author wrote out. A written member may share its name with a
component, and members may share names among themselves; what that means is
settled by the member table, not here.
-/
import RecordPatterns.Handle
import RecordPatterns.Span
import RecordPatterns.TypeTable

set_option autoImplicit false

namespace RecordPatterns

/-- A named and typed constructor parameter, which becomes a read-only member. -/
structure Component where
  name : Symbol
  type : TypeId
  /-- Written with a mutability modifier, which no record may keep. -/
  isMutable : Bool
  span : Span
deriving DecidableEq

/-- What a written member is. -/
inductive MemberKind where
  | property (type : TypeId)
  /-- An ordinary method; the overrides of equality and hashing are such. -/
  | method
  /-- Takes a subject apart into outputs of these types, or declines it. -/
  | deconstructor (subject : TypeId) (outputs : List TypeId)
deriving DecidableEq

/-- A member that the author of a record wrote out. -/
structure Member where
  name : Symbol
  kind : MemberKind
  /-- Absent for abstract members and those that are supplied elsewhere. -/
  body : Option BodyHandle
  span : Span
deriving DecidableEq

/-- A member that takes subjects apart. -/
def Member.isDeconstructor (m : Member) : Bool :=
  match m.kind with
  | .deconstructor .. => true
  | _ => false

/-- A record declaration: which type it declares, the components in their
order, and the written members in theirs. -/
structure Declaration where
  name : Symbol
  type : TypeId
  components : List Component
  members : List Member
  span : Span
deriving DecidableEq

namespace Declaration

/-- The position of the component with a name. -/
def position? (d : Declaration) (name : Symbol) : Option Nat :=
  d.components.findIdx? (·.name = name)

/-- The written members with a name, in the order of declaration. -/
def membersNamed (d : Declaration) (name : Symbol) : List Member :=
  d.members.filter (·.name = name)

end Declaration

end RecordPatterns
