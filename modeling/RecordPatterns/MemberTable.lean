/-
Member tables: which member a name of a record stands for.

Every component of a record gets a read-only accessor, unless the author
wrote a member of the same name; a written member wins for its name and for
no other. Of several written members with one name the first is in the table;
the others matter as overloads only, and only deconstructors are overloaded.
So a table has one entry for each name that occurs among the components and
the written members, and no other.

A table can only be made when no two components share a name and none is
mutable. The components are looked at in order, and the first offence is the
one reported; at one component, the shared name comes first.
-/
import RecordPatterns.Declaration.Basic
import RecordPatterns.Declaration.Error

set_option autoImplicit false

namespace RecordPatterns

/-- The member that a name stands for. -/
inductive EffectiveMember where
  /-- Reads the stored value of the component at this position. -/
  | accessor (position : Nat) (type : TypeId)
  /-- A member the author wrote. -/
  | written (member : Member)
deriving DecidableEq

/-- The effective members of a record by name, and its components in order. -/
structure MemberTable where
  entries : List (Symbol × EffectiveMember)
  components : List Component
deriving DecidableEq

namespace MemberTable

/-- The member that a name stands for. -/
def get? (t : MemberTable) (name : Symbol) : Option EffectiveMember :=
  t.entries.lookup name

/-- The position of a component, whether or not a written member hides its
accessor. -/
def position? (t : MemberTable) (name : Symbol) : Option Nat :=
  t.components.findIdx? (·.name = name)

/-- The number of names in the table. -/
def size (t : MemberTable) : Nat := t.entries.length

/-- A table without names. -/
def isEmpty (t : MemberTable) : Bool := t.entries.isEmpty

/-- The first of the members with each name, in the order of declaration. -/
def firstOfEachName : List Member → List Member
  | [] => []
  | m :: rest => m :: (firstOfEachName rest).filter (·.name ≠ m.name)

/-- The accessors of the components that no written member hides. -/
def accessors (members : List Member) (components : List Component) :
    List (Symbol × EffectiveMember) :=
  components.zipIdx.filterMap fun (c, position) =>
    if members.any (·.name = c.name) then none
    else some (c.name, .accessor position c.type)

/-- Looks at the components in order, given those that stand before them, and
reports the first that repeats a name or is mutable. -/
def checkComponents (symbols : SymbolTable) (record : Symbol) (earlier : List Component) :
    List Component → Except DeclarationError Unit
  | [] => .ok ()
  | c :: rest =>
    match earlier.find? (·.name = c.name) with
    -- a repeated name is reported even if the component is mutable as well
    | some first =>
      .error (.duplicateComponent (symbols.text record) (symbols.text c.name) first.span c.span)
    | none =>
      if c.isMutable then
        .error (.mutableComponent (symbols.text record) (symbols.text c.name) c.span)
      else checkComponents symbols record (earlier ++ [c]) rest

/-- The member table of a declaration, if its components are in order. -/
def ofDeclaration (symbols : SymbolTable) (d : Declaration) :
    Except DeclarationError MemberTable := do
  checkComponents symbols d.name [] d.components
  return {
    entries := (firstOfEachName d.members).map (fun m => (m.name, .written m))
      ++ accessors d.members d.components
    components := d.components }

end MemberTable

end RecordPatterns
