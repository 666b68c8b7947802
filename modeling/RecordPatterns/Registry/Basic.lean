/-
The registry: everything known about the declared types.

A registry holds the type table, the symbols, one entry for every record that
was declared, and the deconstructors that were added to types from outside. It
only ever grows. A type is introduced first and gets its components later, by
a declaration, which happens at most once; what follows from the declaration
(the member table, the equality, the deconstructors) is worked out there and
then, and every later question is answered from it. A declaration that is
refused leaves no trace.
-/
import RecordPatterns.Deconstructor
import RecordPatterns.Equality
import RecordPatterns.MemberTable

set_option autoImplicit false

namespace RecordPatterns

/-- A record declaration and what follows from it. -/
structure RecordInfo where
  declaration : Declaration
  members : MemberTable
  equality : Equality
  deconstructors : List Deconstructor
deriving DecidableEq

/-- Works out what follows from a declaration. -/
def RecordInfo.ofDeclaration (symbols : SymbolTable) (d : Declaration) :
    Except DeclarationError RecordInfo := do
  let members ← MemberTable.ofDeclaration symbols d
  return ⟨d, members, d.equality, d.deconstructors⟩

/-- The declared types and all that was declared about them. -/
structure Registry where
  types : TypeTable
  symbols : SymbolTable
  /-- The declared records, the latest first. -/
  records : List RecordInfo
  /-- The deconstructors added from outside, in the order of their addition. -/
  added : List Deconstructor
deriving DecidableEq

namespace Registry

/-- The registry that knows the built-in types only. -/
def empty : Registry := ⟨.builtin, .fresh, [], []⟩

/-- What is known about a declared record. -/
def info? (r : Registry) (ty : TypeId) : Option RecordInfo :=
  r.records.find? (·.declaration.type = ty)

/-- The name of a type in messages. -/
def typeName (r : Registry) (ty : TypeId) : String := r.types.display r.symbols ty

/-- All deconstructors of a type: those of its own declaration, then those
added from outside. -/
def deconstructors (r : Registry) (ty : TypeId) : List Deconstructor :=
  (match r.info? ty with
    | some info => info.deconstructors
    | none => [])
    ++ r.added.filter (·.owner = ty)

/-- The symbol of a text, with the registry that knows it. -/
def intern (r : Registry) (text : String) : Symbol × Registry :=
  let (symbol, symbols) := r.symbols.intern text
  (symbol, { r with symbols })

/-- Introduces a type. The components of a record follow later. -/
def introduce (r : Registry) (kind : NominalKind) (name : String) (base : TypeId) :
    TypeId × Registry :=
  let (symbol, r) := r.intern name
  let (ty, types) := r.types.declare kind symbol base
  (ty, { r with types })

/-- Takes in the declaration of a record type that was introduced and not
declared before. -/
def declare (r : Registry) (d : Declaration) :
    Except DeclarationError (RecordInfo × Registry) :=
  if ¬ r.types.isRecord d.type then
    .error (.notRecord (r.typeName d.type) d.span)
  else if (r.info? d.type).isSome then
    .error (.alreadyDeclared (r.typeName d.type) d.span)
  else do
    let info ← RecordInfo.ofDeclaration r.symbols d
    return (info, { r with records := info :: r.records })

/-- Adds the deconstructors among some members to a type, and tells how many
there were. -/
def addDeconstructors (r : Registry) (owner : TypeId) (members : List Member) : Nat × Registry :=
  let added := members.filterMap (Deconstructor.ofMember? owner)
  (added.length, { r with added := r.added ++ added })

end Registry

end RecordPatterns
