/-
The table of nominal types.

The embedding compiler owns the full type system; matching needs three facts
about a type: which types it is derived from, whether its values may be null,
and whether it was declared as a record. Four types are built in. Every other
type is nominal, known by its position in the table, and names one base type,
which has to be in the table already.

That last rule is what keeps the walk along bases short. A base that does not
qualify, because it is not yet declared or cannot be derived from, is replaced
by the top type, so the base of a nominal type always stands before it, and
the walk from a type takes at most as many steps as the type's own index. The
index therefore serves as the bound of the walk, and no table, however it was
filled, can make it run on.
-/
import RecordPatterns.Symbol

set_option autoImplicit false

namespace RecordPatterns

/-- A type, by name. Ids are numbers to the outside: the built-in types have
the first four, and nominal types follow in the order of their declaration.
An id need not denote a declared type. -/
inductive TypeId where
  /-- The top reference type. -/
  | object
  | int
  | bool
  | text
  /-- The nominal type at this position of the table. -/
  | nominal (position : Nat)
deriving DecidableEq

namespace TypeId

/-- The number of built-in types, which is the id of the first nominal one. -/
def builtinCount : Nat := 4

/-- The number that stands for a type outside. -/
def index : TypeId → Nat
  | object => 0
  | int => 1
  | bool => 2
  | text => 3
  | nominal position => position + 4

/-- The type that a number stands for. -/
def ofIndex : Nat → TypeId
  | 0 => object
  | 1 => int
  | 2 => bool
  | 3 => text
  | position + 4 => nominal position

/-- The written form of an id, which needs no table: built-in types by their
keyword, all others by number. -/
def render : TypeId → String
  | object => "object"
  | int => "int"
  | bool => "bool"
  | text => "str"
  | nominal position => s!"TypeId({position + 4})"

/-- Numbers and ids correspond, one way. -/
@[simp] theorem ofIndex_index (ty : TypeId) : ofIndex ty.index = ty := by
  cases ty <;> rfl

/-- Numbers and ids correspond, the other way. -/
@[simp] theorem index_ofIndex (n : Nat) : (ofIndex n).index = n := by
  match n with
  | 0 | 1 | 2 | 3 => rfl
  | _ + 4 => rfl

/-- An id is determined by its number. -/
theorem index_inj {a b : TypeId} : a.index = b.index ↔ a = b :=
  ⟨fun h => by rw [← ofIndex_index a, h, ofIndex_index], fun h => h ▸ rfl⟩

end TypeId

/-- What a nominal type was declared as. -/
inductive NominalKind where
  /-- A type declared with components. -/
  | record
  /-- Any other reference type; it may still carry deconstructors. -/
  | reference
deriving DecidableEq

/-- One declared type. -/
structure Nominal where
  kind : NominalKind
  name : Symbol
  base : TypeId
deriving DecidableEq

/-- The declared types, in the order of their declaration. -/
structure TypeTable where
  nominals : Array Nominal
deriving DecidableEq

namespace TypeTable

/-- The table that knows the built-in types only. -/
def builtin : TypeTable := ⟨#[]⟩

/-- The number of types in the table, the built-in ones among them. -/
def size (t : TypeTable) : Nat := t.nominals.size + TypeId.builtinCount

/-- The declaration of a nominal type. -/
def nominal? (t : TypeTable) : TypeId → Option Nominal
  | .nominal position => t.nominals[position]?
  | _ => none

/-- A type is allocated when it is built in or declared. -/
def isAllocated (t : TypeTable) : TypeId → Bool
  | .nominal position => position < t.nominals.size
  | _ => true

/-- The name that a nominal type was declared under. -/
def name? (t : TypeTable) (ty : TypeId) : Option Symbol :=
  (t.nominal? ty).map Nominal.name

/-- A type that was declared with components. -/
def isRecord (t : TypeTable) (ty : TypeId) : Bool :=
  match t.nominal? ty with
  | some declared => declared.kind = .record
  | none => false

/-- A type whose values may be null: every allocated one but the two whose
values are stored in place. -/
def isNullable (t : TypeTable) : TypeId → Bool
  | .int | .bool => false
  | ty => t.isAllocated ty

/-- The type that a type is derived from. The top type and the two types
stored in place have none. -/
def base? (t : TypeTable) : TypeId → Option TypeId
  | .text => some .object
  | .nominal position => (t.nominals[position]?).map Nominal.base
  | _ => none

/-- A type that others may be derived from: the top type, or a declared one. -/
def isDerivable (t : TypeTable) : TypeId → Bool
  | .object => true
  | .nominal position => position < t.nominals.size
  | _ => false

/-- Adds a type at the end. A base that others may not be derived from, the
type just being declared among them, is replaced by the top type. -/
def declare (t : TypeTable) (kind : NominalKind) (name : Symbol) (base : TypeId) :
    TypeId × TypeTable :=
  -- the position being filled is not in the table yet, so no type is its own base
  let base := if t.isDerivable base then base else .object
  (.nominal t.nominals.size, ⟨t.nominals.push ⟨kind, name, base⟩⟩)

/-- Whether the walk along bases from a type meets another one within some
number of steps. The start itself does not count as met. -/
def reaches (t : TypeTable) : (steps : Nat) → (ty super : TypeId) → Bool
  | 0, _, _ => false
  | steps + 1, ty, super =>
    match t.base? ty with
    | none => false
    | some base => base = super || t.reaches steps base super

/-- A type is a subtype of itself if it is allocated, of the top type if its
values are references, and of every type that its bases lead to. -/
def isSubtype (t : TypeTable) (sub super : TypeId) : Bool :=
  if sub = super then t.isAllocated sub
  else if super = .object then t.isNullable sub
  else t.reaches sub.index sub super

/-- Two types are related when a value of one could be a value of the other. -/
def isRelated (t : TypeTable) (a b : TypeId) : Bool :=
  t.isSubtype a b || t.isSubtype b a

/-- The name of a type in messages. -/
def display (t : TypeTable) (symbols : SymbolTable) : TypeId → String
  | .nominal position =>
    match t.nominals[position]? with
    | some declared => symbols.text declared.name
    | none => s!"<unknown type {position + 4}>"
  | builtin => builtin.render

end TypeTable

end RecordPatterns
