/-
Building records and reading them.

A record is built from one value per component, each of which has to fit the
component's type: null fits the types whose values may be null, and any other
value fits the supertypes of its own type.

A member is read by name, through the member table of the record's own type.
An accessor gives the stored value. A written property with a body is asked of
the host. Any other written member has nothing to run; if it hides a
component, the stored value can still be read under the name, and otherwise
reading it is a fault.
-/
import RecordPatterns.Host
import RecordPatterns.Registry.Basic

set_option autoImplicit false

namespace RecordPatterns

/-- Whether a value may stand where a type is expected. -/
def TypeTable.admits (t : TypeTable) (ty : TypeId) (v : Value) : Bool :=
  match v.type? with
  | none => t.isNullable ty
  | some actual => t.isSubtype actual ty

namespace Registry

/-- What messages call the type of a value. -/
def typeNameOf (r : Registry) (v : Value) : String :=
  match v.type? with
  | none => "null"
  | some ty => r.typeName ty

/-- The first of some components whose value does not fit it, with the value. -/
def misfit? (r : Registry) : List Component → List Value → Option (Component × Value)
  | c :: components, v :: values =>
    if r.types.admits c.type v then misfit? r components values else some (c, v)
  | _, _ => none

/-- Builds a record of a declared type from one fitting value per component. -/
def construct (r : Registry) (ty : TypeId) (values : List Value) : Except Fault Value :=
  match r.info? ty with
  | none => .error (.of (.notRecord (r.typeName ty)))
  | some info =>
    let components := info.members.components
    if components.length ≠ values.length then
      .error (.of (.constructorArity (r.typeName ty) components.length values.length))
    else
      match r.misfit? components values with
      | some (c, v) =>
        .error (.of (.constructorType (r.symbols.text c.name) (r.typeName c.type)
          (r.typeNameOf v)))
      | none => .ok (.record ty values)

/-- The fault of reading a member that a record does not have. -/
def unknownMember (r : Registry) (ty : TypeId) (name : Symbol) : Fault :=
  .of (.unknownMember (r.typeName ty) (r.symbols.text name))

/-- The stored value at a position of a record, for a member of some name. -/
def stored (r : Registry) (ty : TypeId) (fields : List Value) (name : Symbol) (position : Nat) :
    Run Value :=
  match fields[position]? with
  | some v => .done v
  | none => .fail (r.unknownMember ty name)

/-- Reads a member of a value. -/
def read (r : Registry) (v : Value) (name : Symbol) : Run Value :=
  match v with
  | .record ty fields =>
    match r.info? ty with
    | none => .fail (r.unknownMember ty name)
    | some info =>
      match info.members.get? name with
      | none => .fail (r.unknownMember ty name)
      | some (.accessor position _) => r.stored ty fields name position
      | some (.written member) =>
        match member.kind, member.body with
        | .property _, some body => Run.property body v
        -- nothing to run: the stored value of the component it hides, if any
        | _, _ =>
          match info.members.position? name with
          | some position => r.stored ty fields name position
          | none => .fail (.of (.missingBody (r.symbols.text name)))
  | _ => .fail (.of (.notRecord (r.typeNameOf v)))

/-- Takes a subject apart. Nothing is checked about the subject, which is for
the caller to narrow. -/
def deconstruct (r : Registry) (d : Deconstructor) (subject : Value) : Run Deconstruction :=
  match d.origin with
  | .synthesized members => do
    let outputs ← members.mapM (r.read subject)
    return ⟨true, outputs⟩
  | .written (some body) => Run.deconstruct body subject d.outputs
  | .written none => .fail (.of (.missingBody "Match"))

end Registry

end RecordPatterns
