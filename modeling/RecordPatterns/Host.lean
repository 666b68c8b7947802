/-
The host, and runs that call on it.

Subject expressions and the bodies of user written members belong to the
embedding compiler, the host. A run may ask it to evaluate an expression, to
run a deconstructor, an override of equality or hashing, or a getter. The host
answers each call with a result or a fault. A deconstructor is given slots to
write its outputs to, and hands back as many slots as it was given along with
its answer, whatever that is; whether anyone looks at them is up to the run.

A host that has no user code answers every call with a fault that names what
it was asked to do.
-/
import RecordPatterns.Dialogue
import RecordPatterns.Fault
import RecordPatterns.Handle
import RecordPatterns.Value.Basic

set_option autoImplicit false

namespace RecordPatterns

/-- The output slots of one call of a deconstructor: a fixed number of them,
each holding a value at any time. -/
structure Slots (count : Nat) where
  values : List Value
  length_eq : values.length = count
deriving DecidableEq

/-- Slots that hold the initial values of the given types. -/
def Slots.initial (outputs : List TypeId) : Slots outputs.length :=
  ⟨outputs.map Value.initial, List.length_map ..⟩

/-- A call on the host. -/
inductive HostCall where
  /-- The value of a subject expression. -/
  | evaluate (expression : ExprHandle)
  /-- Takes a subject apart into these slots, or declines. -/
  | deconstruct (body : BodyHandle) (subject : Value) (count : Nat) (slots : Slots count)
  /-- The user's own equality of two records. -/
  | equals (body : BodyHandle) (left right : Value)
  /-- The user's own hash of a record. -/
  | hash (body : BodyHandle) (value : Value)
  /-- A property of a record. -/
  | property (body : BodyHandle) (receiver : Value)
deriving DecidableEq

namespace HostCall

/-- What the host answers a call with. -/
abbrev Answer : HostCall → Type
  | evaluate _ => Except Fault Value
  | deconstruct _ _ count _ => Slots count × Except Fault Bool
  | equals .. => Except Fault Bool
  | hash .. => Except Fault UInt64
  | property .. => Except Fault Value

/-- What a host without user code says to a call. -/
def refusal : HostCall → String
  | evaluate expression => s!"host cannot evaluate {expression.render}"
  | deconstruct body .. => s!"host cannot run Match operator {body.render}"
  | equals body .. => s!"host cannot run equals {body.render}"
  | hash body _ => s!"host cannot run hash {body.render}"
  | property body _ => s!"host cannot run property {body.render}"

/-- The answer to a call that consists of a fault and writes no slot. -/
def faulty (fault : Fault) : (call : HostCall) → call.Answer
  | evaluate _ => .error fault
  | deconstruct _ _ _ slots => (slots, .error fault)
  | equals .. => .error fault
  | hash .. => .error fault
  | property .. => .error fault

/-- The answers of a host without user code. -/
def refuse (call : HostCall) : call.Answer := call.faulty (.raise call.refusal)

end HostCall

/-- A computation that may call on the host, and may end with a fault. -/
abbrev Run := Dialogue Fault HostCall.Answer

/-- What became of taking a subject apart: whether the deconstructor accepted
it, and the output slots as it left them. -/
structure Deconstruction where
  accepted : Bool
  outputs : List Value
deriving DecidableEq

namespace Run

/-- Evaluates a subject expression. -/
def evaluate (expression : ExprHandle) : Run Value :=
  .ask (.evaluate expression) .ofExcept

/-- Runs a user written deconstructor on slots with the initial values of its
output types. -/
def deconstruct (body : BodyHandle) (subject : Value) (outputs : List TypeId) :
    Run Deconstruction :=
  .ask (.deconstruct body subject outputs.length (.initial outputs)) fun (slots, answer) =>
    match answer with
    | .ok accepted => .done ⟨accepted, slots.values⟩
    | .error fault => .fail fault

/-- Runs an override of equality. -/
def equals (body : BodyHandle) (left right : Value) : Run Bool :=
  .ask (.equals body left right) .ofExcept

/-- Runs an override of hashing. -/
def hash (body : BodyHandle) (value : Value) : Run UInt64 :=
  .ask (.hash body value) .ofExcept

/-- Runs a getter. -/
def property (body : BodyHandle) (receiver : Value) : Run Value :=
  .ask (.property body receiver) .ofExcept

end Run

end RecordPatterns
