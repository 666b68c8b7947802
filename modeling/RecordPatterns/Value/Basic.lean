/-
Values at run time.

A value is null, a truth value, a 64-bit integer, a text, or a record: a type
together with the values that its constructor was given, in the order of the
components. Two values are equal here when they are built the same way. That
is not the equality that programs see, which asks the records' own members;
it is the one that everything else is measured against.
-/
import RecordPatterns.TypeTable

set_option autoImplicit false

namespace RecordPatterns

/-- A value. -/
inductive Value where
  /-- The null reference, which is of no type. -/
  | null
  | bool (b : Bool)
  | int (n : Int64)
  | text (s : String)
  /-- A record of some type, with the values of its components in order. No
  check is made here that the type has such components. -/
  | record (type : TypeId) (fields : List Value)

namespace Value

/-! ## Equality by construction -/

mutual

/-- Whether two values are built the same way. -/
def same : Value → Value → Bool
  | null, null => true
  | bool a, bool b => a = b
  | int a, int b => a = b
  | text a, text b => a = b
  | record s as, record t bs => s = t && sameAll as bs
  | _, _ => false

/-- Whether two lists hold values that are built the same way, one by one. -/
def sameAll : List Value → List Value → Bool
  | [], [] => true
  | a :: as, b :: bs => a.same b && sameAll as bs
  | _, _ => false

end

mutual

theorem same_iff : ∀ a b : Value, a.same b = true ↔ a = b
  | null, b => by cases b <;> simp [same]
  | bool a, b => by cases b <;> simp [same]
  | int a, b => by cases b <;> simp [same]
  | text a, b => by cases b <;> simp [same]
  | record s as, b => by cases b <;> simp [same, sameAll_iff as]

theorem sameAll_iff : ∀ as bs : List Value, sameAll as bs = true ↔ as = bs
  | [], bs => by cases bs <;> simp [sameAll]
  | a :: as, bs => by cases bs <;> simp [sameAll, same_iff a, sameAll_iff as]

end

/-- Being built the same way is decided by comparing part by part. -/
instance : DecidableEq Value := fun a b => decidable_of_iff _ (same_iff a b)

/-! ## Types and parts -/

/-- The value that an output slot of some type holds before anyone writes to
it. -/
def initial : TypeId → Value
  | .int => int 0
  | .bool => bool false
  | _ => null

/-- The null reference. -/
def isNull : Value → Bool
  | null => true
  | _ => false

/-- The type that a value carries at run time; null carries none. -/
def type? : Value → Option TypeId
  | null => none
  | bool _ => some .bool
  | int _ => some .int
  | text _ => some .text
  | record type _ => some type

/-- Whether a value is a record of some type. -/
def isRecord : Value → Bool
  | record .. => true
  | _ => false

/-- The stored value at a position, of a record that has that many. -/
def field? : Value → Nat → Option Value
  | record _ fields, position => fields[position]?
  | _, _ => none

end Value

end RecordPatterns
