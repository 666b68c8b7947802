/-
Equality and hashing as programs see them.

Records of one declared type are compared as that type says: by the author's
own equality, or member by member in order, stopping at the first difference.
Records of different types are never equal, and nobody is asked. Everything
else is equal when it is built the same way. Hashing follows the same cases:
the author's own hash, a fold over the members, or the digest of the value.

Members are read through the member table, so a getter may stand in for a
component, and what a getter returns need not be smaller than the record it
was asked of. Comparing and hashing are therefore bounded by a depth, the
number of records that may lie within one another, and answer nothing if that
depth does not suffice. Where no getter is involved, the depth of the values
suffices; and an answer that is given does not change with a greater depth.
-/
import RecordPatterns.Registry.Access
import RecordPatterns.Value.Digest

set_option autoImplicit false

namespace RecordPatterns

/-- Whether all of some members compare equal, asked one by one, up to the
first that does not or that has no answer. -/
def Run.allEqual (compare : Symbol → Run (Option Bool)) : List Symbol → Run (Option Bool)
  | [] => .done (some true)
  | name :: rest => do
    match ← compare name with
    | some true => Run.allEqual compare rest
    | answer => return answer

/-- The running hash after some members, asked one by one, up to the first
that has no answer. -/
def Run.foldHash (hash : Symbol → Run (Option UInt64)) (running : UInt64) :
    List Symbol → Run (Option UInt64)
  | [] => .done (some running)
  | name :: rest => do
    match ← hash name with
    | some member => Run.foldHash hash (Equality.combine running member) rest
    | none => return none

namespace Registry

/-- Compares two values, with at most so many records within one another. -/
def equals (r : Registry) : (depth : Nat) → (a b : Value) → Run (Option Bool)
  | depth, a@(.record ty fields), b@(.record ty' fields') =>
    if ty ≠ ty' then .done (some false)
    else
      match r.info? ty with
      -- a type without a declaration has no members to ask
      | none => .done (some (decide (fields = fields')))
      | some info =>
        match info.equality, depth with
        | .written none _, _ => .fail (.of (.missingBody "equals"))
        | .written (some body) _, _ => some <$> Run.equals body a b
        -- one more record would lie within the others than the depth allows
        | .memberwise _, 0 => .done none
        | .memberwise names, depth + 1 =>
          Run.allEqual (fun name => do
            let left ← r.read a name
            let right ← r.read b name
            r.equals depth left right) names
  | _, a, b => .done (some (decide (a = b)))

/-- Hashes a value, with at most so many records within one another. -/
def hash (r : Registry) : (depth : Nat) → Value → Run (Option UInt64)
  | depth, v@(.record ty _) =>
    match r.info? ty with
    | none => .done (some v.digest)
    | some info =>
      match info.equality, depth with
      | .written _ none, _ => .fail (.of (.missingBody "hash"))
      | .written _ (some body), _ => some <$> Run.hash body v
      | .memberwise _, 0 => .done none
      | .memberwise names, depth + 1 =>
        Run.foldHash (fun name => do
          let member ← r.read v name
          r.hash depth member) Equality.seed names
  | _, v => .done (some v.digest)

end Registry

end RecordPatterns
