/-
The codes under which errors are known.

Each kind of error has one code, a letter and four digits whose first digit
tells the phase that reports it. Codes are for looking an error up; the words
of a particular error are with the error itself.
-/

set_option autoImplicit false

namespace RecordPatterns

namespace Diagnostic

/-- When an error is found. -/
inductive Phase where
  /-- While a record declaration is taken in. -/
  | declaration
  /-- While a pattern is resolved. -/
  | pattern
  /-- While the program runs. -/
  | run
deriving DecidableEq

/-- The kinds of errors. -/
inductive Code where
  | duplicateComponent
  | mutableComponent
  | notRecordType
  | declaredTwice
  | noDeconstructor
  | ambiguousDeconstructor
  | duplicateBinding
  | patternArity
  | patternType
  | patternTooDeep
  | constructorArity
  | constructorType
  | unknownMember
  | bodyFault
  | notRecordValue
  | notMatchSite
deriving DecidableEq

namespace Code

/-- Every kind of error, in the order of the codes. -/
def all : List Code :=
  [duplicateComponent, mutableComponent, notRecordType, declaredTwice,
    noDeconstructor, ambiguousDeconstructor, duplicateBinding, patternArity, patternType,
    patternTooDeep,
    constructorArity, constructorType, unknownMember, bodyFault, notRecordValue, notMatchSite]

/-- The phase that reports a kind of error. -/
def phase : Code → Phase
  | duplicateComponent | mutableComponent | notRecordType | declaredTwice => .declaration
  | noDeconstructor | ambiguousDeconstructor | duplicateBinding | patternArity | patternType
  | patternTooDeep => .pattern
  | constructorArity | constructorType | unknownMember | bodyFault | notRecordValue
  | notMatchSite => .run

/-- Errors of the first two phases are found before the program runs. -/
def isCompileTime (c : Code) : Bool := c.phase != .run

/-- The code itself. -/
def text : Code → String
  | duplicateComponent => "E2001"
  | mutableComponent => "E2002"
  | notRecordType => "E2003"
  | declaredTwice => "E2004"
  | noDeconstructor => "E3001"
  | ambiguousDeconstructor => "E3002"
  | duplicateBinding => "E3003"
  | patternArity => "E3004"
  | patternType => "E3005"
  | patternTooDeep => "E3006"
  | constructorArity => "E6001"
  | constructorType => "E6002"
  | unknownMember => "E6003"
  | bodyFault => "E6004"
  | notRecordValue => "E6005"
  | notMatchSite => "E6006"

/-- The kind of error with a code. -/
def ofText? (s : String) : Option Code := all.find? (·.text = s)

/-- What a kind of error means, in a few words. -/
def description : Code → String
  | duplicateComponent => "duplicate primary member"
  | mutableComponent => "mutable primary member"
  | notRecordType => "not a record type"
  | declaredTwice => "record declared twice"
  | noDeconstructor => "no applicable Match operator"
  | ambiguousDeconstructor => "ambiguous Match operator"
  | duplicateBinding => "duplicate pattern binding"
  | patternArity => "pattern arity mismatch"
  | patternType => "pattern type mismatch"
  | patternTooDeep => "pattern nesting too deep"
  | constructorArity => "constructor arity mismatch"
  | constructorType => "constructor argument type mismatch"
  | unknownMember => "unknown member"
  | bodyFault => "fault in user-written body"
  | notRecordValue => "value is not a record"
  | notMatchSite => "nested plan evaluated as a match site"

end Code

end Diagnostic

end RecordPatterns
