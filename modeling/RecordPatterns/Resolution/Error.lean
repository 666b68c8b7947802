/-
What can be wrong with a pattern.

All of these are found before the program runs: a pattern is resolved as a
whole or not at all. Each error has one place at fault and a few words for
that place; some also show the places that it is at odds with.
-/
import RecordPatterns.Diagnostic.Basic

set_option autoImplicit false

namespace RecordPatterns

/-- Why a pattern was not resolved. -/
inductive ResolutionError where
  /-- No deconstructor of the type accepts the arguments. -/
  | noDeconstructor (target : String) (arity : Nat) (span : Span)
  /-- Several do; their places are given. -/
  | ambiguous (target : String) (count : Nat) (candidates : List Span) (span : Span)
  /-- A variable name that was bound before. -/
  | duplicateBinding (name : String) (first second : Span)
  /-- No deconstructor of the type has this many outputs. -/
  | arityMismatch (target : String) (expected : List Nat) (found : Nat) (span : Span)
  | typeMismatch (expected found : String) (span : Span)
  | tooDeep (limit : Nat) (span : Span)
deriving DecidableEq

namespace ResolutionError

/-- The kind of error. -/
def code : ResolutionError → Diagnostic.Code
  | noDeconstructor .. => .noDeconstructor
  | ambiguous .. => .ambiguousDeconstructor
  | duplicateBinding .. => .duplicateBinding
  | arityMismatch .. => .patternArity
  | typeMismatch .. => .patternType
  | tooDeep .. => .patternTooDeep

/-- The place at fault; of two variables with one name, the second. -/
def span : ResolutionError → Span
  | noDeconstructor _ _ span => span
  | ambiguous _ _ _ span => span
  | duplicateBinding _ _ second => second
  | arityMismatch _ _ _ span => span
  | typeMismatch _ _ span => span
  | tooDeep _ span => span

/-- Numbers between brackets, separated by a comma and a blank. -/
def renderCounts (counts : List Nat) : String :=
  "[" ++ ", ".intercalate (counts.map toString) ++ "]"

/-- The message of an error. -/
def message : ResolutionError → String
  | noDeconstructor target arity _ =>
    s!"no `Match` operator on `{target}` accepts these {arity} argument pattern(s)"
  | ambiguous target count _ _ =>
    s!"{count} `Match` operators on `{target}` accept these argument patterns"
  | duplicateBinding name _ _ => s!"pattern variable `{name}` is bound more than once"
  | arityMismatch target expected found _ =>
    s!"`{target}` deconstructs into {renderCounts expected} value(s), but the pattern has {found}"
  | typeMismatch expected found _ => s!"pattern expects `{expected}`, found `{found}`"
  | tooDeep limit _ => s!"pattern nesting exceeds the limit of {limit}"

/-- The words at the place at fault. -/
def label : ResolutionError → String
  | noDeconstructor .. => "no applicable operator"
  | ambiguous .. => "ambiguous pattern"
  | duplicateBinding .. => "bound again here"
  | arityMismatch .. => "wrong number of arguments"
  | typeMismatch .. => "type mismatch"
  | tooDeep .. => "nested too deeply"

/-- The report of an error. -/
def report (e : ResolutionError) : Diagnostic :=
  let base := (Diagnostic.plain e.code e.message).label e.span e.label
  match e with
  | noDeconstructor target _ _ => base.inPattern target
  | arityMismatch target _ _ _ => base.inPattern target
  | ambiguous target _ candidates _ =>
    (candidates.foldl (fun d span => d.secondary span "candidate")
      (base.inPattern target)).note "overloads with compatible arity are never ranked"
  | duplicateBinding _ first _ => base.secondary first "first bound here"
  | tooDeep .. => base.suggest "split the pattern into several `matches` expressions"
  | typeMismatch .. => base

end ResolutionError

end RecordPatterns
