/-
Resolution: from patterns to plans.

A pattern is resolved from the top down and from left to right. At a type
pattern the resolver first makes sure that it is not nested too deeply, then
asks the oracle for the one deconstructor that applies, checks that it has an
output for each argument, decides which test the subject has to pass, and only
then turns to the arguments. Each argument receives the output at its
position: its type is the static type for a further type pattern, and the type
of an untyped variable. A typed variable has to accept the output, and no name
is bound twice anywhere in the pattern; so the variables bound so far are
handed on from each argument to the next, down and up again. The first check
that fails ends it all, and its error is the answer.
-/
import RecordPatterns.Overload
import RecordPatterns.Plan
import RecordPatterns.Resolution.Error

set_option autoImplicit false

namespace RecordPatterns

/-- The subject of a match, as the host has typed it. -/
structure Subject where
  expression : ExprHandle
  type : TypeId
  span : Span
deriving DecidableEq

/-- The variables bound so far, the latest first, each with its place. -/
abbrev Bound := List (Symbol × Span)

/-- What resolving needs to know: the types, the names to use in messages, who
selects deconstructors, and how deeply type patterns may be nested, the
outermost one counting as one level. -/
structure Resolver where
  types : TypeTable
  symbols : SymbolTable
  oracle : Oracle
  maxDepth : Nat

namespace Resolver

/-- The nesting that is allowed unless someone asks for more or less. -/
def defaultDepth : Nat := 64

/-- The resolver that asks the registry itself. -/
def ofRegistry (r : Registry) (maxDepth : Nat) : Resolver :=
  ⟨r.types, r.symbols, r.select, maxDepth⟩

/-- The name of a type in messages. -/
def typeName (s : Resolver) (ty : TypeId) : String := s.types.display s.symbols ty

/-- The error of finding one type where another is needed. -/
def mismatch (s : Resolver) (expected found : TypeId) (span : Span) : ResolutionError :=
  .typeMismatch (s.typeName expected) (s.typeName found) span

/-- The deconstructor for a type pattern at some level. -/
def select (s : Resolver) (level : Nat) (target : TypeId) (arguments : List Pattern)
    (span : Span) : Except ResolutionError Deconstructor :=
  if s.maxDepth < level then .error (.tooDeep s.maxDepth span)
  else
    match s.oracle target (arguments.map Shape.ofPattern) with
    | .found d =>
      if d.arity = arguments.length then .ok d
      else .error (.arityMismatch (s.typeName target) [d.arity] arguments.length span)
    | .ambiguous candidates =>
      .error (.ambiguous (s.typeName target) candidates.length
        (candidates.map Deconstructor.span) span)
    | .notFound arities =>
      -- a wrong number of arguments is worth naming only if it fits no deconstructor at all
      if arities = [] ∨ arguments.length ∈ arities then
        .error (.noDeconstructor (s.typeName target) arguments.length span)
      else .error (.arityMismatch (s.typeName target) arities arguments.length span)

/-- The test that narrows a subject of some static type to the type that a
deconstructor takes. Where the static type already guarantees that type, only
null is left to be ruled out, if it can occur at all. -/
def typeTest (s : Resolver) (static needed : TypeId) (span : Span) :
    Except ResolutionError TypeTest :=
  if s.types.isSubtype static needed then
    .ok (if s.types.isNullable static then .nonNull else .unconditional)
  else if s.types.isSubtype needed static then .ok (.ofType needed)
  else .error (s.mismatch needed static span)

/-- The variables bound after one more. The type that the variable states, if
it does, has to accept the output, and the name has to be new. -/
def bindVariable (s : Resolver) (name : Symbol) (type : Option TypeId) (span : Span)
    (output : TypeId) (bound : Bound) : Except ResolutionError Bound :=
  let accepted := match type with
    | some declared => s.types.isSubtype output declared
    | none => true
  if accepted then
    match bound.lookup name with
    | some first => .error (.duplicateBinding (s.symbols.text name) first span)
    | none => .ok ((name, span) :: bound)
  else .error (s.mismatch (type.getD output) output span)

/-- The plan of a type pattern whose deconstructor is known, given how to
resolve the arguments for its outputs. -/
def node (s : Resolver) (d : Deconstructor) (source : Source) (static target : TypeId)
    (span : Span)
    (arguments : List TypeId → Except ResolutionError (List Argument × Bound)) :
    Except ResolutionError (Plan × Bound) := do
  let test ← s.typeTest static d.subject span
  let (arguments, bound) ← arguments d.outputs
  return (⟨⟨source, static, target, d, test, span⟩, arguments⟩, bound)

mutual

/-- Resolves the argument at a position of a type pattern at some level, given
the type of the output that it receives and the variables bound so far. -/
def argument (s : Resolver) (level index : Nat) (output : TypeId) (bound : Bound) :
    Pattern → Except ResolutionError (Argument × Bound)
  | .bind name type span => do
    let bound ← s.bindVariable name type span output bound
    return (.bind name (type.getD output), bound)
  | .discard _ => return (.discard, bound)
  | .record target patterns span => do
    let d ← s.select (level + 1) target patterns span
    let (plan, bound) ← s.node d (.output index) output target span fun outputs =>
      s.arguments (level + 1) 0 outputs bound patterns
    return (.nested plan.node plan.arguments, bound)

/-- Resolves the arguments of a type pattern from some position on, one for
each output. -/
def arguments (s : Resolver) (level index : Nat) (outputs : List TypeId) (bound : Bound) :
    List Pattern → Except ResolutionError (List Argument × Bound)
  | [] => return ([], bound)
  | p :: rest =>
    match outputs with
    | [] => return ([], bound)
    | output :: outputs => do
      let (first, bound) ← s.argument level index output bound p
      let (others, bound) ← s.arguments level (index + 1) outputs bound rest
      return (first :: others, bound)

end

/-- What is left to do for a type pattern at some level once its deconstructor
is known. -/
def nodeWith (s : Resolver) (d : Deconstructor) (level : Nat) (source : Source)
    (static target : TypeId) (patterns : List Pattern) (span : Span) (bound : Bound) :
    Except ResolutionError (Plan × Bound) :=
  s.node d source static target span fun outputs => s.arguments level 0 outputs bound patterns

/-- Resolves the match of a subject against a type with these arguments. -/
def resolve (s : Resolver) (subject : Subject) (target : TypeId) (patterns : List Pattern) :
    Except ResolutionError Plan := do
  let d ← s.select 1 target patterns subject.span
  let (plan, _) ← s.nodeWith d 1 (.expression subject.expression) subject.type target patterns
    subject.span []
  return plan

/-- Resolves the match of a subject against a whole pattern, which has to be a
type pattern. -/
def resolvePattern (s : Resolver) (subject : Subject) :
    Pattern → Except ResolutionError Plan
  | .record target patterns _ => s.resolve subject target patterns
  | other =>
    .error (.typeMismatch "a type pattern" "a variable or discard pattern" other.span)

end Resolver

end RecordPatterns
