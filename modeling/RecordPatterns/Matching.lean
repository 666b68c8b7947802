/-
Matching: walking a plan along a value.

At each node the subject is tested first, and one that fails its test, null
always among them, is never taken apart. Otherwise the node's deconstructor is
asked; if it declines, its outputs are not looked at. If it accepts, each
argument receives the output at its position: variables are bound, discards
pass, and further nodes are walked in the same way, from left to right. The
first failure anywhere fails the whole match, and nothing of what was bound
before remains.

The walk itself knows the types and nothing more. It is a dialogue whose
questions are visits, each a node together with a subject that passed its
test; who takes the subject apart, and how, is the business of whoever
answers. Evaluating a plan is the walk with the registry answering the visits,
which in turn may call on the host. The order of visits can so be spoken of
without the host, and the calls on the host without the order of visits.
-/
import RecordPatterns.Plan
import RecordPatterns.Registry.Access

set_option autoImplicit false

namespace RecordPatterns

/-- The variables that a match bound, in the order of binding. -/
abbrev Bindings := List (Symbol × Value)

/-- The value of a variable. -/
def Bindings.get? (b : Bindings) (name : Symbol) : Option Value := b.lookup name

/-- Whether a subject passes a test. Only the last kind of test looks at the
subject's type; the others rely on its static type. -/
def TypeTest.passes (types : TypeTable) (test : TypeTest) (subject : Value) : Bool :=
  match subject.type? with
  | none => false
  | some actual =>
    match test with
    | .unconditional | .nonNull => true
    | .ofType needed => types.isSubtype actual needed

/-- A node whose deconstructor is to be run, with a subject that passed the
node's test. -/
structure Visit where
  node : Plan.Node
  subject : Value

/-- How a registry answers a visit. -/
abbrev Registry.answer (r : Registry) (visit : Visit) : Run Deconstruction :=
  r.deconstruct visit.node.deconstructor visit.subject

/-- A walk over a plan: it asks for subjects to be taken apart. -/
abbrev Walk := Dialogue Fault (fun _ : Visit => Deconstruction)

namespace Walk

/-- Visits a node and goes on with the outputs. Without any visit if the
subject fails the test, and without a look at the outputs if the subject is
declined, the match has failed. -/
def visit (types : TypeTable) (node : Plan.Node) (subject : Value)
    (next : List Value → Walk (Option Bindings)) : Walk (Option Bindings) :=
  if node.test.passes types subject then
    .ask ⟨node, subject⟩ fun result =>
      -- a declined subject's outputs are dropped unseen
      if result.accepted then next result.outputs else .done none
  else .done none

mutual

/-- Matches one argument with the output that it receives. -/
def argument (types : TypeTable) : Argument → Value → Walk (Option Bindings)
  | .bind name _, output => .done (some [(name, output)])
  | .discard, _ => .done (some [])
  | .nested node args, output => visit types node output fun outputs =>
    arguments types args outputs

/-- Matches arguments with outputs one by one, from left to right, as long as
there are both. -/
def arguments (types : TypeTable) : List Argument → List Value → Walk (Option Bindings)
  | [], _ => .done (some [])
  | arg :: args, outputs =>
    match outputs with
    | [] => .done (some [])
    | output :: outputs => do
      match ← argument types arg output with
      | none => return none
      | some first =>
        match ← arguments types args outputs with
        | none => return none
        | some others => return some (first ++ others)

end

end Walk

namespace Plan

/-- The walk over a plan for a subject. Its result is the bindings if the
subject matches, and nothing if it does not. -/
def walk (p : Plan) (types : TypeTable) (subject : Value) : Walk (Option Bindings) :=
  Walk.visit types p.node subject (Walk.arguments types p.arguments)

/-- Matches a subject against a plan, the registry taking subjects apart. -/
def evaluate (p : Plan) (r : Registry) (subject : Value) : Run (Option Bindings) :=
  (p.walk r.types subject).handle r.answer

/-- Has the host evaluate the subject expression of a plan, and matches its
value. Part of a plan below the root has no expression of its own. -/
def evaluateSite (p : Plan) (r : Registry) : Run (Option Bindings) :=
  match p.node.source with
  | .expression e => do p.evaluate r (← Run.evaluate e)
  | .output index => .fail ((Fault.of (.notMatchSite index)).arisingAt p.node.span)

end Plan

end RecordPatterns
