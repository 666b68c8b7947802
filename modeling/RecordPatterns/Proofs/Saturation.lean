/-
Plans with an argument for every output.

Matching pairs the arguments of a node with the outputs of its deconstructor
and stops where either runs out. Were there fewer outputs than arguments, some
variables would stay unbound and some nodes unvisited, and the match would
succeed all the same. It does not come to that, for a reason that has two
halves. What a deconstructor delivers does not depend on the subject or the
host: it is one value for each member that it reads, or one for each slot that
it gives out (`length_outputs_of_course`). And a plan that was resolved has
this many arguments at every node (`Plan.Saturated`), because the deconstructors
of a registry deliver what they declare (`delivering_of_reachable`), and the
resolver has counted (`saturated_of_resolve`).

The registry in which the plan is evaluated plays no part in either half. It
may be the one in which the plan was resolved, or that one at any later time.
-/
import RecordPatterns.Proofs.Course
import RecordPatterns.Proofs.Elaboration
import RecordPatterns.Proofs.History
import RecordPatterns.Registry.Access

set_option autoImplicit false

namespace RecordPatterns

/-! ## What deconstructors deliver -/

/-- The number of values that a deconstructor hands out: one for each member
that it reads, or one for each slot that it gives to the host. -/
def Deconstructor.yield (d : Deconstructor) : Nat :=
  match d.origin with
  | .synthesized members => members.length
  | .written _ => d.outputs.length

/-- What asks for nothing holds along every dialogue. -/
theorem Dialogue.along_true {ε Q α : Type} {A : Q → Type} (x : Dialogue ε A α) :
    x.Along (fun _ _ => True) (fun _ => True) (fun _ => True) fun _ => True := by
  induction x with
  | done result => trivial
  | fail failure => trivial
  | ask question resume ih => exact ⟨trivial, fun answer _ => ih answer⟩

namespace Registry

variable {r : Registry}

/-- **What is delivered is a matter of the deconstructor alone.** Whatever the
subject, the registry and the answers of the host, a deconstructor that comes
to a result delivers as many values as it always does, also if it declines. -/
theorem length_outputs_of_course {d : Deconstructor} {v : Value} {result : Deconstruction}
    {log : List (Dialogue.Exchange HostCall.Answer)}
    (h : (r.deconstruct d v).Course log (.ok result)) : result.outputs.length = d.yield := by
  have halong : (r.deconstruct d v).Along (fun _ _ => True) (fun _ => True)
      (fun result => result.outputs.length = d.yield) fun _ => True := by
    rw [deconstruct, Deconstructor.yield]
    cases d.origin with
    | synthesized members =>
      have hread : ∀ name ∈ members, (r.read v name).Along (fun _ _ => True) (fun _ => True)
          (fun _ => True) fun _ => True := fun name _ => Dialogue.along_true _
      rw [Dialogue.along_bind]
      exact (Dialogue.along_mapM members hread).mono
        (fun outputs houtputs => houtputs.length_eq.symm) fun _ he => he
    | written body =>
      cases body with
      | none => trivial
      | some body =>
        refine ⟨trivial, ?_⟩
        rintro ⟨slots, answer⟩ -
        cases answer with
        | ok accepted => exact slots.length_eq
        | error fault => trivial
  exact (halong.course h fun _ _ => trivial).2.1 result rfl

/-- The deconstructors of a type deliver one value for each output that they
declare. -/
theorem Coherent.yield_eq (h : r.Coherent) {ty : TypeId} {d : Deconstructor}
    (hd : d ∈ r.deconstructors ty) : d.yield = d.arity := by
  rcases h.mem_deconstructors hd with ⟨info, -, rfl⟩ | ⟨body, hwritten⟩
  · simp only [Deconstructor.yield, Deconstructor.arity, Deconstructor.positional, List.length_map]
  · simp only [Deconstructor.yield, Deconstructor.arity, hwritten]

/-- What the registry selects as an oracle is one of the deconstructors of the
type, for whatever shapes it is asked. -/
theorem mem_of_select_eq_found {target : TypeId} {shapes : List Shape} {d : Deconstructor}
    (h : r.select target shapes = .found d) : d ∈ r.deconstructors target := by
  have honly : d ∈ r.candidates target shapes := by
    rw [select_found_iff.mp h]
    exact List.mem_singleton_self d
  exact (mem_candidates_iff.mp honly).1

end Registry

/-! ## Saturated plans -/

namespace Argument

mutual

/-- Every node in an argument has as many arguments as its deconstructor
delivers values. -/
def Saturated : Argument → Prop
  | .bind .. => True
  | .discard => True
  | .nested node args => args.length = node.deconstructor.yield ∧ SaturatedAll args

/-- The same of several arguments. -/
def SaturatedAll : List Argument → Prop
  | [] => True
  | a :: rest => a.Saturated ∧ SaturatedAll rest

end

end Argument

/-- Every node of a plan has as many arguments as its deconstructor delivers
values. -/
def Plan.Saturated (p : Plan) : Prop :=
  p.arguments.length = p.node.deconstructor.yield ∧ Argument.SaturatedAll p.arguments

namespace Resolver

variable {s : Resolver}

/-- Every deconstructor that the oracle finds delivers one value for each
output that it declares. -/
def Delivering (s : Resolver) : Prop :=
  ∀ target shapes d, s.oracle target shapes = .found d → d.yield = d.arity

/-- A registry is such an oracle, whichever types and names the resolver uses
besides. -/
theorem delivering_of_reachable {r : Registry} (hreachable : r.Reachable)
    (horacle : s.oracle = r.select) : s.Delivering := by
  intro target shapes d hd
  rw [horacle] at hd
  exact hreachable.coherent.yield_eq (Registry.mem_of_select_eq_found hd)

end Resolver

namespace Oracle

variable {s : Resolver}

mutual

/-- **One node** comes out saturated, as its arguments were counted. -/
theorem Plans.saturated (hs : s.Delivering) {source : Source} {static target : TypeId}
    {patterns : List Pattern} {span : Span} {plan : Plan} :
    s.oracle.Plans s.types source static target patterns span plan → plan.Saturated
  | .node found counted _ inside => by
    obtain ⟨hlength, hall⟩ := inside.saturated hs
    exact ⟨by rw [hlength, hs _ _ _ found, counted], hall⟩

/-- **One argument** comes out saturated. -/
theorem PlansArgument.saturated (hs : s.Delivering) {index : Nat} {output : TypeId} {p : Pattern}
    {a : Argument} : s.oracle.PlansArgument s.types index output p a → a.Saturated
  | .bind .. => by
    rw [Argument.Saturated]
    trivial
  | .discard .. => by
    rw [Argument.Saturated]
    trivial
  | .nested inside => by
    rw [Argument.Saturated]
    exact inside.saturated hs

/-- **Several arguments** come out saturated, one for each pattern. -/
theorem PlansAll.saturated (hs : s.Delivering) {index : Nat} {outputs : List TypeId}
    {patterns : List Pattern} {arguments : List Argument} :
    s.oracle.PlansAll s.types index outputs patterns arguments →
      arguments.length = patterns.length ∧ Argument.SaturatedAll arguments
  | .nil _ => by
    rw [Argument.SaturatedAll]
    exact ⟨rfl, trivial⟩
  | .cons first others => by
    obtain ⟨hlength, hall⟩ := others.saturated hs
    rw [Argument.SaturatedAll, List.length_cons, List.length_cons, hlength]
    exact ⟨rfl, first.saturated hs, hall⟩

end

end Oracle

/-- **Resolved plans are saturated**, if the oracle finds nothing that delivers
more or less than it declares. -/
theorem Resolver.saturated_of_resolve {s : Resolver} (hs : s.Delivering) {subject : Subject}
    {target : TypeId} {patterns : List Pattern} {plan : Plan}
    (h : s.resolve subject target patterns = .ok plan) : plan.Saturated := by
  obtain ⟨-, hplan, -⟩ := resolve_eq_ok_iff_plans.mp h
  exact hplan.saturated hs

end RecordPatterns
