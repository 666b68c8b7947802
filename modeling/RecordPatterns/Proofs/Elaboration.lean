/-
Which patterns resolve with the registry, and to which plan.

Whoever selects the deconstructors, a pattern that resolves comes to the plan that
the answers make of it. With the registry as the oracle, the answers can be said as
well, and so it can be told from a pattern alone whether it resolves. It does
exactly if three things hold that have nothing to do with one another:

  * type patterns are nested no deeper than allowed (`Pattern.nesting`);
  * at every type pattern exactly one deconstructor suits the arguments, and
    the static type at that place is related to what it takes
    (`Registry.Admissible`);
  * no two variables anywhere share a name (`Pattern.binders`).

The plan is then the one that `Registry.Elaborates` describes node by node. It has
fewer premises than `Oracle.Plans`, as a deconstructor that suits the arguments has
one output for each, and each variable accepts its own; `elaborates_iff_plans` says
that the two come to the same. `exists_elaborates_iff` is the other half, that an
admissible pattern has a plan to be computed.
-/
import Mathlib.Data.List.Forall2
import RecordPatterns.Proofs.Overloads
import RecordPatterns.Proofs.Planning

set_option autoImplicit false

namespace RecordPatterns

/-! ## The judgement -/

namespace Registry

variable {r : Registry}

/-- Whether an argument can receive an output of some type. A typed variable
has to accept it, and a further type pattern has to be testable for what some
deconstructor of its type takes, or for the type itself if there is none. -/
def Fits (r : Registry) (output : TypeId) : Pattern → Prop
  | .bind _ (some declared) _ => r.types.isSubtype output declared = true
  | .bind _ none _ => True
  | .discard _ => True
  | .record target _ _ =>
    (∃ d ∈ r.deconstructors target, r.types.isRelated output d.subject = true)
      ∨ (r.deconstructors target = [] ∧ r.types.isRelated output target = true)

/-- A deconstructor suits some arguments if it has one output for each, and
each argument can receive its output. -/
def Suits (r : Registry) (arguments : List Pattern) (d : Deconstructor) : Prop :=
  List.Forall₂ r.Fits d.outputs arguments

/-- Exactly one of the deconstructors of a type suits some arguments, and it
is this one. Two that are declared alike are still two. -/
def Selects (r : Registry) (target : TypeId) (arguments : List Pattern) (d : Deconstructor) :
    Prop :=
  ∃ before later, r.deconstructors target = before ++ d :: later ∧ r.Suits arguments d
    ∧ ∀ other ∈ before ++ later, ¬ r.Suits arguments other

mutual

/-- Whether a pattern makes sense for a subject of some static type: at every
type pattern exactly one deconstructor is selected, and its subject type is
related to the static type, which below the top is the type of the output that
the selected deconstructor of the enclosing pattern has at that place. -/
def Admissible (r : Registry) (static : TypeId) : Pattern → Prop
  | .bind .. => True
  | .discard _ => True
  | .record target arguments _ =>
    ∃ d, r.Selects target arguments d ∧ r.types.isRelated static d.subject = true
      ∧ AdmissibleAll r d.outputs arguments

/-- The same of several patterns, each for the output at its position. -/
def AdmissibleAll (r : Registry) : List TypeId → List Pattern → Prop
  | output :: outputs, p :: rest => r.Admissible output p ∧ AdmissibleAll r outputs rest
  | _, _ => True

end

end Registry

mutual

/-- How a type pattern becomes a plan: the deconstructor that is selected, the
test that narrows the static type to what it takes, and the arguments, each
for the output at its position. -/
inductive Registry.Elaborates (r : Registry) :
    Source → TypeId → TypeId → List Pattern → Span → Plan → Prop
  | node {source : Source} {static target : TypeId} {patterns : List Pattern} {span : Span}
      {d : Deconstructor} {test : TypeTest} {arguments : List Argument}
      (selected : r.Selects target patterns d) (narrowed : r.types.Narrows static d.subject test)
      (inside : Registry.ElaboratesAll r 0 d.outputs patterns arguments) :
      Registry.Elaborates r source static target patterns span
        ⟨⟨source, static, target, d, test, span⟩, arguments⟩

/-- How the argument for the output at some position is elaborated. A variable
has the type that it states, or else that of the output. -/
inductive Registry.ElaboratesArgument (r : Registry) :
    Nat → TypeId → Pattern → Argument → Prop
  | bind (index : Nat) (output : TypeId) (name : Symbol) (type : Option TypeId) (span : Span) :
      Registry.ElaboratesArgument r index output (.bind name type span)
        (.bind name (type.getD output))
  | discard (index : Nat) (output : TypeId) (span : Span) :
      Registry.ElaboratesArgument r index output (.discard span) .discard
  | nested {index : Nat} {output target : TypeId} {patterns : List Pattern} {span : Span}
      {plan : Plan}
      (inside : Registry.Elaborates r (.output index) output target patterns span plan) :
      Registry.ElaboratesArgument r index output (.record target patterns span)
        (.nested plan.node plan.arguments)

/-- How the arguments for the outputs from some position on are elaborated,
one for each output. -/
inductive Registry.ElaboratesAll (r : Registry) :
    Nat → List TypeId → List Pattern → List Argument → Prop
  | nil (index : Nat) : Registry.ElaboratesAll r index [] [] []
  | cons {index : Nat} {output : TypeId} {outputs : List TypeId} {p : Pattern}
      {patterns : List Pattern} {a : Argument} {arguments : List Argument}
      (first : Registry.ElaboratesArgument r index output p a)
      (others : Registry.ElaboratesAll r (index + 1) outputs patterns arguments) :
      Registry.ElaboratesAll r index (output :: outputs) (p :: patterns) (a :: arguments)

end

/-! ## The oracle -/

namespace Registry

variable {r : Registry} {target : TypeId} {arguments : List Pattern} {d : Deconstructor}

/-- An output satisfies the shape of an argument exactly if the argument can
receive it. -/
theorem satisfies_ofPattern_iff (output : TypeId) (p : Pattern) :
    r.Satisfies output (Shape.ofPattern p) ↔ r.Fits output p := by
  cases p with
  | bind name type span => cases type <;> exact Iff.rfl
  | discard span => exact Iff.rfl
  | record target arguments span => exact Iff.rfl

/-- A deconstructor is applicable to the shapes of some arguments exactly if it
suits them. -/
theorem applicable_map_ofPattern_iff :
    r.Applicable (arguments.map Shape.ofPattern) d ↔ r.Suits arguments d := by
  rw [Applicable, List.forall₂_map_right_iff, Suits]
  simp only [satisfies_ofPattern_iff]

/-- What is selected is the only candidate. -/
theorem candidates_eq_singleton_iff :
    r.candidates target (arguments.map Shape.ofPattern) = [d] ↔ r.Selects target arguments d := by
  rw [candidates, List.filter_eq_cons_iff, Selects]
  simp only [decide_eq_true_eq, applicable_map_ofPattern_iff]
  constructor
  · rintro ⟨before, later, hsplit, hbefore, hd, hlater⟩
    refine ⟨before, later, hsplit, hd, ?_⟩
    intro other hother
    obtain hother | hother := List.mem_append.mp hother
    · exact hbefore other hother
    · simpa only [decide_eq_true_eq, applicable_map_ofPattern_iff]
        using List.filter_eq_nil_iff.mp hlater other hother
  · rintro ⟨before, later, hsplit, hd, hothers⟩
    refine ⟨before, later, hsplit, fun other hother => ?_, hd, ?_⟩
    · exact hothers other (List.mem_append_left _ hother)
    · rw [List.filter_eq_nil_iff]
      intro other hother
      rw [decide_eq_true_eq, applicable_map_ofPattern_iff]
      exact hothers other (List.mem_append_right _ hother)

/-- The registry as an oracle finds what is selected, and nothing else. -/
theorem select_eq_found_iff :
    r.select target (arguments.map Shape.ofPattern) = .found d ↔ r.Selects target arguments d := by
  rw [select_found_iff, candidates_eq_singleton_iff]

/-- What is selected is one of the deconstructors of the type. -/
theorem Selects.mem (h : r.Selects target arguments d) : d ∈ r.deconstructors target := by
  obtain ⟨before, later, hsplit, -, -⟩ := h
  rw [hsplit]
  exact List.mem_append_right _ List.mem_cons_self

/-- What is selected suits the arguments. -/
theorem Selects.suits (h : r.Selects target arguments d) : r.Suits arguments d := by
  obtain ⟨before, later, -, hsuits, -⟩ := h
  exact hsuits

/-- At most one deconstructor is selected. -/
theorem Selects.unique {e : Deconstructor} (hd : r.Selects target arguments d)
    (he : r.Selects target arguments e) : d = e := by
  rw [← candidates_eq_singleton_iff] at hd he
  simpa using hd.symm.trans he

end Registry

/-! ## What elaboration determines -/

namespace Registry

variable {r : Registry}

/-- The root of a plan has the static type that the pattern was elaborated
for. -/
theorem Elaborates.static_eq {source : Source} {static target : TypeId} {patterns : List Pattern}
    {span : Span} {plan : Plan} (h : r.Elaborates source static target patterns span plan) :
    plan.node.static = static := by
  cases h
  rfl

/-- A type pattern has a plan exactly if it is admissible, provided that its
arguments have theirs. -/
theorem exists_elaborates_iff_of_all {source : Source} {static target : TypeId}
    {patterns : List Pattern} {span : Span}
    (hall : ∀ d, r.Selects target patterns d →
      ((∃ arguments, r.ElaboratesAll 0 d.outputs patterns arguments)
        ↔ r.AdmissibleAll d.outputs patterns)) :
    (∃ plan, r.Elaborates source static target patterns span plan)
      ↔ r.Admissible static (.record target patterns span) := by
  rw [Admissible]
  constructor
  · rintro ⟨plan, ⟨hselected, hnarrowed, hinside⟩⟩
    have hrelated := TypeTable.exists_narrows_iff.mp ⟨_, hnarrowed⟩
    have hadmissible := (hall _ hselected).mp ⟨_, hinside⟩
    exact ⟨_, hselected, hrelated, hadmissible⟩
  · rintro ⟨d, hsel, hrelated, hinside⟩
    obtain ⟨test, htest⟩ := TypeTable.exists_narrows_iff.mpr hrelated
    obtain ⟨arguments, harguments⟩ := (hall d hsel).mpr hinside
    exact ⟨_, .node hsel htest harguments⟩

mutual

/-- An argument can be elaborated exactly if it is admissible for the type of
the output. -/
theorem exists_elaboratesArgument_iff : ∀ (p : Pattern) (index : Nat) (output : TypeId),
    (∃ a, r.ElaboratesArgument index output p a) ↔ r.Admissible output p
  | .bind name type span, index, output => by
    rw [Admissible]
    exact iff_of_true ⟨_, .bind index output name type span⟩ trivial
  | .discard span, index, output => by
    rw [Admissible]
    exact iff_of_true ⟨_, .discard index output span⟩ trivial
  | .record target patterns span, index, output => by
    rw [← exists_elaborates_iff_of_all fun d hsel =>
      exists_elaboratesAll_iff patterns 0 d.outputs hsel.suits.length_eq]
    constructor
    · rintro ⟨a, _ | _ | ⟨hinside⟩⟩
      exact ⟨_, hinside⟩
    · rintro ⟨plan, hplan⟩
      exact ⟨_, .nested hplan⟩

/-- Several arguments can be elaborated exactly if each is admissible. -/
theorem exists_elaboratesAll_iff : ∀ (patterns : List Pattern) (index : Nat)
    (outputs : List TypeId), outputs.length = patterns.length →
    ((∃ arguments, r.ElaboratesAll index outputs patterns arguments)
      ↔ r.AdmissibleAll outputs patterns)
  | [], index, outputs, hlen => by
    rw [List.eq_nil_of_length_eq_zero hlen, AdmissibleAll]
    · exact iff_of_true ⟨_, .nil index⟩ trivial
    · simp
  | p :: rest, index, outputs, hlen => by
    cases outputs with
    | nil => cases hlen
    | cons output outputs =>
      rw [AdmissibleAll, ← exists_elaboratesArgument_iff p index output,
        ← exists_elaboratesAll_iff rest (index + 1) outputs (Nat.succ.inj hlen)]
      constructor
      · rintro ⟨arguments, _ | ⟨first, others⟩⟩
        exact ⟨⟨_, first⟩, ⟨_, others⟩⟩
      · rintro ⟨⟨a, first⟩, ⟨arguments, others⟩⟩
        exact ⟨_, .cons first others⟩

end

/-- **Admissible patterns have plans**, and no others do. -/
theorem exists_elaborates_iff {source : Source} {static target : TypeId}
    {patterns : List Pattern} {span : Span} :
    (∃ plan, r.Elaborates source static target patterns span plan)
      ↔ r.Admissible static (.record target patterns span) :=
  exists_elaborates_iff_of_all fun d hsel =>
    exists_elaboratesAll_iff patterns 0 d.outputs hsel.suits.length_eq

/-! ## The registry as the oracle -/

mutual

/-- What a type pattern elaborates to, the answers of the registry make of it. -/
theorem Elaborates.plans {source : Source} {static target : TypeId} {patterns : List Pattern}
    {span : Span} {plan : Plan} : r.Elaborates source static target patterns span plan →
      r.select.Plans r.types source static target patterns span plan
  | .node selected narrowed inside =>
    .node (select_eq_found_iff.mpr selected) selected.suits.length_eq narrowed
      (inside.plans selected.suits)

/-- **One argument** that can receive the output: if it is a variable, the type
that it states accepts it. -/
theorem ElaboratesArgument.plans {index : Nat} {output : TypeId} {p : Pattern} {a : Argument} :
    r.ElaboratesArgument index output p a → r.Fits output p →
      r.select.PlansArgument r.types index output p a
  | .bind index output name type span, hfits => by
    refine .bind index output name type span fun declared hdeclared => ?_
    subst hdeclared
    exact hfits
  | .discard index output span, _ => .discard index output span
  | .nested inside, _ => .nested inside.plans

/-- **Several arguments**, each of which can receive its output. -/
theorem ElaboratesAll.plans {index : Nat} {outputs : List TypeId} {patterns : List Pattern}
    {arguments : List Argument} : r.ElaboratesAll index outputs patterns arguments →
      List.Forall₂ r.Fits outputs patterns →
      r.select.PlansAll r.types index outputs patterns arguments
  | .nil index, _ => .nil index
  | .cons first others, hfits =>
    .cons (first.plans (List.forall₂_cons.mp hfits).1) (others.plans (List.forall₂_cons.mp hfits).2)

end

mutual

/-- What the answers of the registry make of a type pattern, it elaborates to. -/
theorem elaborates_of_plans {source : Source} {static target : TypeId} {patterns : List Pattern}
    {span : Span} {plan : Plan} : r.select.Plans r.types source static target patterns span plan →
      r.Elaborates source static target patterns span plan
  | .node found _ narrowed inside =>
    .node (select_eq_found_iff.mp found) narrowed (elaboratesAll_of_plans inside)

/-- **One argument.** -/
theorem elaboratesArgument_of_plans {index : Nat} {output : TypeId} {p : Pattern} {a : Argument} :
    r.select.PlansArgument r.types index output p a → r.ElaboratesArgument index output p a
  | .bind index output name type span _ => .bind index output name type span
  | .discard index output span => .discard index output span
  | .nested inside => .nested (elaborates_of_plans inside)

/-- **Several arguments.** -/
theorem elaboratesAll_of_plans {index : Nat} {outputs : List TypeId} {patterns : List Pattern}
    {arguments : List Argument} : r.select.PlansAll r.types index outputs patterns arguments →
      r.ElaboratesAll index outputs patterns arguments
  | .nil index => .nil index
  | .cons first others => .cons (elaboratesArgument_of_plans first) (elaboratesAll_of_plans others)

end

/-- **Elaborating is planning with the registry as the oracle.** -/
theorem elaborates_iff_plans {source : Source} {static target : TypeId} {patterns : List Pattern}
    {span : Span} {plan : Plan} : r.Elaborates source static target patterns span plan
      ↔ r.select.Plans r.types source static target patterns span plan :=
  ⟨Elaborates.plans, elaborates_of_plans⟩

/-- A plan binds the variables of the pattern that it elaborates, in their
order, and is as deep as type patterns are nested. -/
theorem Elaborates.shape {source : Source} {static target : TypeId} {patterns : List Pattern}
    {span : Span} {plan : Plan} (h : r.Elaborates source static target patterns span plan) :
    plan.bindings.map Prod.fst = (Pattern.bindersAll patterns).map Prod.fst
      ∧ plan.depth = 1 + Pattern.nestingAll patterns :=
  h.plans.shape

end Registry

/-! ## The resolver of a registry -/

namespace Resolver

/-- The resolver takes types and deconstructors from a registry. The names in
its messages and the depth that it allows may come from elsewhere. -/
structure Uses (s : Resolver) (r : Registry) : Prop where
  types : s.types = r.types
  oracle : s.oracle = r.select

/-- The resolver of a registry uses it. -/
theorem uses_ofRegistry (r : Registry) (maxDepth : Nat) : (ofRegistry r maxDepth).Uses r :=
  ⟨rfl, rfl⟩

variable {s : Resolver} {r : Registry} {level : Nat} {d : Deconstructor} {target : TypeId}
  {patterns : List Pattern} {span : Span} {plan : Plan}

/-- The first half of a type pattern: its level has to be allowed, and the
registry has to select a deconstructor. Whether that has an output for each
argument is asked again, but cannot fail. -/
theorem select_eq_ok_iff (hs : s.Uses r) :
    s.select level target patterns span = .ok d
      ↔ level ≤ s.maxDepth ∧ r.Selects target patterns d := by
  rw [select_eq_ok_iff_found, hs.oracle, Registry.select_eq_found_iff]
  exact and_congr_right fun _ => and_iff_left_of_imp fun hsel => hsel.suits.length_eq

/-- **What resolving comes to.** A match resolves to a plan exactly if type
patterns are nested no deeper than allowed, the pattern elaborates to the plan,
and its variables have different names. -/
theorem resolve_eq_ok_iff (hs : s.Uses r) {subject : Subject} :
    s.resolve subject target patterns = .ok plan ↔
      1 + Pattern.nestingAll patterns ≤ s.maxDepth
        ∧ r.Elaborates (.expression subject.expression) subject.type target patterns subject.span
            plan
        ∧ ((Pattern.bindersAll patterns).map Prod.fst).Nodup := by
  rw [resolve_eq_ok_iff_plans, hs.oracle, hs.types, ← Registry.elaborates_iff_plans,
    Pattern.nesting]

/-- A plan that the registry's own resolver has returned is the pattern's. -/
theorem elaborates_of_resolve {maxDepth : Nat} {subject : Subject}
    (h : (ofRegistry r maxDepth).resolve subject target patterns = .ok plan) :
    r.Elaborates (.expression subject.expression) subject.type target patterns subject.span plan :=
  ((resolve_eq_ok_iff (uses_ofRegistry r maxDepth)).mp h).2.1

/-- **The resolver accepts the well-formed patterns and no others**, and the
plan is the one that the pattern determines. It accepts exactly if nesting
stays within the limit, every type pattern selects one deconstructor whose
subject type its static type is related to, and all variables have different
names. A plan is what it returns exactly if the pattern also elaborates to that
plan; the plan then binds the pattern's variables in their order, and is as
deep as type patterns are nested. -/
theorem resolve_accepts_exactly (r : Registry) (maxDepth : Nat) (subject : Subject)
    (target : TypeId) (patterns : List Pattern) :
    ((∃ plan, (ofRegistry r maxDepth).resolve subject target patterns = .ok plan) ↔
        (Pattern.record target patterns subject.span).nesting ≤ maxDepth
          ∧ r.Admissible subject.type (.record target patterns subject.span)
          ∧ ((Pattern.bindersAll patterns).map Prod.fst).Nodup)
      ∧ ∀ plan, (ofRegistry r maxDepth).resolve subject target patterns = .ok plan ↔
        (Pattern.record target patterns subject.span).nesting ≤ maxDepth
          ∧ (r.Elaborates (.expression subject.expression) subject.type target patterns
              subject.span plan
            ∧ plan.bindings.map Prod.fst = (Pattern.bindersAll patterns).map Prod.fst
            ∧ plan.depth = (Pattern.record target patterns subject.span).nesting)
          ∧ ((Pattern.bindersAll patterns).map Prod.fst).Nodup := by
  have hresolve : ∀ plan, (ofRegistry r maxDepth).resolve subject target patterns = .ok plan ↔ _ :=
    fun plan => resolve_eq_ok_iff (uses_ofRegistry r maxDepth)
  rw [Pattern.nesting]
  refine ⟨?_, fun plan => ?_⟩
  · rw [← @Registry.exists_elaborates_iff r (.expression subject.expression)]
    simp only [hresolve]
    constructor
    · rintro ⟨plan, hdepth, hjudge, hnames⟩
      exact ⟨hdepth, ⟨plan, hjudge⟩, hnames⟩
    · rintro ⟨hdepth, ⟨plan, hjudge⟩, hnames⟩
      exact ⟨plan, hdepth, hjudge, hnames⟩
  · rw [hresolve plan]
    constructor
    · rintro ⟨hdepth, hjudge, hnames⟩
      exact ⟨hdepth, ⟨hjudge, hjudge.shape⟩, hnames⟩
    · rintro ⟨hdepth, ⟨hjudge, -⟩, hnames⟩
      exact ⟨hdepth, hjudge, hnames⟩

end Resolver

end RecordPatterns
