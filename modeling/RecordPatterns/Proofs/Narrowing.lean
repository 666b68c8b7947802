/-
What the tests of a plan are good for.

A plan tests subjects before it has them taken apart, and only one of the
three tests looks at the subject's type. That the other two may do without is
a promise of the static type, and this file is about keeping it: from the root,
where the subject is given, through the outputs of every deconstructor on the
way, a value conforms to the static type that resolution has written down for
its place. Under that condition a test decides what it is there for, whether a
subject is of a type that the deconstructor takes (`Narrows.passes_iff`).

The invariant goes around in a circle that is not closed here. The walk over
an elaborated plan asks only for visits that make sense (`Visitable`), and
binds only values that conform to their variables (`Binds`), as long as every
visit is answered by outputs that conform to theirs (`Delivers`). Who answers,
and why the answers are of this kind, is left open: it is user code in one
place and the constructor's own checks in another. The induction is over
patterns, as in elaboration, and there is one statement for a node, one for an
argument and one for the arguments of a node (`Elaborates.along_walk`).
-/
import RecordPatterns.Proofs.Conformance
import RecordPatterns.Proofs.Elaboration
import RecordPatterns.Proofs.Observation

set_option autoImplicit false

namespace RecordPatterns

/-! ## Tests -/

/-- **A test decides what it is there for.** For a subject that fits the
static type, it passes exactly if the subject is not null and of a type below
the one that is needed. Null fails all three tests; what is not null is below
the static type, and that is why two of the tests need not look. -/
theorem TypeTable.Narrows.passes_iff {t : TypeTable} {static needed : TypeId} {test : TypeTest}
    {v : Value} (h : t.Narrows static needed test) (ht : t.Grounded)
    (hv : t.admits static v = true) :
    test.passes t v = true
      ↔ ∃ actual, v.type? = some actual ∧ t.isSubtype actual needed = true := by
  rw [TypeTest.passes]
  rw [admits] at hv
  cases hty : v.type? with
  | none => simp
  | some actual =>
    -- what is not null is below the static type, and so below whatever that is below
    rw [hty] at hv
    simp only [Option.some.injEq, exists_eq_left']
    cases h with
    | unconditional below _ => exact iff_of_true rfl (ht.isSubtype_trans hv below)
    | nonNull below _ => exact iff_of_true rfl (ht.isSubtype_trans hv below)
    | ofType _ _ => rfl

namespace Registry

variable {r : Registry}

/-- **What passes in front of a synthesized deconstructor.** Where records are
not derived from one another, it is the records of the type whose components
are to be read, and nothing else, whichever of the three tests it is. -/
theorem Coherent.passes_iff_record (h : r.Coherent) (hflat : r.Flat) {static target : TypeId}
    {info : RecordInfo} {test : TypeTest} {v : Value} (hinfo : r.info? target = some info)
    (hnarrowed : r.types.Narrows static (Deconstructor.positional info.declaration).subject test)
    (hv : r.Conforms static v) :
    test.passes r.types v = true ↔ ∃ fields, v = .record target fields := by
  obtain ⟨hrecord, hty, -, -⟩ := h.info?_spec hinfo
  rw [hnarrowed.passes_iff h.grounded hv.2, Deconstructor.positional, hty]
  constructor
  · rintro ⟨actual, hactual, hbelow⟩
    exact h.eq_record_of_isSubtype hflat hinfo hv.1 hactual hbelow
  · rintro ⟨fields, rfl⟩
    refine ⟨target, rfl, ?_⟩
    rw [TypeTable.isSubtype_self]
    exact TypeTable.isAllocated_of_isNullable (TypeTable.isNullable_of_isRecord hrecord)

/-! ## The invariant -/

/-- A visit that makes sense: the deconstructor is one of the type that the
pattern names, and the subject is of a type that it takes, so not null. -/
structure Visitable (r : Registry) (visit : Visit) : Prop where
  known : visit.node.deconstructor ∈ r.deconstructors visit.node.target
  wellFormed : r.WellFormed visit.subject
  below : ∃ actual, visit.subject.type? = some actual
    ∧ r.types.isSubtype actual visit.node.deconstructor.subject = true

/-- A visit is answered as it should be: by one conforming output for each
output type. What a declined subject's slots hold is nobody's concern. -/
def Delivers (r : Registry) (visit : Visit) (result : Deconstruction) : Prop :=
  result.accepted = true →
    List.Forall₂ r.Conforms visit.node.deconstructor.outputs result.outputs

/-- Every variable is bound, in order, to a value that conforms to its
type. -/
abbrev Binds (r : Registry) : List (Symbol × TypeId) → Bindings → Prop :=
  List.Forall₂ fun declared bound => bound.1 = declared.1 ∧ r.Conforms declared.2 bound.2

/-- What a walk may end in, for certain variables: no match, or all of them
bound. -/
def Matches (r : Registry) (declared : List (Symbol × TypeId)) (result : Option Bindings) : Prop :=
  ∀ b, result = some b → r.Binds declared b

/-- No match is always a way to end. -/
theorem matches_none (declared : List (Symbol × TypeId)) : r.Matches declared none := by
  intro b hb
  cases hb

/-! ## The walk -/

/-- A walk that keeps the invariant, and does not fail. -/
abbrev Keeps (r : Registry) (declared : List (Symbol × TypeId)) (walk : Walk (Option Bindings)) :
    Prop :=
  walk.Along r.Delivers r.Visitable (r.Matches declared) fun _ => False

/-- **One node.** If the subject conforms to the static type, it is visited
only if that makes sense, and the walk goes on only with outputs that
conform. -/
theorem keeps_visit (h : r.Coherent) {node : Plan.Node} {declared : List (Symbol × TypeId)}
    {subject : Value} {next : List Value → Walk (Option Bindings)}
    (hknown : node.deconstructor ∈ r.deconstructors node.target)
    (hnarrowed : r.types.Narrows node.static node.deconstructor.subject node.test)
    (hsubject : r.Conforms node.static subject)
    (hnext : ∀ outputs, List.Forall₂ r.Conforms node.deconstructor.outputs outputs →
      r.Keeps declared (next outputs)) :
    r.Keeps declared (Walk.visit r.types node subject next) := by
  rw [Walk.visit]
  by_cases hpasses : node.test.passes r.types subject = true
  · rw [if_pos hpasses]
    have hbelow := (hnarrowed.passes_iff h.grounded hsubject.2).mp hpasses
    -- whatever the visit is answered with, as long as it is what the visit should deliver
    have hrest : ∀ result : Deconstruction, r.Delivers ⟨node, subject⟩ result →
        r.Keeps declared (if result.accepted then next result.outputs else .done none) := by
      intro result hresult
      by_cases haccepted : result.accepted = true
      · rw [if_pos haccepted]
        exact hnext _ (hresult haccepted)
      · rw [if_neg haccepted]
        exact matches_none _
    exact ⟨⟨hknown, hsubject.1, hbelow⟩, hrest⟩
  · rw [if_neg hpasses]
    exact matches_none _

/-- A type pattern, given what is known about its arguments, so that the
outermost one and the nested ones are the same case. -/
theorem Elaborates.keeps_walk_of_all (h : r.Coherent) {source : Source} {static target : TypeId}
    {patterns : List Pattern} {span : Span} {plan : Plan} {subject : Value}
    (hjudge : r.Elaborates source static target patterns span plan)
    (hsubject : r.Conforms static subject)
    (hall : ∀ {outputs arguments values}, r.ElaboratesAll 0 outputs patterns arguments →
      List.Forall₂ r.Fits outputs patterns → List.Forall₂ r.Conforms outputs values →
      r.Keeps (Argument.bindingsAll arguments) (Walk.arguments r.types arguments values)) :
    r.Keeps plan.bindings (plan.walk r.types subject) := by
  obtain ⟨hselected, hnarrowed, hinside⟩ := hjudge
  rw [Plan.walk]
  refine keeps_visit h hselected.mem hnarrowed hsubject ?_
  intro outputs houtputs
  exact hall hinside hselected.suits houtputs

mutual

/-- **One argument.** A variable conforms to its type because it either has
the output's or states one above it. -/
theorem ElaboratesArgument.keeps_walk (h : r.Coherent) : ∀ (p : Pattern) {index : Nat}
    {output : TypeId} {a : Argument} {v : Value}, r.ElaboratesArgument index output p a →
      r.Fits output p → r.Conforms output v →
      r.Keeps a.bindings (Walk.argument r.types a v)
  | .bind name type span, _, _, _, _, hjudge, hfits, hv => by
    cases hjudge
    rw [Walk.argument, Argument.bindings]
    rintro b ⟨⟩
    refine .cons ⟨rfl, ?_⟩ .nil
    -- the stated type was compared with the output's when the deconstructor was selected
    cases type with
    | none => exact hv
    | some declared => exact h.conforms_of_isSubtype hfits hv
  | .discard span, _, _, _, _, hjudge, _, _ => by
    cases hjudge
    rw [Walk.argument, Argument.bindings]
    rintro b ⟨⟩
    exact .nil
  | .record target patterns span, _, _, _, _, hjudge, _, hv => by
    obtain _ | _ | ⟨hinside⟩ := hjudge
    rw [Walk.argument, Argument.bindings]
    exact hinside.keeps_walk_of_all h hv (ElaboratesAll.keeps_walk h patterns)

/-- **Several arguments**, from left to right. Bindings of one argument are
kept only if all those after it match as well. -/
theorem ElaboratesAll.keeps_walk (h : r.Coherent) : ∀ (patterns : List Pattern) {index : Nat}
    {outputs : List TypeId} {arguments : List Argument} {values : List Value},
      r.ElaboratesAll index outputs patterns arguments → List.Forall₂ r.Fits outputs patterns →
      List.Forall₂ r.Conforms outputs values →
      r.Keeps (Argument.bindingsAll arguments) (Walk.arguments r.types arguments values)
  | [], _, _, _, _, hjudge, _, _ => by
    cases hjudge
    rw [Walk.arguments, Argument.bindingsAll]
    rintro b ⟨⟩
    exact .nil
  | p :: rest, _, _, _, _, hjudge, hfits, hvalues => by
    obtain _ | ⟨first, others⟩ := hjudge
    obtain _ | ⟨hfit, hfits⟩ := hfits
    obtain _ | ⟨hv, hvalues⟩ := hvalues
    have hfirst := ElaboratesArgument.keeps_walk h p first hfit hv
    have hothers := ElaboratesAll.keeps_walk h rest others hfits hvalues
    rw [Walk.arguments, Argument.bindingsAll, Keeps, Dialogue.along_bind]
    refine hfirst.mono (fun result hresult => ?_) fun _ he => he
    cases result with
    | none => exact matches_none _
    | some b =>
      rw [Dialogue.along_bind]
      refine hothers.mono (fun result' hresult' => ?_) fun _ he => he
      cases result' with
      | none => exact matches_none _
      | some b' =>
        -- both have matched, so their bindings are joined
        rintro _ ⟨⟩
        exact List.rel_append (hresult b rfl) (hresult' b' rfl)

end

/-- **The walk over a plan** keeps the invariant, for a subject that conforms
to the static type of the root. -/
theorem Elaborates.keeps_walk (h : r.Coherent) {source : Source} {static target : TypeId}
    {patterns : List Pattern} {span : Span} {plan : Plan} {subject : Value}
    (hjudge : r.Elaborates source static target patterns span plan)
    (hsubject : r.Conforms static subject) :
    r.Keeps plan.bindings (plan.walk r.types subject) :=
  hjudge.keeps_walk_of_all h hsubject (ElaboratesAll.keeps_walk h patterns)

end Registry

end RecordPatterns
