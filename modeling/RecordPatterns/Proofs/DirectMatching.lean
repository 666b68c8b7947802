/-
Matching as a reader of a pattern understands it.

`T(p, q)` reads: the value is a record of type `T`, its first field matches
`p`, and its second one matches `q`. `Pattern.matchDirectly` is a program that
says just this. It looks at the pattern and the value, and knows neither
registry nor plan: no deconstructor is chosen, no member is read by name, no
static type is kept, and no test is left out because of one.

In a plain registry, where no deconstructor and no getter was written and
records are not derived from one another, resolving a pattern and evaluating
the plan comes to the same (`evaluate_eq_matchDirectly`). The host takes no
part in it, as the evaluation is done without a question.

The induction is over patterns. Its heart is one node (`visit_eq_of_all`): the
test passes exactly if the value is a record of the pattern's type, whichever
of the three tests it is, and what the chosen deconstructor then reads, name
by name, are the fields in their order.
-/
import RecordPatterns.Proofs.Narrowing

set_option autoImplicit false

namespace RecordPatterns

/-! ## The direct matcher -/

namespace Pattern

mutual

/-- Matches a value by looking at the pattern and the value alone. A variable
binds what it stands for, a discard accepts it, and a type pattern is for
records of that very type. The type that a variable states plays no part. -/
def matchDirectly : Pattern → Value → Option Bindings
  | .bind name _ _, v => some [(name, v)]
  | .discard _, _ => some []
  | .record target patterns _, v =>
    match v with
    | .record actual fields => if actual = target then matchAllDirectly patterns fields else none
    | _ => none

/-- Matches several values, one for each pattern, from left to right. -/
def matchAllDirectly : List Pattern → List Value → Option Bindings
  | [], [] => some []
  | p :: rest, v :: values =>
    match p.matchDirectly v with
    | none => none
    | some first =>
      match matchAllDirectly rest values with
      | none => none
      | some others => some (first ++ others)
  | _, _ => none

end

variable {target : TypeId} {patterns : List Pattern} {span : Span}

/-- A record of the type of the pattern is matched field by field. -/
theorem matchDirectly_record (fields : List Value) :
    (record target patterns span).matchDirectly (.record target fields)
      = matchAllDirectly patterns fields := by
  rw [matchDirectly]
  exact if_pos rfl

/-- Nothing but a record of its type matches a type pattern. -/
theorem matchDirectly_eq_none {v : Value} (h : ∀ fields, v ≠ .record target fields) :
    (record target patterns span).matchDirectly v = none := by
  cases v with
  | record actual fields =>
    rw [matchDirectly]
    refine if_neg fun hactual => ?_
    rw [hactual] at h
    exact h fields rfl
  | _ => simp [matchDirectly]

end Pattern

namespace Registry

variable {r : Registry}

/-! ## Plain registries -/

/-- Nothing about taking records apart was written by a user, and no record is
derived from another one. Written members under other names may be there, and
such with the name of a component as long as they are not run to read it. -/
structure Plain (r : Registry) : Prop where
  unwritten : r.Unwritten
  noGetter : ∀ info ∈ r.records, ∀ c ∈ info.members.components, info.getter? c.name = none
  flat : r.Flat

/-- **Reading components by name gives back the fields**, in their order. -/
theorem Coherent.deconstruct_record (h : r.Coherent) (hplain : r.Plain) {ty : TypeId}
    {info : RecordInfo} {fields : List Value} (hinfo : r.info? ty = some info)
    (hv : r.WellFormed (.record ty fields)) :
    r.deconstruct (.positional info.declaration) (.record ty fields) = .done ⟨true, fields⟩ :=
  h.deconstruct_eq_done hinfo (hv.fields_spec hinfo).length_eq
    (hplain.noGetter info (mem_of_info? hinfo).1)

/-! ## Plans against patterns -/

/-- **One node**, given that its arguments match as their patterns do. -/
theorem Elaborates.evaluate_eq_of_all (h : r.Coherent) (hplain : r.Plain) {source : Source}
    {static target : TypeId} {patterns : List Pattern} {span : Span} {plan : Plan} {v : Value}
    (hjudge : r.Elaborates source static target patterns span plan) (hv : r.Conforms static v)
    (hall : ∀ {outputs arguments values}, r.ElaboratesAll 0 outputs patterns arguments →
      List.Forall₂ r.Conforms outputs values →
      (Walk.arguments r.types arguments values).handle r.answer
        = .done (Pattern.matchAllDirectly patterns values)) :
    plan.evaluate r v = .done ((Pattern.record target patterns span).matchDirectly v) := by
  obtain ⟨hselected, hnarrowed, hinside⟩ := hjudge
  obtain ⟨info, hinfo, rfl⟩ := h.eq_positional_of_mem hplain.unwritten hselected.mem
  -- whichever test it is, it passes records of the pattern's type and nothing else
  have hpasses := h.passes_iff_record hplain.flat hinfo hnarrowed hv
  rw [Plan.evaluate, Plan.walk, Walk.visit]
  by_cases hfields : ∃ fields, v = .record target fields
  · rw [if_pos (hpasses.mpr hfields)]
    obtain ⟨fields, rfl⟩ := hfields
    have hconform : List.Forall₂ r.Conforms (Deconstructor.positional info.declaration).outputs
        fields := by
      rw [Deconstructor.positional, List.forall₂_map_left_iff, ← h.components_eq hinfo]
      exact hv.1.fields_spec hinfo
    rw [Dialogue.handle, Registry.answer, h.deconstruct_record hplain hinfo hv.1,
      Dialogue.done_bind, if_pos rfl, Pattern.matchDirectly_record]
    exact hall hinside hconform
  · rw [if_neg fun hp => hfields (hpasses.mp hp), Pattern.matchDirectly_eq_none]
    · rfl
    · exact not_exists.mp hfields

mutual

/-- **One argument.** -/
theorem ElaboratesArgument.handle_eq (h : r.Coherent) (hplain : r.Plain) : ∀ (p : Pattern)
    {index : Nat} {output : TypeId} {a : Argument} {v : Value},
      r.ElaboratesArgument index output p a → r.Conforms output v →
      (Walk.argument r.types a v).handle r.answer = .done (p.matchDirectly v)
  | .bind name type span, _, _, _, _, hjudge, _ => by
    cases hjudge
    rw [Walk.argument, Pattern.matchDirectly]
    rfl
  | .discard span, _, _, _, _, hjudge, _ => by
    cases hjudge
    rw [Walk.argument, Pattern.matchDirectly]
    rfl
  | .record target patterns span, _, _, _, _, hjudge, hv => by
    obtain _ | _ | ⟨hinside⟩ := hjudge
    rw [Walk.argument]
    exact hinside.evaluate_eq_of_all h hplain hv (ElaboratesAll.handle_eq h hplain patterns)

/-- **Several arguments**, one value for each, from left to right. -/
theorem ElaboratesAll.handle_eq (h : r.Coherent) (hplain : r.Plain) : ∀ (patterns : List Pattern)
    {index : Nat} {outputs : List TypeId} {arguments : List Argument} {values : List Value},
      r.ElaboratesAll index outputs patterns arguments → List.Forall₂ r.Conforms outputs values →
      (Walk.arguments r.types arguments values).handle r.answer
        = .done (Pattern.matchAllDirectly patterns values)
  | [], _, _, _, _, hjudge, hvalues => by
    cases hjudge
    cases hvalues
    rw [Walk.arguments, Pattern.matchAllDirectly]
    rfl
  | p :: rest, _, _, _, _, hjudge, hvalues => by
    obtain _ | ⟨first, others⟩ := hjudge
    obtain _ | ⟨hv, hvalues⟩ := hvalues
    have hfirst := ElaboratesArgument.handle_eq h hplain p first hv
    have hothers := ElaboratesAll.handle_eq h hplain rest others hvalues
    rw [Walk.arguments, Dialogue.handle_bind, hfirst, Dialogue.done_bind, Pattern.matchAllDirectly]
    cases p.matchDirectly _ with
    | none => rfl
    | some b =>
      simp only
      rw [Dialogue.handle_bind, hothers, Dialogue.done_bind]
      cases Pattern.matchAllDirectly rest _ with
      | none => rfl
      | some b' => rfl

end

end Registry

/-! ## The two agree -/

/-- **Resolving and evaluating is matching directly.** In a plain registry
that came about by edits, take a pattern that resolves for a subject, at
whatever depth, and a well-formed value that conforms to the subject's static
type. Evaluating the plan is done without asking the host anything, and its
result is that of the direct matcher. -/
theorem Plan.evaluate_eq_matchDirectly {r : Registry} {maxDepth : Nat} {subject : Subject}
    {p : Pattern} {plan : Plan} {v : Value} (hreachable : r.Reachable) (hplain : r.Plain)
    (hplan : (Resolver.ofRegistry r maxDepth).resolvePattern subject p = .ok plan)
    (hv : r.Conforms subject.type v) : plan.evaluate r v = .done (p.matchDirectly v) := by
  have h := hreachable.coherent
  cases p with
  | record target patterns span =>
    have hjudge := Resolver.elaborates_of_resolve hplan
    exact hjudge.evaluate_eq_of_all h hplain hv
      (Registry.ElaboratesAll.handle_eq h hplain patterns)
  | _ => cases hplan

/-- A reference type, points derived from it, and segments whose ends are of
the reference type. -/
def shapes : Registry := .after .empty
  [ .introduce .reference "Shape" .object,
    .introduce .record "Point" (.nominal 0),
    .declare ⟨⟨5⟩, .nominal 1,
      [⟨⟨6⟩, .int, false, .generated⟩, ⟨⟨7⟩, .int, false, .generated⟩], [], .generated⟩,
    .introduce .record "Segment" .object,
    .declare ⟨⟨6⟩, .nominal 2,
      [⟨⟨7⟩, .nominal 0, false, .generated⟩, ⟨⟨8⟩, .nominal 0, false, .generated⟩], [],
      .generated⟩ ]

/-- A pattern for segments that start in a point. -/
def startsInPoint : Pattern :=
  .record (.nominal 2)
    [ .record (.nominal 1) [.bind ⟨9⟩ none .generated, .discard .generated] .generated,
      .bind ⟨10⟩ none .generated ] .generated

/-- A segment from a point to nowhere starts in a point. -/
theorem evaluate_eq_matchDirectly_shapes :
    ∃ plan, (Resolver.ofRegistry shapes 2).resolvePattern ⟨⟨0⟩, .object, .generated⟩ startsInPoint
        = .ok plan
      ∧ plan.evaluate shapes (.record (.nominal 2) [.record (.nominal 1) [.int 3, .int 4], .null])
        = .done (some [(⟨9⟩, .int 3), (⟨10⟩, .null)]) := by
  have hreachable : shapes.Reachable := ⟨_, rfl⟩
  have hplain : shapes.Plain := ⟨⟨by decide, rfl⟩, by decide, by decide⟩
  have hpoint : shapes.WellFormed (.record (.nominal 1) [.int 3, .int 4]) := by
    refine .record rfl (.cons (by decide) (.cons (by decide) .nil)) ?_
    simp [Registry.WellFormed.int]
  have hsegment : shapes.Conforms .object
      (.record (.nominal 2) [.record (.nominal 1) [.int 3, .int 4], .null]) := by
    refine ⟨.record rfl (.cons (by decide) (.cons (by decide) .nil)) ?_, by decide⟩
    simp [hpoint, Registry.WellFormed.null]
  obtain ⟨plan, hplan⟩ : ∃ plan, (Resolver.ofRegistry shapes 2).resolvePattern
      ⟨⟨0⟩, .object, .generated⟩ startsInPoint = .ok plan := ⟨_, rfl⟩
  refine ⟨plan, hplan, ?_⟩
  rw [Plan.evaluate_eq_matchDirectly hreachable hplain hplan hsegment]
  rfl

end RecordPatterns
