/-
Type soundness of matching, in the presence of user code.

Outputs come from four places: from fields, whose types the constructor has
checked; from slots that a user written deconstructor filled; from getters,
which are run in place of a field; and from fields that a written member of
another kind hides, which are read all the same. Nothing is checked at run
time about any of them. What has to be assumed of user code is therefore said
first, answer by answer (`Respects`), and nothing is assumed of answers that
report a fault or decline.

The work is in one place. A visit that makes sense is answered by outputs that
conform to their types (`along_deconstruct`), which closes the circle that the
walk leaves open: whatever the walk goes on to do with these outputs makes
sense again. Records must not be derived from one another for that. The
synthesized deconstructor of a record reads its own components, by name, and a
derived record need not have them.

The result is about courses of an evaluation, and so about hosts of any kind:
whatever host there is, and whatever state it keeps, it takes a course
(`Dialogue.course_exchanges`). Which nodes are visited does not show in such a
course, so the promises are made of the observed evaluation, and the result
says itself that every course can be watched.
-/
import RecordPatterns.Proofs.Narrowing

set_option autoImplicit false

namespace RecordPatterns

/-! ## What user code owes -/

/-- The fault that an answer reports, if it reports one. -/
def HostCall.fault? : (call : HostCall) → call.Answer → Option Fault
  | .evaluate _, .error fault => some fault
  | .deconstruct .., (_, .error fault) => some fault
  | .equals .., .error fault => some fault
  | .hash .., .error fault => some fault
  | .property .., .error fault => some fault
  | _, _ => none

/-- The fault that is reported in an observation. -/
def Observation.fault? : (o : Observation) → o.Answer → Option Fault
  | .visit _, _ => none
  | .call _ question, answer => question.fault? answer

/-- Some answer in a course has reported the fault. -/
def Observation.Reported (seen : List (Dialogue.Exchange Observation.Answer)) (fault : Fault) :
    Prop :=
  ∃ e ∈ seen, e.question.fault? e.answer = some fault

namespace Registry

variable {r : Registry}

/-- An answer that keeps the promises of types. A deconstructor that accepts
has filled each slot with a value that conforms to its output type. A getter
that stands under a component's name, in the record that it is run on, has
returned a value that conforms to the component's type. -/
def Respects (r : Registry) : (o : Observation) → o.Answer → Prop
  | .call visit (.deconstruct ..) => fun (slots, answer) =>
    answer = .ok true → List.Forall₂ r.Conforms visit.node.deconstructor.outputs slots.values
  | .call _ (.property body receiver) => fun answer =>
    ∀ v, answer = .ok v → ∀ ty info c, receiver.type? = some ty → r.info? ty = some info →
      c ∈ info.members.components → info.getter? c.name = some body → r.Conforms c.type v
  | _ => fun _ => True

/-- What a sound evaluation announces: visits that make sense. Calls on the
host are made on their behalf and need not be looked at again. -/
def Announces (r : Registry) : Observation → Prop
  | .visit visit => r.Visitable visit
  | .call .. => True

/-- The fault of a deconstructor that was declared without a body. -/
def noDeconstructorBody : Fault := .of (.missingBody "Match")

/-! ## One visit -/

/-- Reading one component of a record: what comes back conforms to the type of
the component, whether it was stored or a getter computed it. -/
theorem Coherent.along_read (h : r.Coherent) {visit : Visit} {failure : Fault → Prop} {ty : TypeId}
    {info : RecordInfo} {fields : List Value} {c : Component} (hinfo : r.info? ty = some info)
    (hv : r.WellFormed (.record ty fields)) (hc : c ∈ info.members.components) :
    (r.read (.record ty fields) c.name).Along
      (fun question answer => r.Respects (.call visit question) answer
        ∧ ∀ fault, question.fault? answer = some fault → failure fault)
      (fun _ => True) (fun w => r.Conforms c.type w)
      (fun fault => fault = noDeconstructorBody ∨ failure fault) := by
  obtain ⟨i, w, hi, hw, hfield⟩ := hv.exists_field hinfo hc
  rw [h.read_component hinfo hi hw]
  cases hgetter : info.getter? c.name with
  | none => exact hfield
  | some body =>
    refine ⟨trivial, ?_⟩
    rintro answer ⟨hrespects, hfault⟩
    rw [Dialogue.along_ofExcept]
    refine ⟨fun w hw => hrespects w hw ty info c rfl hinfo hc hgetter, ?_⟩
    rintro fault rfl
    exact .inr (hfault fault rfl)

/-- **One visit.** Whether components are read or user code is run, a visit
that makes sense delivers outputs that conform to their types, and it fails
only with a fault that user code reports, or for want of user code. -/
theorem Coherent.along_deconstruct (h : r.Coherent) (hflat : r.Flat) {visit : Visit}
    {failure : Fault → Prop} (hvisit : r.Visitable visit) :
    (r.answer visit).Along
      (fun question answer => r.Respects (.call visit question) answer
        ∧ ∀ fault, question.fault? answer = some fault → failure fault)
      (fun _ => True) (r.Delivers visit)
      (fun fault => fault = noDeconstructorBody ∨ failure fault) := by
  rw [answer]
  obtain ⟨hknown, hwell, actual, hactual, hbelow⟩ := hvisit
  rcases h.mem_deconstructors hknown with ⟨info, hinfo, hpositional⟩ | ⟨body, hwritten⟩
  · -- the subject is a record of the very type whose components are read
    have hsubject : visit.node.deconstructor.subject = visit.node.target := by
      rw [hpositional]
      exact (h.info?_spec hinfo).2.1
    rw [hsubject] at hbelow
    obtain ⟨fields, hrecord⟩ := h.eq_record_of_isSubtype hflat hinfo hwell hactual hbelow
    have houtputs : visit.node.deconstructor.outputs
        = info.members.components.map Component.type := by
      rw [hpositional, h.components_eq hinfo]
      rfl
    rw [hrecord] at hwell ⊢
    rw [hpositional, deconstruct_positional, ← h.components_eq hinfo, Dialogue.along_bind]
    refine (Dialogue.along_mapM _ fun c hc => h.along_read hinfo hwell hc).mono ?_ fun _ he => he
    intro values hvalues _
    rw [houtputs, List.forall₂_map_left_iff]
    exact hvalues
  · -- what user code hands out is as good as its promises
    rw [deconstruct, hwritten]
    cases body with
    | none => exact .inl rfl
    | some body =>
      refine ⟨trivial, ?_⟩
      rintro ⟨slots, answer⟩ ⟨hrespects, hfault⟩
      cases answer with
      | ok accepted => exact fun haccepted => hrespects (congrArg _ haccepted)
      | error fault => exact .inr (hfault fault rfl)

end Registry

/-! ## The whole evaluation -/

/-- What can be relied on in one course of an observed evaluation. -/
structure Plan.Sound (p : Plan) (r : Registry) (seen : List (Dialogue.Exchange Observation.Answer))
    (outcome : Except Fault (Option Bindings)) : Prop where
  /-- Whatever is taken apart is not null, and of a type that the deconstructor
  takes. -/
  narrowed : ∀ e ∈ seen, ∀ visit, e.question = .visit visit →
    ∃ actual, visit.subject.type? = some actual
      ∧ r.types.isSubtype actual visit.node.deconstructor.subject = true
  /-- A match binds the plan's variables, each to a value that conforms to its
  type. -/
  bound : ∀ b, outcome = .ok (some b) → r.Binds p.bindings b
  /-- Where there is a fault, either user code has reported it, or a
  deconstructor had no body to run. -/
  excused : ∀ fault, outcome = .error fault →
    fault = Registry.noDeconstructorBody ∨ Observation.Reported seen fault

/-- **Matching is type sound.** Take a plan that was resolved in a reachable
registry, where records are not derived from one another, and a subject that
conforms to the plan's static type. Whatever course its evaluation takes, it
can be watched, with the same calls on the host; and however it is watched, if
user code respects types, the course is sound, also one that ends in no match
or in a fault. -/
theorem Plan.observe_sound {r : Registry} {maxDepth : Nat} {subject : Subject} {target : TypeId}
    {patterns : List Pattern} {plan : Plan} {v : Value} (hreachable : r.Reachable)
    (hflat : r.Flat)
    (hplan : (Resolver.ofRegistry r maxDepth).resolve subject target patterns = .ok plan)
    (hv : r.Conforms plan.node.static v) :
    (∀ log outcome, (plan.evaluate r v).Course log outcome →
        ∃ seen, (plan.observe r v).Course seen outcome
          ∧ seen.filterMap Observation.exchange? = log)
      ∧ ∀ seen outcome, (plan.observe r v).Course seen outcome →
        (∀ e ∈ seen, r.Respects e.question e.answer) → plan.Sound r seen outcome := by
  refine ⟨fun log outcome hcourse => exists_course_observe hcourse, ?_⟩
  intro seen outcome hcourse hrespects
  have h := hreachable.coherent
  have hjudge := Resolver.elaborates_of_resolve hplan
  rw [hjudge.static_eq] at hv
  -- the faults that user code may report are those that it has reported in this course
  have halong : (plan.observe r v).Along
      (fun o answer => r.Respects o answer
        ∧ ∀ fault, o.fault? answer = some fault → Observation.Reported seen fault)
      r.Announces (r.Matches plan.bindings)
      (fun fault => fault = Registry.noDeconstructorBody ∨ Observation.Reported seen fault) :=
    Plan.along_observe (hjudge.keeps_walk h hv)
      fun visit hvisit => ⟨hvisit, h.along_deconstruct hflat hvisit⟩
  obtain ⟨hasked, hresult, hfailure⟩ := halong.course hcourse fun e he =>
    ⟨hrespects e he, fun fault hfault => ⟨e, he, hfault⟩⟩
  exact {
    narrowed := by
      intro e he visit hvisit
      have hannounced := hasked e he
      rw [hvisit] at hannounced
      exact hannounced.below
    bound := fun b hb => hresult _ hb b rfl
    excused := hfailure }

/-- A record with a getter for its only component, and one with a
deconstructor of its own, which hands out a record of the first kind and an
integer. -/
def boxes : Registry := .after .empty
  [ .introduce .record "Box" .object,
    .declare ⟨⟨4⟩, .nominal 0, [⟨⟨5⟩, .int, false, .generated⟩],
      [⟨⟨5⟩, .property .int, some ⟨0⟩, .generated⟩], .generated⟩,
    .introduce .record "Crate" .object,
    .declare ⟨⟨6⟩, .nominal 1, [],
      [⟨.deconstruct, .deconstructor (.nominal 1) [.nominal 0, .int], some ⟨1⟩, .generated⟩],
      .generated⟩ ]

/-- The node for the crate. -/
def crateNode : Plan.Node where
  source := .expression ⟨0⟩
  static := .object
  target := .nominal 1
  deconstructor := ⟨.nominal 1, .nominal 1, [.nominal 0, .int], .written (some ⟨1⟩), .generated⟩
  test := .ofType (.nominal 1)
  span := .generated

/-- The node for the box. -/
def boxNode : Plan.Node where
  source := .output 0
  static := .nominal 0
  target := .nominal 0
  deconstructor := ⟨.nominal 0, .nominal 0, [.int], .synthesized [⟨5⟩], .generated⟩
  test := .nonNull
  span := .generated

/-- The plan for a crate with a box in it. -/
def cratePlan : Plan where
  node := crateNode
  arguments := [.nested boxNode [.bind ⟨7⟩ .int], .bind ⟨8⟩ .int]

/-- An evaluation in which the crate hands out a box that stores five, and the
box says nine when asked. -/
def crateSeen : List (Dialogue.Exchange Observation.Answer) :=
  [ ⟨.visit ⟨crateNode, .record (.nominal 1) []⟩, ()⟩,
    ⟨.call ⟨crateNode, .record (.nominal 1) []⟩
        (.deconstruct ⟨1⟩ (.record (.nominal 1) []) 2 (.initial [.nominal 0, .int])),
      (⟨[.record (.nominal 0) [.int 5], .int 2], rfl⟩, .ok true)⟩,
    ⟨.visit ⟨boxNode, .record (.nominal 0) [.int 5]⟩, ()⟩,
    ⟨.call ⟨boxNode, .record (.nominal 0) [.int 5]⟩
        (.property ⟨0⟩ (.record (.nominal 0) [.int 5])),
      .ok (.int 9)⟩ ]

/-- What is bound to the box's component is what the getter said. -/
theorem observe_sound_boxes :
    (Resolver.ofRegistry boxes 64).resolve ⟨⟨0⟩, .object, .generated⟩ (.nominal 1)
        [.record (.nominal 0) [.bind ⟨7⟩ none .generated] .generated, .bind ⟨8⟩ none .generated]
          = .ok cratePlan
      ∧ (cratePlan.observe boxes (.record (.nominal 1) [])).Course crateSeen
          (.ok (some [(⟨7⟩, .int 9), (⟨8⟩, .int 2)]))
      ∧ boxes.Binds cratePlan.bindings [(⟨7⟩, .int 9), (⟨8⟩, .int 2)] := by
  have hreachable : boxes.Reachable := ⟨_, rfl⟩
  have hplan : (Resolver.ofRegistry boxes 64).resolve ⟨⟨0⟩, .object, .generated⟩ (.nominal 1)
      [.record (.nominal 0) [.bind ⟨7⟩ none .generated] .generated, .bind ⟨8⟩ none .generated]
        = .ok cratePlan := rfl
  have hcrate : boxes.Conforms .object (.record (.nominal 1) []) :=
    ⟨.record rfl .nil (by simp), by decide⟩
  have hbox : boxes.Conforms (.nominal 0) (.record (.nominal 0) [.int 5]) :=
    ⟨.record rfl (.cons (by decide) .nil) (by simp [Registry.WellFormed.int]), by decide⟩
  have hint : ∀ n, boxes.Conforms .int (.int n) := fun n => ⟨.int n, rfl⟩
  have hcourse : (cratePlan.observe boxes (.record (.nominal 1) [])).Course crateSeen
      (.ok (some [(⟨7⟩, .int 9), (⟨8⟩, .int 2)])) :=
    .ask _ (.ask _ (.ask _ (.ask _ (.done _))))
  have hrespects : ∀ e ∈ crateSeen, boxes.Respects e.question e.answer := by
    refine List.forall_mem_cons.mpr ⟨trivial, List.forall_mem_cons.mpr ⟨fun _ => ?_, ?_⟩⟩
    · exact .cons hbox (.cons (hint 2) .nil)
    refine List.forall_mem_cons.mpr ⟨trivial, List.forall_mem_cons.mpr ⟨?_, by simp⟩⟩
    rintro _ ⟨⟩ _ info c ⟨⟩ hinfo hc -
    cases hinfo
    rw [List.mem_singleton.mp hc]
    exact hint 9
  obtain ⟨-, hsound⟩ := Plan.observe_sound hreachable (by decide) hplan hcrate
  exact ⟨hplan, hcourse, (hsound _ _ hcourse hrespects).bound _ rfl⟩

end RecordPatterns
