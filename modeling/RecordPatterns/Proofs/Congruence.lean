/-
Equal subjects match alike.

Two values may compare equal and still be built differently, since comparing
looks at what getters say and not at what is stored. Matching looks at no more
than that. A synthesized deconstructor reads the very members that synthesized
equality compares, by the same names and from the same records, so two equal
records are taken apart into outputs that are equal once more, one by one. What
tests look at is the type of a value, and equal values are of one type, and
both null or neither.

That is a statement about two runs, and is proved of two runs at a time.
`Run.Related` says that both come to a result and that the results are related;
sequences keep it (`related_bind`). What the two walks have to agree on is an
invariant on pairs of values (`Registry.Twins`): both conform to the static
type at their place, and they compare equal. Nothing has to be assumed of
getters that report a fault. That comparing came to an answer shows that every
member could be read, and a host without a memory says the same when it is
asked again.
-/
import RecordPatterns.Proofs.DirectMatching
import RecordPatterns.Proofs.Equivalence
import RecordPatterns.Proofs.Preorder
import RecordPatterns.Proofs.Representation

set_option autoImplicit false

namespace RecordPatterns

variable {host : PureHost}

/-! ## Two runs at a time -/

namespace Run

variable {α β γ δ ι : Type}

/-- Both runs come to a result, and the results are related. -/
def Related (host : PureHost) (R : α → β → Prop) (x : Run α) (y : Run β) : Prop :=
  ∃ a b, x.under host = .ok a ∧ y.under host = .ok b ∧ R a b

/-- Runs that are done at once. -/
theorem related_done {R : α → β → Prop} {a : α} {b : β} (h : R a b) :
    Related host R (.done a) (.done b) :=
  ⟨a, b, rfl, rfl, h⟩

/-- Going on in related ways after related results. -/
theorem related_bind {R : α → β → Prop} {S : γ → δ → Prop} {x : Run α} {y : Run β}
    {next : α → Run γ} {next' : β → Run δ} (h : Related host R x y)
    (hnext : ∀ a b, R a b → Related host S (next a) (next' b)) :
    Related host S (x >>= next) (y >>= next') := by
  obtain ⟨a, b, hx, hy, hab⟩ := h
  obtain ⟨c, d, hc, hd, hcd⟩ := hnext a b hab
  exact ⟨c, d, under_bind_eq_ok_iff.mpr ⟨a, hx, hc⟩, under_bind_eq_ok_iff.mpr ⟨b, hy, hd⟩, hcd⟩

/-- What a getter comes to is what the host says. -/
theorem under_property (body : BodyHandle) (receiver : Value) :
    (property body receiver).under host = host (.property body receiver) := by
  have hanswer : ∀ answer : Except Fault Value, Run.under (.ofExcept answer) host = answer := by
    intro answer
    cases answer <;> rfl
  exact hanswer (host (.property body receiver))

end Run

namespace Registry

variable {r : Registry} {depth : Nat} {ty : TypeId} {info : RecordInfo} {a b : Value}

/-! ## Equal values -/

/-- Two values compare equal, within some depth. -/
abbrev Alike (r : Registry) (host : PureHost) (depth : Nat) (a b : Value) : Prop :=
  (r.equals depth a b).under host = .ok (some true)

/-- What is equal within some depth is equal within a greater one. -/
theorem Alike.mono (h : r.Alike host depth a b) {more : Nat} (hmore : depth ≤ more) :
    r.Alike host more a b :=
  (r.equals_approximates hmore a b).under_eq h

/-- Only a record compares equal to a record, and it is of the same type. -/
theorem Alike.recordType?_eq (h : r.Alike host depth a b) : a.recordType? = b.recordType? := by
  cases under_equals_iff.mp h with
  | built same _ _ => exact same
  | written same _ _ => exact same
  | memberwise same _ _ => exact same

/-- Of two equal values both are records of some type or neither is. -/
theorem Alike.exists_record_iff (h : r.Alike host depth a b) :
    (∃ fields, a = .record ty fields) ↔ ∃ fields, b = .record ty fields := by
  have hrecord : ∀ v : Value, (∃ fields, v = .record ty fields) ↔ v.recordType? = some ty := by
    intro v
    cases v <;> simp [Value.recordType?]
  rw [hrecord, hrecord, h.recordType?_eq]

/-- **Equal records have equal members**, and all of their members can be
read. -/
theorem Alike.exists_members {names : List Symbol} (h : r.Alike host depth a b)
    (hdeclared : r.equality? a = some (.memberwise names)) {name : Symbol} (hname : name ∈ names) :
    Run.Related host (r.Alike host depth) (r.read a name) (r.read b name) := by
  obtain ⟨-, less, rfl, hmembers⟩ := (under_equals_iff.mp h).of_memberwise hdeclared
  obtain ⟨left, right, hleft, hright, hequal⟩ := under_equalMember_iff.mp (hmembers name hname)
  have halike : r.Alike host less left right := hequal
  exact ⟨left, right, hleft, hright, halike.mono (Nat.le_succ less)⟩

/-! ## What the two walks agree on -/

/-- What makes comparing and taking apart see the same things, and matching
type safe: nobody wrote an equality, records are not derived from one another,
and what a getter returns in the place of a component conforms to the type of
the component. A getter that reports a fault returns nothing. -/
structure Transparent (r : Registry) (host : PureHost) : Prop where
  synthesized : ∀ info ∈ r.records, info.equality.isSynthesized = true
  flat : r.Flat
  getters : ∀ (ty : TypeId) (info : RecordInfo) (c : Component) (body : BodyHandle)
    (fields : List Value) (w : Value), r.info? ty = some info → c ∈ info.members.components →
    info.getter? c.name = some body → r.WellFormed (.record ty fields) →
    host (.property body (.record ty fields)) = .ok w → r.Conforms c.type w

/-- Two values at a place of some static type. -/
structure Twins (r : Registry) (host : PureHost) (depth : Nat) (static : TypeId) (a b : Value) :
    Prop where
  left : r.Conforms static a
  right : r.Conforms static b
  alike : r.Alike host depth a b

/-- Two lists of values at places of these static types. -/
inductive TwinsAll (r : Registry) (host : PureHost) (depth : Nat) :
    List TypeId → List Value → List Value → Prop
  | nil : TwinsAll r host depth [] [] []
  | cons {static : TypeId} {statics : List TypeId} {a b : Value} {as bs : List Value}
      (first : r.Twins host depth static a b) (others : TwinsAll r host depth statics as bs) :
      TwinsAll r host depth (static :: statics) (a :: as) (b :: bs)

/-- Two results of matching: no match both times, or the same variables, bound
to equal values. -/
abbrev MatchedAlike (r : Registry) (host : PureHost) (depth : Nat) :
    Option Bindings → Option Bindings → Prop :=
  Option.Rel (List.Forall₂ fun x y => x.1 = y.1 ∧ r.Alike host depth x.2 y.2)

/-- What is read under the name of a component conforms to its type, whether it
was stored or a getter has returned it. -/
theorem Coherent.conforms_of_read (h : r.Coherent) (hclear : r.Transparent host)
    (hinfo : r.info? ty = some info) {fields : List Value} {c : Component} {w : Value}
    (hv : r.WellFormed (.record ty fields)) (hc : c ∈ info.members.components)
    (hread : (r.read (.record ty fields) c.name).under host = .ok w) : r.Conforms c.type w := by
  obtain ⟨i, stored, hi, hstored, hfield⟩ := hv.exists_field hinfo hc
  rw [h.read_component hinfo hi hstored] at hread
  cases hgetter : info.getter? c.name with
  | none =>
    rw [hgetter] at hread
    cases hread
    exact hfield
  | some body =>
    rw [hgetter] at hread
    have hanswer : host (.property body (.record ty fields)) = .ok w :=
      (Run.under_property body _).symm.trans hread
    exact hclear.getters ty info c body fields w hinfo hc hgetter hv hanswer

/-- One component of two equal records: what is read of it are twins at a place
of its type. -/
theorem Coherent.related_read (h : r.Coherent) (hclear : r.Transparent host)
    (hinfo : r.info? ty = some info) {static : TypeId}
    {fields fields' : List Value}
    (htwins : r.Twins host depth static (.record ty fields) (.record ty fields')) {c : Component}
    (hc : c ∈ info.members.components) :
    Run.Related host (r.Twins host depth c.type) (r.read (.record ty fields) c.name)
      (r.read (.record ty fields') c.name) := by
  have hdeclared := h.equality?_eq hclear.synthesized hinfo fields
  obtain ⟨left, right, hleft, hright, halike⟩ :=
    htwins.alike.exists_members hdeclared (List.mem_map_of_mem hc)
  have hconforms := h.conforms_of_read hclear hinfo htwins.left.1 hc hleft
  have hconforms' := h.conforms_of_read hclear hinfo htwins.right.1 hc hright
  exact ⟨left, right, hleft, hright, hconforms, hconforms', halike⟩

/-- Reading components one by one, where reading each of them gives twins. -/
theorem related_mapM {f g : Component → Run Value} (components : List Component)
    (h : ∀ c ∈ components, Run.Related host (r.Twins host depth c.type) (f c) (g c)) :
    Run.Related host (r.TwinsAll host depth (components.map Component.type)) (components.mapM f)
      (components.mapM g) := by
  induction components with
  | nil => exact Run.related_done .nil
  | cons c rest ih =>
    obtain ⟨hfirst, hrest⟩ := List.forall_mem_cons.mp h
    rw [List.mapM_cons, List.mapM_cons]
    refine Run.related_bind hfirst fun a b hab => ?_
    refine Run.related_bind (ih hrest) fun as bs habs => ?_
    exact Run.related_done (.cons hab habs)

/-- **Taking equal records apart** gives outputs that are twins, one by one. -/
theorem Coherent.related_deconstruct (h : r.Coherent) (hclear : r.Transparent host)
    (hinfo : r.info? ty = some info) {static : TypeId}
    {fields fields' : List Value}
    (htwins : r.Twins host depth static (.record ty fields) (.record ty fields')) :
    Run.Related host
      (fun result result' => result.accepted = true ∧ result'.accepted = true
        ∧ r.TwinsAll host depth (Deconstructor.positional info.declaration).outputs result.outputs
            result'.outputs)
      (r.deconstruct (.positional info.declaration) (.record ty fields))
      (r.deconstruct (.positional info.declaration) (.record ty fields')) := by
  rw [deconstruct_positional, deconstruct_positional, Deconstructor.positional,
    ← h.components_eq hinfo]
  have hread : ∀ c ∈ info.members.components, Run.Related host (r.Twins host depth c.type)
      (r.read (.record ty fields) c.name) (r.read (.record ty fields') c.name) :=
    fun c hc => h.related_read hclear hinfo htwins hc
  refine Run.related_bind (related_mapM info.members.components hread) fun outputs outputs' ht => ?_
  exact Run.related_done ⟨rfl, rfl, ht⟩

/-! ## Two walks over one plan -/

/-- **One node**, given that its arguments match alike. -/
theorem Elaborates.related_evaluate_of_all (h : r.Coherent) (hclear : r.Transparent host)
    {source : Source} {static target : TypeId} {patterns : List Pattern} {span : Span} {plan : Plan}
    (hjudge : r.Elaborates source static target patterns span plan)
    (hoperator : plan.node.deconstructor.isSynthesized = true)
    (htwins : r.Twins host depth static a b)
    (hall : ∀ {outputs values values'}, r.ElaboratesAll 0 outputs patterns plan.arguments →
      r.TwinsAll host depth outputs values values' →
      Run.Related host (r.MatchedAlike host depth)
        ((Walk.arguments r.types plan.arguments values).handle r.answer)
        ((Walk.arguments r.types plan.arguments values').handle r.answer)) :
    Run.Related host (r.MatchedAlike host depth) (plan.evaluate r a) (plan.evaluate r b) := by
  obtain ⟨hselected, hnarrowed, hinside⟩ := hjudge
  obtain ⟨info, hinfo, rfl⟩ := h.eq_positional_of_isSynthesized hselected.mem hoperator
  have hpasses := h.passes_iff_record hclear.flat hinfo hnarrowed htwins.left
  have hpasses' := h.passes_iff_record hclear.flat hinfo hnarrowed htwins.right
  rw [Plan.evaluate, Plan.evaluate, Plan.walk, Plan.walk, Walk.visit, Walk.visit]
  by_cases hfields : ∃ fields, a = .record target fields
  · obtain ⟨fields', rfl⟩ := htwins.alike.exists_record_iff.mp hfields
    obtain ⟨fields, rfl⟩ := hfields
    rw [if_pos (hpasses.mpr ⟨fields, rfl⟩), if_pos (hpasses'.mpr ⟨fields', rfl⟩),
      Dialogue.handle, Dialogue.handle]
    refine Run.related_bind (h.related_deconstruct hclear hinfo htwins) ?_
    rintro result result' ⟨haccepted, haccepted', houtputs⟩
    rw [if_pos haccepted, if_pos haccepted']
    exact hall hinside houtputs
  · have hfields' : ¬ ∃ fields, b = .record target fields := by
      rwa [← htwins.alike.exists_record_iff]
    rw [if_neg fun hp => hfields (hpasses.mp hp), if_neg fun hp => hfields' (hpasses'.mp hp)]
    exact Run.related_done .none

mutual

/-- **One argument.** -/
theorem ElaboratesArgument.related_handle (h : r.Coherent) (hclear : r.Transparent host) :
    ∀ (p : Pattern) {index : Nat} {output : TypeId} {argument : Argument} {a b : Value}
      {place : List Nat} {position : Nat},
      r.ElaboratesArgument index output p argument →
      (∀ e ∈ argument.places place position, e.2.deconstructor.isSynthesized = true) →
      r.Twins host depth output a b →
      Run.Related host (r.MatchedAlike host depth)
        ((Walk.argument r.types argument a).handle r.answer)
        ((Walk.argument r.types argument b).handle r.answer)
  | .bind name type span, _, _, _, a, b, _, _, hjudge, _, htwins => by
    cases hjudge
    rw [Walk.argument, Walk.argument]
    exact Run.related_done (.some (.cons ⟨rfl, htwins.alike⟩ .nil))
  | .discard span, _, _, _, _, _, _, _, hjudge, _, _ => by
    cases hjudge
    rw [Walk.argument, Walk.argument]
    exact Run.related_done (.some .nil)
  | .record target patterns span, _, _, _, a, b, place, position, hjudge, hoperators, htwins => by
    obtain _ | _ | ⟨hinside⟩ := hjudge
    rw [Argument.places, List.forall_mem_cons] at hoperators
    rw [Walk.argument, Walk.argument]
    exact hinside.related_evaluate_of_all h hclear hoperators.1 htwins
      fun hjudge houtputs => ElaboratesAll.related_handle h hclear patterns
        hjudge hoperators.2 houtputs

/-- **Several arguments**, each for two values at its place. -/
theorem ElaboratesAll.related_handle (h : r.Coherent) (hclear : r.Transparent host) :
    ∀ (patterns : List Pattern) {index : Nat} {outputs : List TypeId} {arguments : List Argument}
      {as bs : List Value} {place : List Nat} {position : Nat},
      r.ElaboratesAll index outputs patterns arguments →
      (∀ e ∈ Argument.placesAll place position arguments,
        e.2.deconstructor.isSynthesized = true) →
      r.TwinsAll host depth outputs as bs →
      Run.Related host (r.MatchedAlike host depth)
        ((Walk.arguments r.types arguments as).handle r.answer)
        ((Walk.arguments r.types arguments bs).handle r.answer)
  | [], _, _, _, _, _, _, _, hjudge, _, htwins => by
    cases hjudge
    rw [Walk.arguments, Walk.arguments]
    exact Run.related_done (.some .nil)
  | p :: rest, _, _, _, _, _, place, position, hjudge, hoperators, htwins => by
    obtain _ | ⟨first, others⟩ := hjudge
    obtain _ | ⟨htwin, htwins⟩ := htwins
    rw [Argument.placesAll, List.forall_mem_append] at hoperators
    have hfirst := ElaboratesArgument.related_handle h hclear p first
      hoperators.1 htwin
    have hothers := ElaboratesAll.related_handle h hclear rest others
      hoperators.2 htwins
    rw [Walk.arguments, Walk.arguments, Dialogue.handle_bind, Dialogue.handle_bind]
    refine Run.related_bind hfirst fun found found' hfound => ?_
    cases hfound with
    | none => exact Run.related_done .none
    | some hfound =>
      simp only
      rw [Dialogue.handle_bind, Dialogue.handle_bind]
      refine Run.related_bind hothers fun left left' hleft => ?_
      cases hleft with
      | none => exact Run.related_done .none
      | some hleft => exact Run.related_done (.some (List.rel_append hfound hleft))

end

end Registry

/-! ## Equal subjects -/

/-- **Equality is a congruence for matching.** In a reachable registry without
written equality, where records are not derived from one another, and with a
host whose getters keep the types of components, take a plan that was resolved
and has nothing but synthesized deconstructors in it. Let two subjects that
conform to its static type compare equal, whatever they store. Evaluating the
plan comes to a result for both of them. Either neither matches, or both do,
with the same variables in the same order, bound to values that compare equal,
at the depth at which the subjects do and at every greater one. -/
theorem Plan.evaluate_congr {r : Registry} {maxDepth depth : Nat} {subject : Subject}
    {target : TypeId} {patterns : List Pattern} {plan : Plan} {a b : Value}
    (hreachable : r.Reachable) (hclear : r.Transparent host)
    (hplan : (Resolver.ofRegistry r maxDepth).resolve subject target patterns = .ok plan)
    (hoperators : ∀ e ∈ plan.places, e.2.deconstructor.isSynthesized = true)
    (ha : r.Conforms plan.node.static a) (hb : r.Conforms plan.node.static b)
    (hequal : (r.equals depth a b).under host = .ok (some true)) :
    ∃ result result', (plan.evaluate r a).under host = .ok result
      ∧ (plan.evaluate r b).under host = .ok result'
      ∧ Option.Rel (List.Forall₂ fun x y => x.1 = y.1 ∧ ∀ more, depth ≤ more →
          (r.equals more x.2 y.2).under host = .ok (some true)) result result' := by
  have h := hreachable.coherent
  have hjudge := Resolver.elaborates_of_resolve hplan
  have htwins : r.Twins host depth subject.type a b := by
    rw [hjudge.static_eq] at ha hb
    exact ⟨ha, hb, hequal⟩
  rw [Plan.places, List.forall_mem_cons] at hoperators
  obtain ⟨result, result', hresult, hresult', hmatched⟩ :=
    hjudge.related_evaluate_of_all h hclear hoperators.1 htwins fun hinside houtputs =>
      Registry.ElaboratesAll.related_handle h hclear patterns hinside hoperators.2 houtputs
  refine ⟨result, result', hresult, hresult', ?_⟩
  cases hmatched with
  | none => exact .none
  | some hbound =>
    refine .some (hbound.imp fun x y hxy => ⟨hxy.1, fun more hmore => ?_⟩)
    exact Registry.Alike.mono hxy.2 hmore

/-- Gauges, whose only component is read off by a getter, and panels with two
gauges. -/
def gauges : Registry := .after .empty
  [ .introduce .record "Gauge" .object,
    .declare ⟨⟨4⟩, .nominal 0, [⟨⟨5⟩, .int, false, .generated⟩],
      [⟨⟨5⟩, .property .int, some ⟨0⟩, .generated⟩], .generated⟩,
    .introduce .record "Panel" .object,
    .declare ⟨⟨6⟩, .nominal 1,
      [⟨⟨7⟩, .nominal 0, false, .generated⟩, ⟨⟨8⟩, .nominal 0, false, .generated⟩], [],
      .generated⟩ ]

/-- Gauges show nothing but zero. -/
def gaugeHost : PureHost
  | .property .. => .ok (.int 0)
  | call => call.refuse

/-- A gauge that stores a number. -/
def gauge (stored : Int64) : Value := .record (.nominal 0) [.int stored]

/-- A panel whose gauges store these numbers. -/
def panel (left right : Int64) : Value := .record (.nominal 1) [gauge left, gauge right]

/-- Panels with different numbers in them are equal, and so is what is bound to
the second of their gauges. -/
theorem evaluate_congr_gauges :
    gauges.Reachable ∧ gauges.Transparent gaugeHost
      ∧ (gauges.equals 2 (panel 1 2) (panel 3 4)).under gaugeHost = .ok (some true)
      ∧ ∃ plan, (Resolver.ofRegistry gauges 64).resolve ⟨⟨0⟩, .object, .generated⟩ (.nominal 1)
          [.record (.nominal 0) [.bind ⟨9⟩ none .generated] .generated, .bind ⟨10⟩ none .generated]
            = .ok plan
        ∧ (plan.evaluate gauges (panel 1 2)).under gaugeHost
            = .ok (some [(⟨9⟩, .int 0), (⟨10⟩, gauge 2)])
        ∧ (plan.evaluate gauges (panel 3 4)).under gaugeHost
            = .ok (some [(⟨9⟩, .int 0), (⟨10⟩, gauge 4)])
        ∧ (gauges.equals 2 (gauge 2) (gauge 4)).under gaugeHost = .ok (some true) := by
  have hreachable : gauges.Reachable := ⟨_, rfl⟩
  have hclear : gauges.Transparent gaugeHost := by
    refine ⟨by decide, by decide, ?_⟩
    intro ty info c body fields w hinfo hc hgetter _ hanswer
    cases hanswer
    have hint : ∀ info ∈ gauges.records, ∀ c ∈ info.members.components,
        info.getter? c.name = none ∨ c.type = .int := by decide
    rcases hint info (Registry.mem_of_info? hinfo).1 c hc with hnone | htype
    · rw [hnone] at hgetter
      cases hgetter
    · rw [htype]
      exact ⟨.int 0, rfl⟩
  have hgauge : ∀ stored, gauges.WellFormed (gauge stored) := by
    intro stored
    exact .record rfl (.cons rfl .nil) (by simp [Registry.WellFormed.int])
  have hpanel : ∀ left right, gauges.Conforms .object (panel left right) := by
    intro left right
    refine ⟨.record rfl (.cons rfl (.cons rfl .nil)) ?_, rfl⟩
    simp [hgauge]
  have hequal : (gauges.equals 2 (panel 1 2) (panel 3 4)).under gaugeHost = .ok (some true) := rfl
  obtain ⟨plan, hplan, hoperators, hmatch, hmatch'⟩ : ∃ plan,
      (Resolver.ofRegistry gauges 64).resolve ⟨⟨0⟩, .object, .generated⟩ (.nominal 1)
          [.record (.nominal 0) [.bind ⟨9⟩ none .generated] .generated, .bind ⟨10⟩ none .generated]
            = .ok plan
        ∧ (∀ e ∈ plan.places, e.2.deconstructor.isSynthesized = true)
        ∧ (plan.evaluate gauges (panel 1 2)).under gaugeHost
            = .ok (some [(⟨9⟩, .int 0), (⟨10⟩, gauge 2)])
        ∧ (plan.evaluate gauges (panel 3 4)).under gaugeHost
            = .ok (some [(⟨9⟩, .int 0), (⟨10⟩, gauge 4)]) :=
    ⟨_, rfl, by decide, rfl, rfl⟩
  have hstatic : plan.node.static = .object := (Resolver.elaborates_of_resolve hplan).static_eq
  obtain ⟨result, result', hresult, hresult', hmatched⟩ :=
    Plan.evaluate_congr hreachable hclear hplan hoperators (hstatic ▸ hpanel 1 2)
      (hstatic ▸ hpanel 3 4) hequal
  refine ⟨hreachable, hclear, hequal, plan, hplan, hmatch, hmatch', ?_⟩
  cases hmatch.symm.trans hresult
  cases hmatch'.symm.trans hresult'
  cases hmatched with
  | some hbound =>
    have hgauges := (List.forall₂_cons.mp (List.forall₂_cons.mp hbound).2).1
    exact hgauges.2 2 (Nat.le_refl 2)

end RecordPatterns
