/-
When matching can go wrong without user code.

A synthesized deconstructor is supposed to succeed on whatever it is given. It
reads the components of the record that it was synthesized for, and it reads
them by name, in the table of the record that it finds. As long as the two are
the same record that cannot fail. But a subject only has to be of a type below
the one that the pattern names, and a record may be derived from another
record while having components of its own choosing. Then a component that the
base has may be missing, which is a fault, or may be there with another type,
and then a variable holds a value that does not conform to its static type.

Here it is settled when exactly this happens, for registries in which nothing
but components was declared (`Bare`). Matching is safe, for all patterns and
all subjects at once, if and only if derived records keep the components of
their bases: each under its name, and with no values that the base would not
allow (`matchesSafely_iff`). One direction is the walk's invariant once more.
For the other, one pattern for each record is enough, the one that binds all
its components (`Declaration.unfolding`).
-/
import RecordPatterns.Proofs.Narrowing

set_option autoImplicit false

namespace RecordPatterns

namespace Registry

variable {r : Registry}

/-! ## Registries with nothing but components -/

/-- No record has written members, and no deconstructor was added from
outside. -/
structure Bare (r : Registry) : Prop where
  members : ∀ info ∈ r.records, info.declaration.members = []
  added : r.added = []

/-- Where there are no members, there are no deconstructors among them. -/
theorem Bare.unwritten (h : r.Bare) : r.Unwritten where
  members info hinfo m hm := by
    rw [h.members info hinfo] at hm
    cases hm
  added := h.added

/-- **What reading comes to in a bare registry.** A member can be read exactly
if the record has a component of that name, and gives the stored value. -/
theorem Coherent.read_eq_done_iff (h : r.Coherent) (hbare : r.Bare) {ty : TypeId}
    {info : RecordInfo} {fields : List Value} {name : Symbol} {w : Value}
    (hinfo : r.info? ty = some info) :
    r.read (.record ty fields) name = .done w ↔ ∃ (i : Nat) (c : Component),
      info.members.components[i]? = some c ∧ c.name = name ∧ fields[i]? = some w := by
  obtain ⟨-, -, hproper, hderived⟩ := h.info?_spec hinfo
  have hmembers : info.members = .of info.declaration := by
    rw [hderived]
    rfl
  have hfree : info.declaration.members.find? (·.name = name) = none := by
    rw [hbare.members info (mem_of_info? hinfo).1]
    rfl
  constructor
  · intro hread
    rw [read] at hread
    simp only [hinfo] at hread
    cases hget : info.members.get? name with
    | none => simp [hget] at hread
    | some e =>
      rw [hmembers] at hget
      obtain ⟨i, c, hc, hname, rfl⟩ := MemberTable.component_of_get? hfree hget
      rw [← hmembers] at hget
      refine ⟨i, c, (h.components_eq hinfo).symm ▸ hc, hname, ?_⟩
      simp only [hget, stored] at hread
      cases hw : fields[i]? with
      | none => simp [hw] at hread
      | some v =>
        rw [hw] at hread
        exact congrArg some (Dialogue.done.inj hread)
  · rintro ⟨i, c, hc, rfl, hw⟩
    have hgetter : info.getter? c.name = none := by
      rw [h.components_eq hinfo] at hc
      rw [RecordInfo.getter?, hmembers, MemberTable.get?_of_component hproper hc hfree]
    rw [h.read_component hinfo hc hw, hgetter]

/-! ## The two sides -/

/-- Nothing can go wrong: whatever plan was resolved, and whatever subject was
built that fits its static type, evaluating the plan is done without a
question and without a fault, and if it binds variables, then to values that
fit their types. -/
def MatchesSafely (r : Registry) : Prop :=
  ∀ (maxDepth : Nat) (subject : Subject) (target : TypeId) (patterns : List Pattern) (plan : Plan)
    (v : Value), (Resolver.ofRegistry r maxDepth).resolve subject target patterns = .ok plan →
    r.Built v → r.types.admits plan.node.static v = true →
      ∃ result, plan.evaluate r v = .done result ∧ ∀ b, result = some b →
        List.Forall₂ (fun declared bound => bound.1 = declared.1
          ∧ r.types.admits declared.2 bound.2 = true) plan.bindings b

/-- Every component of a record is one of each record derived from it, under
the same name, and has no values there that it could not have in the base. Only
records that can be built at all are asked. -/
def Inherits (r : Registry) : Prop :=
  ∀ (sub super : TypeId) (own base : RecordInfo), r.info? sub = some own →
    r.info? super = some base → r.types.isSubtype sub super = true →
    (∃ fields, r.Built (.record sub fields)) →
      ∀ c ∈ base.members.components, ∃ c' ∈ own.members.components, c'.name = c.name
        ∧ ∀ w, r.Built w → r.types.admits c'.type w = true → r.types.admits c.type w = true

/-! ## Enough -/

/-- **One visit.** Where derived records keep the components of their bases, a
visit that makes sense delivers conforming outputs there and then. -/
theorem Coherent.along_deconstruct_of_inherits (h : r.Coherent) (hbare : r.Bare)
    (hinherits : r.Inherits) {visit : Visit} (hvisit : r.Visitable visit) :
    (r.answer visit).Along (fun _ _ => True) (fun _ => False) (r.Delivers visit)
      (fun _ => False) := by
  obtain ⟨hknown, hwell, actual, hactual, hbelow⟩ := hvisit
  obtain ⟨base, hbase, hpositional⟩ := h.eq_positional_of_mem hbare.unwritten hknown
  rw [hpositional, Deconstructor.positional, (h.info?_spec hbase).2.1] at hbelow
  obtain ⟨fields, hrecord, hdeclared⟩ := h.record_of_isSubtype hbase hwell hactual hbelow
  obtain ⟨own, hown⟩ := Option.isSome_iff_exists.mp hdeclared
  rw [hrecord] at hwell
  rw [answer, hrecord]
  have hread : ∀ c ∈ base.declaration.components,
      (r.read (.record actual fields) c.name).Along (fun _ _ => True) (fun _ => False)
        (r.Conforms c.type) (fun _ => False) := by
    intro c hc
    -- the derived record has the component, at a position of its own
    rw [← h.components_eq hbase] at hc
    obtain ⟨c', hc', hname, hallows⟩ := hinherits actual visit.node.target own base hown hbase
      hbelow ⟨fields, built_iff_wellFormed.mpr hwell⟩ c hc
    obtain ⟨i, w, hi, hw, hfield⟩ := hwell.exists_field hown hc'
    rw [(h.read_eq_done_iff hbare hown).mpr ⟨i, c', hi, hname, hw⟩]
    exact ⟨hfield.1, hallows w (built_iff_wellFormed.mpr hfield.1) hfield.2⟩
  rw [hpositional, deconstruct_positional, Dialogue.along_bind]
  refine (Dialogue.along_mapM _ hread).mono (fun outputs houtputs _ => ?_) fun _ he => he
  rw [hpositional, Deconstructor.positional, List.forall₂_map_left_iff]
  exact houtputs

/-- Where derived records keep the components of their bases, nothing can go
wrong. -/
theorem Coherent.matchesSafely_of_inherits (h : r.Coherent) (hbare : r.Bare)
    (hinherits : r.Inherits) : r.MatchesSafely := by
  intro maxDepth subject target patterns plan v hplan hbuilt hfits
  have hjudge := Resolver.elaborates_of_resolve hplan
  rw [hjudge.static_eq] at hfits
  have hv : r.Conforms subject.type v := ⟨built_iff_wellFormed.mp hbuilt, hfits⟩
  have halong : (plan.evaluate r v).Along (fun _ _ => True) (fun _ => False)
      (r.Matches plan.bindings) (fun _ => False) :=
    (hjudge.keeps_walk h hv).handle
      (fun visit hvisit => h.along_deconstruct_of_inherits hbare hinherits hvisit) fun _ he => he
  obtain ⟨result, hresult, hmatches⟩ := halong.eq_done
  refine ⟨result, hresult, fun b hb => ?_⟩
  exact (hmatches b hb).imp fun declared bound hbound => ⟨hbound.1, hbound.2.2⟩

end Registry

/-! ## Needed -/

namespace Declaration

/-- The arguments of a pattern that binds every component to a variable of its
own name. -/
def unfolding (d : Declaration) : List Pattern :=
  d.components.map fun c => .bind c.name none .generated

/-- The plan for it, for subjects of the declared type. -/
def unfoldingPlan (d : Declaration) : Plan where
  node := ⟨.expression ⟨0⟩, d.type, d.type, .positional d, .nonNull, .generated⟩
  arguments := d.components.map fun c => .bind c.name c.type

/-- Variables are not nested, and there is one for each component. -/
theorem nesting_and_binders_unfolding (components : List Component) :
    Pattern.nestingAll (components.map fun c => .bind c.name none .generated) = 0
      ∧ (Pattern.bindersAll (components.map fun c => .bind c.name none .generated)).map Prod.fst
          = components.map Component.name := by
  induction components with
  | nil => exact ⟨rfl, rfl⟩
  | cons c rest ih =>
    rw [List.map_cons, Pattern.nestingAll, Pattern.bindersAll, ih.1, List.map_append, ih.2]
    exact ⟨rfl, rfl⟩

/-- The plan binds one variable for each component, of the component's type. -/
theorem bindings_unfoldingPlan (d : Declaration) :
    d.unfoldingPlan.bindings = d.components.map fun c => (c.name, c.type) := by
  rw [Plan.bindings, unfoldingPlan]
  induction d.components with
  | nil => rfl
  | cons c rest ih =>
    simp only [List.map_cons, Argument.bindingsAll] at ih ⊢
    rw [ih]
    rfl

/-- Each variable receives its component's type. -/
theorem elaboratesAll_unfolding (r : Registry) (components : List Component) : ∀ index : Nat,
    r.ElaboratesAll index (components.map Component.type)
      (components.map fun c => .bind c.name none .generated)
      (components.map fun c => .bind c.name c.type) := by
  induction components with
  | nil => exact fun index => .nil index
  | cons c rest ih => exact fun index => .cons (.bind index c.type c.name none _) (ih (index + 1))

/-- Every output is bound under the name of its component. -/
theorem walk_unfolding (types : TypeTable) (components : List Component) : ∀ outputs : List Value,
    components.length = outputs.length →
      Walk.arguments types (components.map fun c => .bind c.name c.type) outputs
        = .done (some (List.zipWith (fun c w => (c.name, w)) components outputs)) := by
  induction components with
  | nil =>
    intro outputs hlen
    rw [List.map_nil, Walk.arguments, List.zipWith_nil_left]
  | cons c rest ih =>
    intro outputs hlen
    cases outputs with
    | nil => cases hlen
    | cons w outputs =>
      rw [List.map_cons, Walk.arguments, Walk.argument, Dialogue.done_bind]
      simp only
      rw [ih outputs (Nat.succ.inj hlen)]
      rfl

end Declaration

namespace Registry

variable {r : Registry}

/-- The unfolding of a declared record resolves, and to its plan. -/
theorem Coherent.resolve_unfolding (h : r.Coherent) (hunwritten : r.Unwritten) {ty : TypeId}
    {info : RecordInfo} (hinfo : r.info? ty = some info) :
    (Resolver.ofRegistry r 1).resolve ⟨⟨0⟩, ty, .generated⟩ ty info.declaration.unfolding
      = .ok info.declaration.unfoldingPlan := by
  obtain ⟨hrecord, hty, hproper, -⟩ := h.info?_spec hinfo
  obtain ⟨hnesting, hbinders⟩ :=
    Declaration.nesting_and_binders_unfolding info.declaration.components
  have hnull := TypeTable.isNullable_of_isRecord hrecord
  rw [Resolver.resolve_eq_ok_iff (Resolver.uses_ofRegistry r 1)]
  refine ⟨?_, ?_, ?_⟩
  · rw [Declaration.unfolding, hnesting]
    exact Nat.le_refl 1
  · rw [Declaration.unfoldingPlan, hty]
    refine .node ⟨[], [], h.deconstructors_eq hunwritten hinfo, ?_, by simp⟩ (.nonNull ?_ hnull)
      (Declaration.elaboratesAll_unfolding r info.declaration.components 0)
    · rw [Suits, Declaration.unfolding, Deconstructor.positional, List.forall₂_map_left_iff,
        List.forall₂_map_right_iff, List.forall₂_same]
      exact fun c _ => trivial
    · rw [Deconstructor.positional, hty, TypeTable.isSubtype_self]
      exact TypeTable.isAllocated_of_isNullable hnull
  · rw [Declaration.unfolding, hbinders]
    exact hproper.1

/-- **Unfolding reads every component.** Where it is done at once for some
record, each component of the declaration can be read there, and what was read
is bound. -/
theorem evaluate_unfoldingPlan_eq_done {d : Declaration} {ty : TypeId} {fields : List Value}
    {result : Option Bindings}
    (hdone : d.unfoldingPlan.evaluate r (.record ty fields) = .done result) :
    ∃ outputs, List.Forall₂ (fun c w => r.read (.record ty fields) c.name = .done w)
        d.components outputs
      ∧ result = some (List.zipWith (fun c w => (c.name, w)) d.components outputs) := by
  have hpasses : d.unfoldingPlan.node.test.passes r.types (.record ty fields) = true := rfl
  have hdeconstructor : d.unfoldingPlan.node.deconstructor = .positional d := rfl
  rw [Plan.evaluate, Plan.walk, Walk.visit, if_pos hpasses, Dialogue.handle, answer, hdeconstructor,
    deconstruct_positional] at hdone
  obtain ⟨deconstruction, hdeconstruct, hwalk⟩ := Dialogue.bind_eq_done_iff.mp hdone
  obtain ⟨outputs, houtputs, hpure⟩ := Dialogue.bind_eq_done_iff.mp hdeconstruct
  rw [Dialogue.mapM_eq_done_iff] at houtputs
  cases hpure
  rw [if_pos rfl, Declaration.unfoldingPlan,
    Declaration.walk_unfolding _ _ _ houtputs.length_eq] at hwalk
  exact ⟨outputs, houtputs, (Dialogue.done.inj hwalk).symm⟩

/-- A record that was built can be built with another value for a component,
if that value was built as well and fits. -/
theorem Built.set {ty : TypeId} {info : RecordInfo} {fields : List Value} {i : Nat}
    {c : Component} {w : Value} (h : r.Built (.record ty fields)) (hinfo : r.info? ty = some info)
    (hc : info.members.components[i]? = some c) (hw : r.Built w)
    (hfits : r.types.admits c.type w = true) : r.Built (.record ty (fields.set i w)) := by
  rw [built_iff_wellFormed] at h hw ⊢
  cases h with
  | record declared fit inside =>
    rw [hinfo, Option.some.injEq] at declared
    subst declared
    refine .record hinfo ?_ fun v hv => ?_
    · rw [FieldsFit, List.forall₂_iff_get]
      refine ⟨by rw [List.length_set, fit.length_eq], fun j hj hj' => ?_⟩
      rw [List.length_set] at hj'
      simp only [List.get_eq_getElem, List.getElem_set]
      -- the new value fits, and all others are where they were
      by_cases hij : i = j
      · subst hij
        rw [List.getElem?_eq_getElem hj, Option.some.injEq] at hc
        rw [if_pos rfl, hc]
        exact hfits
      · rw [if_neg hij]
        exact fit.get hj hj'
    · rcases List.mem_or_eq_of_mem_set hv with hv | rfl
      · exact inside v hv
      · exact hw

/-- If nothing can go wrong, derived records keep the components of their
bases. -/
theorem Coherent.inherits_of_matchesSafely (h : r.Coherent) (hbare : r.Bare)
    (hsafe : r.MatchesSafely) : r.Inherits := by
  intro sub super own base hown hbase hsub hbuilt
  -- what unfolding the base comes to, for any record of the derived type
  have hunfold : ∀ fields, r.Built (.record sub fields) → ∀ c ∈ base.declaration.components,
      ∃ w, r.read (.record sub fields) c.name = .done w ∧ r.types.admits c.type w = true := by
    intro fields hfields c hc
    have hstatic : r.types.admits base.declaration.unfoldingPlan.node.static
        (.record sub fields) = true := by
      rw [Declaration.unfoldingPlan, (h.info?_spec hbase).2.1]
      exact hsub
    obtain ⟨result, hdone, hbinds⟩ := hsafe _ _ _ _ _ _
      (h.resolve_unfolding hbare.unwritten hbase) hfields hstatic
    obtain ⟨outputs, houtputs, rfl⟩ := evaluate_unfoldingPlan_eq_done hdone
    have hbound := hbinds _ rfl
    rw [Declaration.bindings_unfoldingPlan] at hbound
    -- what is bound to the component's variable is what was read for it
    obtain ⟨i, hi, rfl⟩ := List.mem_iff_getElem.mp hc
    have hlt : i < outputs.length := by
      rw [← houtputs.length_eq]
      exact hi
    refine ⟨outputs[i], houtputs.get hi hlt, ?_⟩
    have hadmits := hbound.get (i := i) (by simpa using hi)
      (by rw [List.length_zipWith]; omega)
    simpa using hadmits.2
  obtain ⟨fields, hfields⟩ := hbuilt
  intro c hc
  rw [h.components_eq hbase] at hc
  -- that it can be read at all is what gives the component
  obtain ⟨w₀, hread, -⟩ := hunfold fields hfields c hc
  obtain ⟨i, c', hc', hname, hw₀⟩ := (h.read_eq_done_iff hbare hown).mp hread
  refine ⟨c', List.mem_of_getElem? hc', hname, fun w hw hfits => ?_⟩
  -- the same record with this very value in the component's place
  obtain ⟨w', hread', hadmits⟩ := hunfold _ (hfields.set hown hc' hw hfits) c hc
  have hset : (fields.set i w)[i]? = some w :=
    List.getElem?_set_self (List.getElem?_eq_some_iff.mp hw₀).1
  rw [(h.read_eq_done_iff hbare hown).mpr ⟨i, c', hc', hname, hset⟩] at hread'
  rw [Dialogue.done.inj hread']
  exact hadmits

end Registry

/-! ## Exactly when -/

/-- **When matching is safe without user code.** In a registry that came about
by edits, with nothing but components declared, no match can go wrong if and
only if derived records keep the components of their bases. -/
theorem Registry.matchesSafely_iff {r : Registry} (hreachable : r.Reachable) (hbare : r.Bare) :
    r.MatchesSafely ↔ r.Inherits :=
  ⟨hreachable.coherent.inherits_of_matchesSafely hbare,
    hreachable.coherent.matchesSafely_of_inherits hbare⟩

/-- Where no record is derived from another one, every record keeps its own
components, and that is all there is to keep. -/
theorem Registry.inherits_of_flat {r : Registry} (hflat : r.Flat) : r.Inherits := by
  intro sub super own base hown hbase hsub _ c hc
  have heq : sub = super := hflat sub super (by rw [hown, Option.isSome_some])
    (by rw [hbase, Option.isSome_some]) hsub
  rw [heq, hbase, Option.some.injEq] at hown
  rw [← hown]
  exact ⟨c, hc, rfl, fun w _ hw => hw⟩

/-- A record, and one that is derived from it and calls its only component
something else. -/
def renamed : Registry := .after .empty
  [ .introduce .record "Base" .object,
    .introduce .record "Derived" (.nominal 0),
    .declare ⟨⟨4⟩, .nominal 0, [⟨⟨6⟩, .int, false, .generated⟩], [], .generated⟩,
    .declare ⟨⟨5⟩, .nominal 1, [⟨⟨7⟩, .int, false, .generated⟩], [], .generated⟩ ]

/-- A record of the derived type. -/
theorem built_renamed : renamed.Built (.record (.nominal 1) [.int 1]) := by
  have hinside : ∀ w ∈ [Value.int 1], renamed.Built w := by simp [Registry.Built.int]
  have hconstruct : renamed.construct (.nominal 1) [.int 1] = .ok (.record (.nominal 1) [.int 1]) :=
    rfl
  exact .construct hinside hconstruct

/-- A match can go wrong there. -/
theorem not_matchesSafely_renamed : ¬ renamed.MatchesSafely := by
  have hreachable : renamed.Reachable := ⟨_, rfl⟩
  have hbare : renamed.Bare := ⟨by decide, rfl⟩
  rw [Registry.matchesSafely_iff hreachable hbare]
  intro hinherits
  obtain ⟨c', hc', hname, -⟩ := hinherits (.nominal 1) (.nominal 0) _ _ rfl rfl (by decide)
    ⟨_, built_renamed⟩ _ (.head _)
  rw [List.mem_singleton.mp hc'] at hname
  cases hname

/-- And one that does: the pattern looks at nothing, its only argument being a
discard, but the deconstructor reads the component all the same. -/
theorem evaluate_renamed_eq_fail :
    ∃ plan, (Resolver.ofRegistry renamed 64).resolve ⟨⟨0⟩, .nominal 0, .generated⟩ (.nominal 0)
        [.discard .generated] = .ok plan
      ∧ renamed.Built (.record (.nominal 1) [.int 1])
      ∧ renamed.types.admits plan.node.static (.record (.nominal 1) [.int 1]) = true
      ∧ plan.evaluate renamed (.record (.nominal 1) [.int 1])
          = .fail (renamed.unknownMember (.nominal 1) ⟨6⟩) :=
  ⟨_, rfl, built_renamed, rfl, rfl⟩

end RecordPatterns
