/-
Getters in place of components.

The synthesized deconstructor of a record announces one output for each
component, of the component's type. It reads them through the member table,
where a written property of the same name has taken the component's place, and
the type that this property was declared with is compared with nothing. So a
getter that returns what its own property promises may still put a value
behind an output that the output's type does not admit, and a typed variable
that was resolved against that type receives it.

What can come out is described exactly (`yields_iff`): any list of values of
which each is owed for its component, that is, keeps the promises of the
getter that stands for it, or fits the component if no getter does. From this
follows when outputs are typed as announced (`deconstructsTyped_iff`): when
each getter in a component's place promises nothing that the component does
not admit. Properties that are declared with the component's type or one below
it do (`deconstructsTyped_of_isSubtype`), and where no getter stands for any
component there is nothing to ask for.

All of this is about courses, and so about hosts with any state: whatever an
honest host answers is one of the answers that `Honest` allows.
-/
import RecordPatterns.Matching
import RecordPatterns.Proofs.Comparison
import RecordPatterns.Proofs.Conformance
import RecordPatterns.Proofs.Course
import RecordPatterns.Resolution.Basic

set_option autoImplicit false

namespace RecordPatterns.Registry

variable {r : Registry} {ty : TypeId} {info : RecordInfo} {d : Deconstructor} {c : Component}
  {outputs : List Value}

/-! ## What getters promise -/

/-- A value that keeps the promise of a getter. It fits the type of every
property of the record that the getter is the body of; one body can serve
several, and does not know for which it is run. -/
def KeepsPromise (r : Registry) (info : RecordInfo) (body : BodyHandle) (w : Value) : Prop :=
  ∀ m ∈ info.declaration.members, ∀ type, m.kind = .property type → m.body = some body →
    r.types.admits type w = true

/-- An answer that an honest host gives. What a getter returns keeps the
promise of the properties it is the body of; nothing is asked of faults and of
the answers to other calls. -/
def Honest (r : Registry) : (call : HostCall) → call.Answer → Prop
  | .property body receiver => fun answer => ∀ w, answer = .ok w → ∀ ty info,
    receiver.type? = some ty → r.info? ty = some info → r.KeepsPromise info body w
  | _ => fun _ => True

/-- Outputs with which a deconstructor accepts some record of exactly this
type, the host being honest. -/
def Yields (r : Registry) (d : Deconstructor) (ty : TypeId) (outputs : List Value) : Prop :=
  ∃ values v log, r.construct ty values = .ok v
    ∧ (r.deconstruct d v).Course log (.ok ⟨true, outputs⟩)
    ∧ ∀ e ∈ log, r.Honest e.question e.answer

/-- As long as the host is honest, the outputs of a deconstructor are as many
as it announces, and each fits the type that is announced for it. -/
def DeconstructsTyped (r : Registry) (d : Deconstructor) (ty : TypeId) : Prop :=
  ∀ outputs, r.Yields d ty outputs →
    outputs.length = d.arity
      ∧ List.Forall₂ (fun type w => r.types.admits type w = true) d.outputs outputs

/-! ## What can come out -/

/-- A value that may come out for a component: what its getter promises, or,
if there is none, what the constructor admits. -/
def Owed (r : Registry) (info : RecordInfo) (c : Component) (w : Value) : Prop :=
  match info.getter? c.name with
  | some body => r.KeepsPromise info body w
  | none => r.types.admits c.type w = true

/-- Some record of the type can be built: no component is of a type that
admits nothing. -/
def Buildable (r : Registry) (info : RecordInfo) : Prop :=
  ∀ c ∈ info.members.components, ∃ w, r.types.admits c.type w = true

/-- Reading a component of a record whose fields fit, an honest host comes up
with a value that is owed. -/
theorem Coherent.along_read_owed (h : r.Coherent) (hinfo : r.info? ty = some info)
    {fields : List Value} (hfit : r.FieldsFit info.members.components fields)
    (hc : c ∈ info.members.components) :
    (r.read (.record ty fields) c.name).Along r.Honest (fun _ => True) (r.Owed info c)
      (fun _ => True) := by
  obtain ⟨i, hi, rfl⟩ := List.mem_iff_getElem.mp hc
  have hlt : i < fields.length := by
    rw [← hfit.length_eq]
    exact hi
  rw [h.read_component hinfo (List.getElem?_eq_getElem hi) (List.getElem?_eq_getElem hlt)]
  cases hgetter : info.getter? info.members.components[i].name with
  | none =>
    show r.Owed info _ _
    rw [Owed, hgetter]
    exact hfit.get hi hlt
  | some body =>
    refine ⟨trivial, fun answer hhonest => ?_⟩
    rw [Dialogue.along_ofExcept]
    refine ⟨fun w hw => ?_, fun _ _ => trivial⟩
    rw [Owed, hgetter]
    exact hhonest w hw ty info rfl hinfo

/-- Any value that is owed for a component can be read there, by an honest
host, from a record that holds this very value in case no getter stands for
the component. -/
theorem Coherent.exists_course_read (h : r.Coherent) (hinfo : r.info? ty = some info)
    {fields : List Value} {i : Nat} {field w : Value}
    (hc : info.members.components[i]? = some c) (hfield : fields[i]? = some field)
    (howed : r.Owed info c w) (hstored : info.getter? c.name = none → field = w) :
    ∃ log, (r.read (.record ty fields) c.name).Course log (.ok w)
      ∧ ∀ e ∈ log, r.Honest e.question e.answer := by
  rw [h.read_component hinfo hc hfield]
  cases hgetter : info.getter? c.name with
  | none =>
    rw [hstored hgetter]
    exact ⟨[], .done w, by simp⟩
  | some body =>
    rw [Owed, hgetter] at howed
    simp only [Run.property, Dialogue.course_ask_iff]
    refine ⟨_, ⟨.ok w, [], .done w, rfl⟩, ?_⟩
    rw [List.forall_mem_singleton]
    -- the receiver is of the type whose promises the value keeps, and of no other
    rintro _ ⟨⟩ _ own ⟨⟩ hown
    rw [hinfo, Option.some.injEq] at hown
    rw [← hown]
    exact howed

/-- Fields to get given values out of: those values themselves, except where a
getter covers the field up, and anything that fits there. -/
theorem exists_fields {components : List Component}
    (hbuildable : ∀ c ∈ components, ∃ w, r.types.admits c.type w = true)
    (howed : List.Forall₂ (r.Owed info) components outputs) :
    ∃ fields, r.FieldsFit components fields ∧ ∀ (i : Nat) (c : Component) (field w : Value),
      components[i]? = some c → fields[i]? = some field → outputs[i]? = some w →
        info.getter? c.name = none → field = w := by
  induction howed with
  | nil => exact ⟨[], .nil, by simp⟩
  | @cons c w components outputs hw _ ih =>
    obtain ⟨hfirst, hothers⟩ := List.forall_mem_cons.mp hbuildable
    obtain ⟨fields, hfit, hfields⟩ := ih hothers
    -- the first field, which the others have nothing to do with
    have hfield : ∃ field, r.types.admits c.type field = true
        ∧ (info.getter? c.name = none → field = w) := by
      cases hgetter : info.getter? c.name with
      | none =>
        rw [Owed, hgetter] at hw
        exact ⟨w, hw, fun _ => rfl⟩
      | some body =>
        obtain ⟨field, hadmits⟩ := hfirst
        exact ⟨field, hadmits, nofun⟩
    obtain ⟨field, hadmits, hstored⟩ := hfield
    refine ⟨field :: fields, .cons hadmits hfit, fun i => ?_⟩
    cases i with
    | zero =>
      rintro _ _ _ ⟨⟩ ⟨⟩ ⟨⟩
      exact hstored
    | succ i => exact hfields i

/-- **What can come out** of a record that can be built at all: one value for
each component, each of them owed, and every such list. -/
theorem Coherent.yields_iff (h : r.Coherent) (hinfo : r.info? ty = some info) :
    r.Yields (.positional info.declaration) ty outputs
      ↔ r.Buildable info ∧ List.Forall₂ (r.Owed info) info.members.components outputs := by
  simp only [Yields, deconstruct_positional, construct_eq_ok_iff, hinfo, Option.some.injEq,
    exists_eq_left', ← h.components_eq hinfo]
  constructor
  · rintro ⟨fields, _, log, ⟨hfit, rfl⟩, hcourse, hhonest⟩
    refine ⟨fun c hc => ?_, ?_⟩
    · obtain ⟨i, hi, rfl⟩ := List.mem_iff_getElem.mp hc
      exact ⟨_, hfit.get hi (hfit.length_eq ▸ hi)⟩
    · have halong : (info.members.components.mapM fun c => r.read (.record ty fields) c.name).Along
          r.Honest (fun _ => True) (List.Forall₂ (r.Owed info) info.members.components)
          (fun _ => True) :=
        Dialogue.along_mapM _ fun c hc => h.along_read_owed hinfo hfit hc
      -- the flag is true whatever was read
      obtain ⟨values, first, _, hvalues, ⟨⟩, rfl⟩ | ⟨_, _, ⟨⟩⟩ :=
        Dialogue.course_bind_iff.mp hcourse
      rw [List.append_nil] at hhonest
      exact (halong.course hvalues hhonest).2.1 _ rfl
  · rintro ⟨hbuildable, howed⟩
    obtain ⟨fields, hfit, hfields⟩ := exists_fields hbuildable howed
    have hreads : List.Forall₂ (fun c w => ∃ log,
        (r.read (.record ty fields) c.name).Course log (.ok w)
          ∧ ∀ e ∈ log, r.Honest e.question e.answer) info.members.components outputs := by
      refine List.forall₂_iff_get.mpr ⟨howed.length_eq, fun i hi hi' => ?_⟩
      have hc := List.getElem?_eq_getElem hi
      have hfield := List.getElem?_eq_getElem (hfit.length_eq ▸ hi)
      have hw := List.getElem?_eq_getElem hi'
      exact h.exists_course_read hinfo hc hfield (howed.get hi hi') (hfields i _ _ _ hc hfield hw)
    obtain ⟨log, hcourse, hhonest⟩ := Dialogue.exists_course_mapM hreads
    refine ⟨fields, _, log, ⟨hfit, rfl⟩, ?_, hhonest⟩
    exact Dialogue.course_bind_iff.mpr
      (.inl ⟨outputs, log, [], hcourse, .done _, (List.append_nil log).symm⟩)

/-! ## When outputs are typed -/

/-- An honest host can come to an end with some record of the type: one can be
built, and whatever stands for a component has something to return. -/
structure Readable (r : Registry) (info : RecordInfo) : Prop where
  buildable : r.Buildable info
  owed : ∀ c ∈ info.members.components, ∃ w, r.Owed info c w

/-- Each getter in a component's place promises nothing that the component's
type does not admit. -/
def GettersFit (r : Registry) (info : RecordInfo) : Prop :=
  ∀ c ∈ info.members.components, ∀ body, info.getter? c.name = some body →
    ∀ w, r.KeepsPromise info body w → r.types.admits c.type w = true

/-- If getters fit, what is owed for a component fits it, whether or not a
getter stands for it. -/
theorem GettersFit.admits_of_owed (h : r.GettersFit info) (hc : c ∈ info.members.components)
    {w : Value} (howed : r.Owed info c w) : r.types.admits c.type w = true := by
  rw [Owed] at howed
  cases hgetter : info.getter? c.name with
  | none =>
    rw [hgetter] at howed
    exact howed
  | some body =>
    rw [hgetter] at howed
    exact h c hc body hgetter w howed

/-- If getters fit, outputs are typed. -/
theorem Coherent.deconstructsTyped_of_gettersFit (h : r.Coherent) (hinfo : r.info? ty = some info)
    (hfit : r.GettersFit info) : r.DeconstructsTyped (.positional info.declaration) ty := by
  intro outputs hyields
  obtain ⟨-, howed⟩ := (h.yields_iff hinfo).mp hyields
  have hadmitted : List.Forall₂ (fun c w => r.types.admits c.type w = true)
      info.members.components outputs :=
    ((List.forall₂_and_left _ _).mpr ⟨fun c hc => hc, howed⟩).imp
      fun c w hw => hfit.admits_of_owed hw.1 hw.2
  rw [h.components_eq hinfo] at hadmitted
  rw [Deconstructor.arity, Deconstructor.positional, List.length_map]
  exact ⟨hadmitted.length_eq.symm, List.forall₂_map_left_iff.mpr hadmitted⟩

/-- If outputs are typed and there are any, getters fit: a value that one of
them promises is put out with values of any kind for the other components. -/
theorem Coherent.gettersFit_of_deconstructsTyped (h : r.Coherent) (hinfo : r.info? ty = some info)
    (htyped : r.DeconstructsTyped (.positional info.declaration) ty) (hreadable : r.Readable info) :
    r.GettersFit info := by
  intro c hc body hgetter w hkeeps
  have hw : r.Owed info c w := by
    rw [Owed, hgetter]
    exact hkeeps
  have hchoice : ∀ c', ∃ w', (c' ∈ info.members.components → r.Owed info c' w')
      ∧ (c' = c → w' = w) := by
    intro c'
    by_cases heq : c' = c
    · exact ⟨w, fun _ => heq ▸ hw, fun _ => rfl⟩
    · by_cases hc' : c' ∈ info.members.components
      · obtain ⟨w', howed⟩ := hreadable.owed c' hc'
        exact ⟨w', fun _ => howed, fun h => absurd h heq⟩
      · exact ⟨w, fun h => absurd h hc', fun _ => rfl⟩
  choose put howed hput using hchoice
  have hyields : r.Yields (.positional info.declaration) ty
      (info.members.components.map put) := by
    rw [h.yields_iff hinfo, List.forall₂_map_right_iff, List.forall₂_same]
    exact ⟨hreadable.buildable, howed⟩
  have hadmitted := (htyped _ hyields).2
  rw [Deconstructor.positional, ← h.components_eq hinfo, List.forall₂_map_left_iff,
    List.forall₂_map_right_iff, List.forall₂_same] at hadmitted
  rw [← hput c rfl]
  exact hadmitted c hc

/-- **When a synthesized deconstructor is typed.** In a registry that came
about by edits, all outputs that honest getters can bring about are as many and
of the types that the deconstructor announces, if and only if each getter in a
component's place promises nothing that the component's type does not admit,
or there are no such outputs at all. -/
theorem deconstructsTyped_iff (hreachable : r.Reachable) (hinfo : r.info? ty = some info)
    (hd : d ∈ r.deconstructors ty) (hsynthesized : d.isSynthesized = true) :
    r.DeconstructsTyped d ty ↔ (r.Readable info → r.GettersFit info) := by
  have h := hreachable.coherent
  obtain ⟨own, hown, rfl⟩ := h.eq_positional_of_isSynthesized hd hsynthesized
  rw [hinfo, Option.some.injEq] at hown
  subst hown
  refine ⟨h.gettersFit_of_deconstructsTyped hinfo, fun hfit outputs hyields => ?_⟩
  -- that there are outputs is what makes the record readable
  obtain ⟨hbuildable, howed⟩ := (h.yields_iff hinfo).mp hyields
  refine h.deconstructsTyped_of_gettersFit hinfo (hfit ⟨hbuildable, fun c hc => ?_⟩) outputs hyields
  obtain ⟨i, hi, rfl⟩ := List.mem_iff_getElem.mp hc
  exact ⟨_, howed.get hi (howed.length_eq ▸ hi)⟩

/-! ## Properties that may stand in for a component -/

/-- The getter that stands under a name is the body of a written property of
that name. -/
theorem Coherent.exists_property_of_getter? (h : r.Coherent) (hinfo : r.info? ty = some info)
    {name : Symbol} {body : BodyHandle} (hgetter : info.getter? name = some body) :
    ∃ m ∈ info.declaration.members, ∃ type, m.name = name ∧ m.kind = .property type
      ∧ m.body = some body := by
  have hmembers : info.members = .of info.declaration := by
    rw [(h.info?_spec hinfo).2.2.2]
    rfl
  rw [RecordInfo.getter?, hmembers, MemberTable.get?_of] at hgetter
  cases hm : info.declaration.members.find? (·.name = name) with
  | none =>
    rw [hm] at hgetter
    cases hc : info.declaration.components.zipIdx.find? (·.1.name = name) <;>
      simp [hc] at hgetter
  | some m =>
    have hname : m.name = name := by simpa using List.find?_some hm
    obtain ⟨own, kind, found, span⟩ := m
    cases kind with
    | property type =>
      simp only [hm] at hgetter
      exact ⟨_, List.mem_of_find?_eq_some hm, type, hname, rfl, hgetter⟩
    | _ => simp [hm] at hgetter

/-- **What declarations have to see to.** If every written property that has
the name of a component is declared with the component's type or a type below
it, the synthesized deconstructor is typed, for any honest host. -/
theorem deconstructsTyped_of_isSubtype (hreachable : r.Reachable) (hinfo : r.info? ty = some info)
    (hbelow : ∀ c ∈ info.members.components, ∀ m ∈ info.declaration.members, ∀ type,
      m.name = c.name → m.kind = .property type → r.types.isSubtype type c.type = true) :
    r.DeconstructsTyped (.positional info.declaration) ty := by
  have h := hreachable.coherent
  refine h.deconstructsTyped_of_gettersFit hinfo fun c hc body hgetter w hkeeps => ?_
  obtain ⟨m, hm, type, hname, hkind, hbody⟩ := h.exists_property_of_getter? hinfo hgetter
  exact h.grounded.admits_of_isSubtype (hbelow c hc m hm type hname hkind)
    (hkeeps m hm type hkind hbody)

end RecordPatterns.Registry

namespace RecordPatterns

/-! ## A getter of another type -/

/-- A record whose only component is an integer, and a property of the same
name that is declared as text. -/
def ticketDeclaration : Declaration where
  name := ⟨4⟩
  type := .nominal 0
  components := [⟨⟨5⟩, .int, false, .generated⟩]
  members := [⟨⟨5⟩, .property .text, some ⟨0⟩, .generated⟩]
  span := .generated

/-- The registry that knows this record. -/
def tickets : Registry := .after .empty
  [.introduce .record "Ticket" .object, .intern "number", .declare ticketDeclaration]

/-- A host whose getters return a text, as the property says. -/
def ticketHost : PureHost
  | .property .. => .ok (.text "A7")
  | call => call.refuse

/-- The text keeps every promise there is in this registry. -/
theorem keepsPromise_tickets {info : RecordInfo} (hinfo : info ∈ tickets.records)
    (body : BodyHandle) : tickets.KeepsPromise info body (.text "A7") := by
  have hrecords : tickets.records = [.of ticketDeclaration] := rfl
  rw [hrecords, List.mem_singleton] at hinfo
  rintro m hm type hkind -
  rw [hinfo, RecordInfo.of, ticketDeclaration, List.mem_singleton] at hm
  rw [hm, MemberKind.property.injEq] at hkind
  rw [← hkind]
  rfl

/-- The deconstructor of this record announces an integer, and is not
typed. -/
theorem not_deconstructsTyped_tickets :
    ¬ tickets.DeconstructsTyped (.positional ticketDeclaration) (.nominal 0) := by
  have hreachable : tickets.Reachable := ⟨_, rfl⟩
  have hinfo : tickets.info? (.nominal 0) = some (.of ticketDeclaration) := rfl
  have hpositional : .positional ticketDeclaration ∈ tickets.deconstructors (.nominal 0) := by
    decide
  rw [Registry.deconstructsTyped_iff hreachable hinfo hpositional rfl]
  intro hfit
  have hkeeps := keepsPromise_tickets (.head _) ⟨0⟩
  have hreadable : tickets.Readable (.of ticketDeclaration) := by
    refine ⟨fun c hc => ?_, fun c hc => ?_⟩
    · rw [List.mem_singleton.mp hc]
      exact ⟨.int 0, rfl⟩
    · rw [List.mem_singleton.mp hc]
      exact ⟨.text "A7", hkeeps⟩
  exact absurd (hfit hreadable _ (.head _) ⟨0⟩ rfl _ hkeeps) Bool.false_ne_true

/-- And this is how it shows. The host is honest, whatever it is asked; the
deconstructor accepts a record that was built, and puts out a text as its
integer; and a variable that was resolved as an integer is bound to it. -/
theorem deconstruct_tickets_eq_text :
    (∀ call, tickets.Honest call (ticketHost call))
      ∧ tickets.construct (.nominal 0) [.int 7] = .ok (.record (.nominal 0) [.int 7])
      ∧ (Deconstructor.positional ticketDeclaration).outputs = [.int]
      ∧ (tickets.deconstruct (.positional ticketDeclaration) (.record (.nominal 0) [.int 7])).under
          ticketHost = .ok ⟨true, [.text "A7"]⟩
      ∧ tickets.types.admits .int (.text "A7") = false
      ∧ ∃ plan, (Resolver.ofRegistry tickets 64).resolve ⟨⟨0⟩, .nominal 0, .generated⟩ (.nominal 0)
          [.bind ⟨5⟩ (some .int) .generated] = .ok plan
        ∧ plan.bindings = [(⟨5⟩, .int)]
        ∧ (plan.evaluate tickets (.record (.nominal 0) [.int 7])).under ticketHost
            = .ok (some [(⟨5⟩, .text "A7")]) := by
  refine ⟨fun call => ?_, rfl, rfl, rfl, rfl, _, rfl, rfl, rfl⟩
  cases call with
  | property body receiver =>
    rintro _ ⟨⟩ ty info _ hinfo
    exact keepsPromise_tickets (Registry.mem_of_info? hinfo).1 body
  | _ => trivial

end RecordPatterns
