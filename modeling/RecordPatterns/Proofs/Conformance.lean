/-
Values that keep their types' promises.

Nothing in a value says that its fields fit the components of its type. Two
predicates say so from outside. `WellFormed` looks at a finished value: every
record inside it is of a declared type, with one fitting field per component.
`Built` looks at how a value came about: by the constructor, from null, truth
values, integers, texts and other values that came about so. They are the same
values (`built_iff_wellFormed`), since the constructor checks exactly what
well-formedness asks for (`construct_eq_ok_iff`). `Conforms` adds that the
value as a whole fits some type.

A well-formed record can be read: under a component's name there is a getter
to run or the stored value to return, and never a fault of the registry's own
(`read_component`). That needs the record's own declaration. A record that is
merely derived from the one whose components are asked for promises nothing
about them, which is why `eq_record_of_isSubtype` insists on records that are
not derived from one another.
-/
import Mathlib.Data.List.Forall2
import RecordPatterns.Proofs.Course
import RecordPatterns.Proofs.History

set_option autoImplicit false

namespace RecordPatterns.Registry

variable {r : Registry} {ty : TypeId} {info : RecordInfo} {v w : Value} {fields : List Value}

/-! ## Well-formed values -/

/-- Each of several fields fits the component it is for, and there are no more
and no fewer of them. -/
abbrev FieldsFit (r : Registry) : List Component → List Value → Prop :=
  List.Forall₂ fun c v => r.types.admits c.type v = true

/-- Every record inside the value is of a declared type and has one fitting
field for each component. -/
inductive WellFormed (r : Registry) : Value → Prop
  | null : r.WellFormed .null
  | bool (b : Bool) : r.WellFormed (.bool b)
  | int (n : Int64) : r.WellFormed (.int n)
  | text (s : String) : r.WellFormed (.text s)
  | record {ty : TypeId} {info : RecordInfo} {fields : List Value}
      (declared : r.info? ty = some info) (fit : r.FieldsFit info.members.components fields)
      (inside : ∀ v ∈ fields, r.WellFormed v) : r.WellFormed (.record ty fields)

/-- A well-formed value that fits a type. -/
def Conforms (r : Registry) (ty : TypeId) (v : Value) : Prop :=
  r.WellFormed v ∧ r.types.admits ty v = true

/-- What a well-formed record has inside. -/
theorem WellFormed.fields_spec (h : r.WellFormed (.record ty fields))
    (hinfo : r.info? ty = some info) :
    List.Forall₂ (fun c v => r.Conforms c.type v) info.members.components fields := by
  cases h with
  | record declared fit inside =>
    rw [hinfo, Option.some.injEq] at declared
    rw [declared]
    refine List.forall₂_iff_get.mpr ⟨fit.length_eq, fun i hc hv => ?_⟩
    exact ⟨inside _ (List.get_mem ..), fit.get hc hv⟩

/-- The field that a well-formed record has for a component. -/
theorem WellFormed.exists_field (h : r.WellFormed (.record ty fields))
    (hinfo : r.info? ty = some info) {c : Component} (hc : c ∈ info.members.components) :
    ∃ (i : Nat) (w : Value), info.members.components[i]? = some c ∧ fields[i]? = some w
      ∧ r.Conforms c.type w := by
  obtain ⟨i, hi, rfl⟩ := List.mem_iff_getElem.mp hc
  have hfields := h.fields_spec hinfo
  have hlt : i < fields.length := by
    rw [← hfields.length_eq]
    exact hi
  exact ⟨i, fields[i], List.getElem?_eq_getElem hi, List.getElem?_eq_getElem hlt,
    hfields.get hi hlt⟩

/-- A value that fits a type still does seen from above. -/
theorem Coherent.conforms_of_isSubtype (h : r.Coherent) {sub super : TypeId}
    (hs : r.types.isSubtype sub super = true) (hv : r.Conforms sub v) : r.Conforms super v :=
  ⟨hv.1, h.grounded.admits_of_isSubtype hs hv.2⟩

/-! ## The constructor -/

/-- Nothing misfits exactly if everything fits, among as many values as
components. -/
theorem misfit?_eq_none_iff (components : List Component) : ∀ values : List Value,
    components.length = values.length →
      (r.misfit? components values = none ↔ r.FieldsFit components values) := by
  induction components with
  | nil =>
    intro values hlen
    rw [List.eq_nil_of_length_eq_zero hlen.symm]
    exact iff_of_true rfl .nil
  | cons c rest ih =>
    intro values hlen
    cases values with
    | nil => cases hlen
    | cons v values =>
      rw [misfit?, FieldsFit, List.forall₂_cons]
      by_cases hfit : r.types.admits c.type v = true
      · rw [if_pos hfit, ih values (Nat.succ.inj hlen)]
        exact (and_iff_right hfit).symm
      · rw [if_neg hfit]
        exact iff_of_false (Option.some_ne_none _) fun hall => hfit hall.1

/-- **What the constructor accepts**: a declared type, and one fitting value
for each of its components. The record it builds holds those very values. -/
theorem construct_eq_ok_iff {values : List Value} :
    r.construct ty values = .ok v ↔
      ∃ info, r.info? ty = some info ∧ r.FieldsFit info.members.components values
        ∧ v = .record ty values := by
  rw [construct]
  cases hinfo : r.info? ty with
  | none => simp
  | some info =>
    simp only [Option.some.injEq, exists_eq_left']
    -- the number of values is checked before any of them is looked at
    by_cases hlen : info.members.components.length = values.length
    · rw [if_neg (not_not_intro hlen), ← misfit?_eq_none_iff _ _ hlen]
      cases hm : r.misfit? info.members.components values with
      | none => simp [eq_comm]
      | some misfit => simp
    · rw [if_pos hlen]
      refine iff_of_false (by simp) ?_
      rintro ⟨hfit, -⟩
      exact hlen hfit.length_eq

/-- Values that come about by the constructor, from null, truth values,
integers, texts and values that came about so themselves. -/
inductive Built (r : Registry) : Value → Prop
  | null : r.Built .null
  | bool (b : Bool) : r.Built (.bool b)
  | int (n : Int64) : r.Built (.int n)
  | text (s : String) : r.Built (.text s)
  | construct {ty : TypeId} {values : List Value} {v : Value} (inside : ∀ w ∈ values, r.Built w)
      (built : r.construct ty values = .ok v) : r.Built v

/-- **Building is the only way to be well-formed**, and enough for it. Both
directions go by what the constructor accepts. -/
theorem built_iff_wellFormed : r.Built v ↔ r.WellFormed v := by
  constructor
  · intro h
    induction h with
    | null => exact .null
    | bool b => exact .bool b
    | int n => exact .int n
    | text s => exact .text s
    | construct _ built ih =>
      obtain ⟨info, hinfo, hfit, rfl⟩ := construct_eq_ok_iff.mp built
      exact .record hinfo hfit ih
  · intro h
    induction h with
    | null => exact .null
    | bool b => exact .bool b
    | int n => exact .int n
    | text s => exact .text s
    | record declared fit _ ih =>
      exact .construct ih (construct_eq_ok_iff.mpr ⟨_, declared, fit, rfl⟩)

/-! ## Reading the components of a record -/

/-- **Reading a component.** If a getter stands under the name it is run, on
the record as a whole; otherwise the stored value is returned, also where
some other written member hides the accessor. -/
theorem Coherent.read_component (h : r.Coherent) (hinfo : r.info? ty = some info) {i : Nat}
    {c : Component} (hc : info.members.components[i]? = some c) (hw : fields[i]? = some w) :
    r.read (.record ty fields) c.name = match info.getter? c.name with
      | some body => Run.property body (.record ty fields)
      | none => .done w := by
  obtain ⟨-, -, hproper, hderived⟩ := h.info?_spec hinfo
  -- whoever falls back on the stored value finds it at the component's position
  have hstored : r.stored ty fields c.name i = .done w := by
    rw [stored, hw]
  have hmembers : info.members = .of info.declaration := by rw [hderived]; rfl
  rw [hmembers] at hc
  have hposition : info.members.position? c.name = some i := by
    rw [hmembers]
    exact MemberTable.position?_of_component hproper hc
  rw [read, RecordInfo.getter?]
  simp only [hinfo]
  cases hm : info.declaration.members.find? (·.name = c.name) with
  | none =>
    rw [hmembers, MemberTable.get?_of_component hproper hc hm]
    exact hstored
  | some m =>
    have hget : info.members.get? c.name = some (.written m) := by
      rw [hmembers, MemberTable.get?_of, hm]
    obtain ⟨name, kind, body, span⟩ := m
    simp only [hget]
    cases kind with
    | property type =>
      cases body with
      | some body => rfl
      | none => simpa only [hposition] using hstored
    | _ => simpa only [hposition] using hstored

/-- The synthesized deconstructor reads the components one by one, whatever
value it is given, and accepts unless one of them cannot be read. -/
theorem deconstruct_positional (d : Declaration) (v : Value) :
    r.deconstruct (.positional d) v
      = d.components.mapM (fun c => r.read v c.name) >>= fun outputs => pure ⟨true, outputs⟩ := by
  rw [deconstruct]
  simp only [Deconstructor.positional, List.mapM_map]
  rfl

/-- **Taking a record apart gives back its fields**, in their order and without
asking the host, if there is one field for each component and no getter stands
for any of them. Whether the fields fit does not matter. -/
theorem Coherent.deconstruct_eq_done (h : r.Coherent) (hinfo : r.info? ty = some info)
    (hfull : info.members.components.length = fields.length)
    (hnone : ∀ c ∈ info.members.components, info.getter? c.name = none) :
    r.deconstruct (.positional info.declaration) (.record ty fields) = .done ⟨true, fields⟩ := by
  have hread : info.declaration.components.mapM (fun c => r.read (.record ty fields) c.name)
      = .done fields := by
    rw [← h.components_eq hinfo, Dialogue.mapM_eq_done_iff, List.forall₂_iff_get]
    refine ⟨hfull, fun i hc hw => ?_⟩
    rw [List.get_eq_getElem, List.get_eq_getElem, h.read_component hinfo
      (List.getElem?_eq_getElem hc) (List.getElem?_eq_getElem hw), hnone _ (List.getElem_mem hc)]
  rw [deconstruct_positional, hread]
  rfl

/-! ## Records that are not derived from one another -/

/-- No declared record is derived from another one. Types that were only
introduced as records do not matter, as no value is of such a type. -/
def Flat (r : Registry) : Prop :=
  ∀ a b, (r.info? a).isSome = true → (r.info? b).isSome = true →
    r.types.isSubtype a b = true → a = b

/-- Only the declared records have to be compared. -/
theorem flat_iff : r.Flat ↔ ∀ a ∈ r.records, ∀ b ∈ r.records,
    r.types.isSubtype a.declaration.type b.declaration.type = true →
      a.declaration.type = b.declaration.type := by
  have hdeclared : ∀ ty, (r.info? ty).isSome = true
      ↔ ∃ info ∈ r.records, info.declaration.type = ty := by
    intro ty
    rw [info?, List.find?_isSome]
    simp only [decide_eq_true_eq]
  simp only [Flat, hdeclared]
  constructor
  · intro h a ha b hb
    exact h _ _ ⟨a, ha, rfl⟩ ⟨b, hb, rfl⟩
  · rintro h _ _ ⟨a, ha, rfl⟩ ⟨b, hb, rfl⟩
    exact h a ha b hb

/-- Whether records are derived from one another is decided by comparing
them. -/
instance : Decidable r.Flat := decidable_of_iff' _ flat_iff

/-- What is below a declared record is itself a record: a well-formed value of
a type below it is a record of a declared type. -/
theorem Coherent.record_of_isSubtype (h : r.Coherent) (hinfo : r.info? ty = some info)
    (hv : r.WellFormed v) {actual : TypeId} (hactual : v.type? = some actual)
    (hs : r.types.isSubtype actual ty = true) :
    ∃ fields, v = .record actual fields ∧ (r.info? actual).isSome = true := by
  have hrecord := (h.info?_spec hinfo).1
  cases hv with
  | record declared fit inside =>
    rw [Value.type?, Option.some.injEq] at hactual
    rw [hactual] at declared ⊢
    exact ⟨_, rfl, by rw [declared, Option.isSome_some]⟩
  | null => cases hactual
  | _ =>
    -- the types of the other values are built in, and nothing built in is below a declared type
    cases hactual
    cases ty with
    | nominal position =>
      obtain ⟨k, hk⟩ := h.grounded.nominal_of_isSubtype hs
      cases hk
    | _ => exact absurd hrecord Bool.false_ne_true

/-- Where records are not derived from one another, a well-formed value whose
type is below that of a record is a record of that very type. -/
theorem Coherent.eq_record_of_isSubtype (h : r.Coherent) (hflat : r.Flat)
    (hinfo : r.info? ty = some info) (hv : r.WellFormed v) {actual : TypeId}
    (hactual : v.type? = some actual) (hs : r.types.isSubtype actual ty = true) :
    ∃ fields, v = .record ty fields := by
  obtain ⟨fields, rfl, hdeclared⟩ := h.record_of_isSubtype hinfo hv hactual hs
  rw [hflat actual ty hdeclared (by rw [hinfo, Option.isSome_some]) hs]
  exact ⟨fields, rfl⟩

end RecordPatterns.Registry
