/-
Registries as they come about.

A registry is never given; it is what a history of edits has made of the empty
one. An edit introduces a type, declares a record, adds deconstructors from
outside or interns a text, and a declaration that is refused is an edit that
changes nothing. `Reachable` is being made so, in any order and with any
arguments, sensible or not.

What every history guarantees is `Coherent`: bases stand before what is
derived from them, and what the registry holds about a record is what follows
from its declaration and nothing else. `Coherent.apply` is the step, and
`Reachable.coherent` the run. The later files use a reachable registry through
this invariant only, and mostly through its one consequence for matching: a
deconstructor of a type either reads the components of that type's own
declaration, or was written by a user (`Coherent.mem_deconstructors`).
-/
import RecordPatterns.Proofs.Members
import RecordPatterns.Proofs.TypeOrder

set_option autoImplicit false

namespace RecordPatterns

/-! ## Histories -/

/-- One change that is asked of a registry. -/
inductive Edit where
  | introduce (kind : NominalKind) (name : String) (base : TypeId)
  | declare (d : Declaration)
  | add (owner : TypeId) (members : List Member)
  | intern (text : String)

namespace Registry

/-- The registry after one edit. -/
def apply (r : Registry) : Edit → Registry
  | .introduce kind name base => (r.introduce kind name base).2
  | .declare d =>
    match r.declare d with
    | .ok (_, next) => next
    -- a refused declaration leaves no trace
    | .error _ => r
  | .add owner members => (r.addDeconstructors owner members).2
  | .intern text => (r.intern text).2

/-- The registry after several edits, one after the other. -/
def after (r : Registry) (edits : List Edit) : Registry := edits.foldl apply r

/-- A registry that some history makes of the empty one. -/
def Reachable (r : Registry) : Prop := ∃ edits, empty.after edits = r

/-! ## What a history guarantees -/

/-- What holds of every registry that came about by edits. -/
structure Coherent (r : Registry) : Prop where
  grounded : r.types.Grounded
  /-- Only record types are declared. -/
  isRecord : ∀ info ∈ r.records, r.types.isRecord info.declaration.type = true
  proper : ∀ info ∈ r.records, info.declaration.Proper
  /-- What is known about a record follows from its declaration. -/
  derived : ∀ info ∈ r.records, info = .of info.declaration
  /-- Nothing that is added from outside is synthesized. -/
  written : ∀ d ∈ r.added, ∃ body, d.origin = .written body

/-- The empty registry, about which there is nothing to know. -/
theorem coherent_empty : empty.Coherent where
  grounded := TypeTable.grounded_builtin
  isRecord := by simp [empty]
  proper := by simp [empty]
  derived := by simp [empty]
  written := by simp [empty]

variable {r : Registry}

/-- Introducing a type touches the table and the symbols only. -/
theorem Coherent.introduce (h : r.Coherent) (kind : NominalKind) (name : String) (base : TypeId) :
    (r.introduce kind name base).2.Coherent where
  grounded := h.grounded.declare kind _ base
  isRecord info hinfo := TypeTable.isRecord_declare (h.isRecord info hinfo) kind _ base
  proper := h.proper
  derived := h.derived
  written := h.written

/-- What an accepted declaration was, and what it did: it declared a record
type that had not been declared, its components were in order, and the record
that follows from it is now known. -/
theorem declare_eq_ok {d : Declaration} {info : RecordInfo} {next : Registry}
    (h : r.declare d = .ok (info, next)) :
    r.types.isRecord d.type = true ∧ r.info? d.type = none ∧ d.Proper ∧ info = .of d
      ∧ next = { r with records := .of d :: r.records } := by
  -- the three reasons for which a declaration is refused, in their order
  rw [declare] at h
  by_cases hrec : r.types.isRecord d.type = true
  · rw [if_neg (not_not_intro hrec)] at h
    cases hknown : r.info? d.type with
    | some known => simp [hknown] at h
    | none =>
      simp only [hknown, Option.isSome_none, Bool.false_eq_true, if_false] at h
      cases hinfo : RecordInfo.ofDeclaration r.symbols d with
      | error e => simp [hinfo, bind, Except.bind] at h
      | ok worked =>
        obtain ⟨hproper, rfl⟩ := (RecordInfo.ofDeclaration_eq_ok_iff _ _ _).mp hinfo
        simp only [hinfo, bind, Except.bind, pure, Except.pure, Except.ok.injEq,
          Prod.mk.injEq] at h
        exact ⟨hrec, rfl, hproper, h.1.symm, h.2.symm⟩
  · simp [hrec] at h

/-- A declaration, accepted or not, keeps the registry coherent. -/
theorem Coherent.declare (h : r.Coherent) (d : Declaration) : (r.apply (.declare d)).Coherent := by
  rw [apply]
  cases hd : r.declare d with
  | error e => exact h
  | ok result =>
    obtain ⟨info, next⟩ := result
    obtain ⟨hrec, -, hproper, -, rfl⟩ := declare_eq_ok hd
    exact {
      grounded := h.grounded
      isRecord := List.forall_mem_cons.mpr ⟨hrec, h.isRecord⟩
      proper := List.forall_mem_cons.mpr ⟨hproper, h.proper⟩
      derived := List.forall_mem_cons.mpr ⟨rfl, h.derived⟩
      written := h.written }

/-- What is added from outside is written. -/
theorem Coherent.addDeconstructors (h : r.Coherent) (owner : TypeId) (members : List Member) :
    (r.addDeconstructors owner members).2.Coherent where
  grounded := h.grounded
  isRecord := h.isRecord
  proper := h.proper
  derived := h.derived
  written d hd := by
    simp only [Registry.addDeconstructors, List.mem_append, List.mem_filterMap] at hd
    obtain hd | ⟨m, -, hm⟩ := hd
    · exact h.written d hd
    · exact ⟨m.body, (Deconstructor.ofMember?_eq_some_iff.mp hm).origin⟩

/-- **The step.** No edit breaks coherence. -/
theorem Coherent.apply (h : r.Coherent) (e : Edit) : (r.apply e).Coherent := by
  cases e with
  | introduce kind name base => exact h.introduce kind name base
  | declare d => exact h.declare d
  | add owner members => exact h.addDeconstructors owner members
  | intern text => exact { h with }

/-- **The run.** No history breaks coherence. -/
theorem Coherent.after (edits : List Edit) (h : r.Coherent) : (r.after edits).Coherent := by
  induction edits generalizing r with
  | nil => exact h
  | cons e rest ih => exact ih (h.apply e)

/-- Every reachable registry is coherent. -/
theorem Reachable.coherent (h : r.Reachable) : r.Coherent := by
  obtain ⟨edits, rfl⟩ := h
  exact coherent_empty.after edits

/-! ## Looking a record up -/

/-- The record found for a type is known, and it is that type's. -/
theorem mem_of_info? {ty : TypeId} {info : RecordInfo} (h : r.info? ty = some info) :
    info ∈ r.records ∧ info.declaration.type = ty := by
  rw [info?] at h
  exact ⟨List.mem_of_find?_eq_some h, by simpa using List.find?_some h⟩

/-- What a coherent registry has found for a type: a record type, a proper
declaration of it, and what follows from that. -/
theorem Coherent.info?_spec (h : r.Coherent) {ty : TypeId} {info : RecordInfo}
    (hinfo : r.info? ty = some info) :
    r.types.isRecord ty = true ∧ info.declaration.type = ty ∧ info.declaration.Proper
      ∧ info = .of info.declaration := by
  obtain ⟨hmem, hty⟩ := mem_of_info? hinfo
  exact ⟨hty ▸ h.isRecord info hmem, hty, h.proper info hmem, h.derived info hmem⟩

/-- The components that are looked up for a record are those it was declared
with. -/
theorem Coherent.components_eq (h : r.Coherent) {ty : TypeId} {info : RecordInfo}
    (hinfo : r.info? ty = some info) : info.members.components = info.declaration.components := by
  rw [(h.info?_spec hinfo).2.2.2]
  rfl

/-- The deconstructors of a declaration: either the one that reads the
components, no member being a deconstructor, or written ones. -/
theorem mem_declaration_deconstructors {d : Declaration} {x : Deconstructor}
    (h : x ∈ d.deconstructors) : x = .positional d ∨ ∃ body, x.origin = .written body := by
  rw [Declaration.deconstructors] at h
  cases hw : d.members.filterMap (Deconstructor.ofMember? d.type) with
  | nil =>
    rw [hw, List.mem_singleton] at h
    exact .inl h
  | cons first rest =>
    rw [hw] at h
    simp only [← hw, List.mem_filterMap] at h
    obtain ⟨m, -, hm⟩ := h
    exact .inr ⟨m.body, (Deconstructor.ofMember?_eq_some_iff.mp hm).origin⟩

/-- **Where deconstructors come from.** One that a type has either reads the
components of the type's own declaration, or was written by a user. -/
theorem Coherent.mem_deconstructors (h : r.Coherent) {ty : TypeId} {d : Deconstructor}
    (hd : d ∈ r.deconstructors ty) :
    (∃ info, r.info? ty = some info ∧ d = .positional info.declaration)
      ∨ ∃ body, d.origin = .written body := by
  rw [deconstructors, List.mem_append] at hd
  obtain hown | hadded := hd
  · cases hinfo : r.info? ty with
    | none => simp [hinfo] at hown
    | some info =>
      have hderived := (h.info?_spec hinfo).2.2.2
      rw [hinfo, hderived] at hown
      obtain hpos | hwritten := mem_declaration_deconstructors hown
      · exact .inl ⟨info, rfl, hpos⟩
      · exact .inr hwritten
  · exact .inr (h.written d (List.mem_filter.mp hadded).1)

/-- One that nobody wrote reads the components of the type's own
declaration. -/
theorem Coherent.eq_positional_of_isSynthesized (h : r.Coherent) {ty : TypeId} {d : Deconstructor}
    (hd : d ∈ r.deconstructors ty) (hsynthesized : d.isSynthesized = true) :
    ∃ info, r.info? ty = some info ∧ d = .positional info.declaration := by
  obtain hpositional | ⟨body, hwritten⟩ := h.mem_deconstructors hd
  · exact hpositional
  · rw [Deconstructor.isSynthesized, hwritten] at hsynthesized
    exact absurd hsynthesized Bool.false_ne_true

/-! ## Registries without written deconstructors -/

/-- No written member is a deconstructor, and none was added from outside. -/
structure Unwritten (r : Registry) : Prop where
  members : ∀ info ∈ r.records, ∀ m ∈ info.declaration.members, m.isDeconstructor = false
  added : r.added = []

/-- Without written deconstructors, a declared record has the one that reads
its components. -/
theorem Coherent.deconstructors_eq (h : r.Coherent) (hunwritten : r.Unwritten) {ty : TypeId}
    {info : RecordInfo} (hinfo : r.info? ty = some info) :
    r.deconstructors ty = [.positional info.declaration] := by
  have hpositional := Declaration.deconstructors_eq_positional
    (hunwritten.members info (mem_of_info? hinfo).1)
  rw [deconstructors, hunwritten.added, List.filter_nil, List.append_nil, hinfo,
    (h.info?_spec hinfo).2.2.2]
  exact hpositional

/-- Nor is there any other deconstructor. -/
theorem Coherent.eq_positional_of_mem (h : r.Coherent) (hunwritten : r.Unwritten) {ty : TypeId}
    {d : Deconstructor} (hd : d ∈ r.deconstructors ty) :
    ∃ info, r.info? ty = some info ∧ d = .positional info.declaration := by
  cases hinfo : r.info? ty with
  | none => simp [deconstructors, hunwritten.added, hinfo] at hd
  | some info =>
    rw [h.deconstructors_eq hunwritten hinfo, List.mem_singleton] at hd
    exact ⟨info, rfl, hd⟩

end Registry

end RecordPatterns
