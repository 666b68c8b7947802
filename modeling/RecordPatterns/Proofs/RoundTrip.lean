/-
Taking apart what was put together.

The constructor stores one value for each component, by its position. The
synthesized deconstructor never looks at positions. It goes by the names of
the components, and asks the member table what each name stands for: an
accessor, which knows a position; a written member that hides the accessor and
has nothing to run, so that the position has to be found anew; or a getter.
Only a getter breaks the round trip, since it may say anything. Where none
stands for a component of the record, both ways round are the identity.

The two halves meet at one description of a record, a declared type with one
fitting field for each component. The constructor accepts exactly what has
this form (`construct_eq_ok_iff`), and what has this form is read back field
by field (`Coherent.deconstruct_eq_done`). That the host takes no part is
visible in the statements, since a run that is done has no question in it.
-/
import RecordPatterns.Proofs.Conformance

set_option autoImplicit false

namespace RecordPatterns.Registry

variable {r : Registry} {ty : TypeId} {info : RecordInfo} {v : Value}

/-- A deconstructor undoes the constructor of a record type, and is undone by
it, whatever host there is. -/
structure Undoes (r : Registry) (d : Deconstructor) (ty : TypeId) (info : RecordInfo) : Prop where
  /-- What was built comes apart into what it was built from. -/
  apart : ∀ values v, r.construct ty values = .ok v → r.deconstruct d v = .done ⟨true, values⟩
  /-- Each component of what was built can be read by its name, and is what was
  given for it. -/
  member : ∀ values v, r.construct ty values = .ok v →
    ∀ (i : Nat) (c : Component) (w : Value), info.members.components[i]? = some c →
      values[i]? = some w → r.read v c.name = .done w
  /-- A well-formed record of exactly this type comes apart, and its parts make
  it up again. -/
  together : ∀ v, r.WellFormed v → v.type? = some ty →
    ∃ outputs, r.deconstruct d v = .done ⟨true, outputs⟩ ∧ r.construct ty outputs = .ok v

/-- A well-formed value of a declared type is a record. -/
theorem Coherent.exists_fields_of_type? (h : r.Coherent) (hinfo : r.info? ty = some info)
    (hv : r.WellFormed v) (htype : v.type? = some ty) : ∃ fields, v = .record ty fields := by
  have hrecord := (h.info?_spec hinfo).1
  have hself : r.types.isSubtype ty ty = true := by
    rw [TypeTable.isSubtype_self]
    exact TypeTable.isAllocated_of_isNullable (TypeTable.isNullable_of_isRecord hrecord)
  obtain ⟨fields, hfields, -⟩ := h.record_of_isSubtype hinfo hv htype hself
  exact ⟨fields, hfields⟩

/-- Where no getter stands for a component, the deconstructor that reads the
components undoes the constructor. -/
theorem Coherent.undoes_positional (h : r.Coherent) (hinfo : r.info? ty = some info)
    (hnone : ∀ c ∈ info.members.components, info.getter? c.name = none) :
    r.Undoes (.positional info.declaration) ty info where
  apart := by
    intro values v hv
    obtain ⟨own, hown, hfit, rfl⟩ := construct_eq_ok_iff.mp hv
    rw [hinfo, Option.some.injEq] at hown
    subst hown
    exact h.deconstruct_eq_done hinfo hfit.length_eq hnone
  member := by
    intro values v hv i c w hc hw
    obtain ⟨-, -, -, rfl⟩ := construct_eq_ok_iff.mp hv
    rw [h.read_component hinfo hc hw, hnone c (List.mem_of_getElem? hc)]
  together := by
    intro v hv htype
    obtain ⟨fields, rfl⟩ := h.exists_fields_of_type? hinfo hv htype
    have hfit : r.FieldsFit info.members.components fields :=
      (hv.fields_spec hinfo).imp fun c w hw => hw.2
    refine ⟨fields, h.deconstruct_eq_done hinfo hfit.length_eq hnone, ?_⟩
    exact construct_eq_ok_iff.mpr ⟨info, hinfo, hfit, rfl⟩

/-- **Construction and synthesized deconstruction are inverse.** Take a
registry that came about by edits.

  * The constructor of a type succeeds exactly if the type is declared and
    there is one value for each component and no other, each of which fits its
    component.
  * What it builds is a record of this type with these fields.
  * Let a declared record have a synthesized deconstructor, and no getter in
    the place of a component; methods, and properties without a body, may have
    the name of one. Then the deconstructor undoes the constructor and is
    undone by it. -/
theorem deconstruct_inverts_construct (hreachable : r.Reachable) :
    (∀ ty values, (∃ v, r.construct ty values = .ok v)
        ↔ ∃ info, r.info? ty = some info ∧ r.FieldsFit info.members.components values)
      ∧ (∀ ty values v, r.construct ty values = .ok v → v = .record ty values)
      ∧ ∀ ty info d, r.info? ty = some info → d ∈ r.deconstructors ty → d.isSynthesized = true →
        (∀ c ∈ info.members.components, info.getter? c.name = none) → r.Undoes d ty info := by
  refine ⟨fun ty values => ?_, fun ty values v hv => ?_, ?_⟩
  · constructor
    · rintro ⟨v, hv⟩
      obtain ⟨info, hinfo, hfit, -⟩ := construct_eq_ok_iff.mp hv
      exact ⟨info, hinfo, hfit⟩
    · rintro ⟨info, hinfo, hfit⟩
      exact ⟨_, construct_eq_ok_iff.mpr ⟨info, hinfo, hfit, rfl⟩⟩
  · obtain ⟨-, -, -, rfl⟩ := construct_eq_ok_iff.mp hv
    rfl
  · intro ty info d hinfo hd hsynthesized hnone
    have h := hreachable.coherent
    obtain ⟨own, hown, rfl⟩ := h.eq_positional_of_isSynthesized hd hsynthesized
    rw [hinfo, Option.some.injEq] at hown
    subst hown
    exact h.undoes_positional hinfo hnone

end RecordPatterns.Registry

namespace RecordPatterns

/-- A record of three components. A method has the name of the first, a
property without a body that of the second, and a getter stands for none of
them, although there is one under another name. -/
def letterDeclaration : Declaration where
  name := ⟨4⟩
  type := .nominal 0
  components :=
    [⟨⟨5⟩, .int, false, .generated⟩, ⟨⟨6⟩, .text, false, .generated⟩,
      ⟨⟨7⟩, .nominal 0, false, .generated⟩]
  members :=
    [⟨⟨5⟩, .method, some ⟨0⟩, .generated⟩, ⟨⟨6⟩, .property .text, none, .generated⟩,
      ⟨⟨8⟩, .property .int, some ⟨1⟩, .generated⟩]
  span := .generated

/-- The registry that knows this record. -/
def letters : Registry := .after .empty
  [.introduce .record "Letter" .object, .declare letterDeclaration]

/-- A letter that encloses another one. -/
def enclosingLetter : List Value :=
  [.int 3, .null, .record (.nominal 0) [.int 1, .text "a", .null]]

/-- It is built, comes apart again, and can be read by its hidden names. -/
theorem deconstruct_inverts_construct_letters :
    letters.Reachable ∧ letters.info? (.nominal 0) = some (.of letterDeclaration)
      ∧ (∃ v, letters.construct (.nominal 0) enclosingLetter = .ok v)
      ∧ ¬ (∃ v, letters.construct (.nominal 0) [.null, .null, .null] = .ok v)
      ∧ letters.deconstruct (.positional letterDeclaration) (.record (.nominal 0) enclosingLetter)
          = .done ⟨true, enclosingLetter⟩
      ∧ letters.read (.record (.nominal 0) enclosingLetter) ⟨5⟩ = .done (.int 3)
      ∧ ∃ outputs, letters.deconstruct (.positional letterDeclaration)
            (.record (.nominal 0) enclosingLetter) = .done ⟨true, outputs⟩
          ∧ letters.construct (.nominal 0) outputs
            = .ok (.record (.nominal 0) enclosingLetter) := by
  have hreachable : letters.Reachable := ⟨_, rfl⟩
  have hinfo : letters.info? (.nominal 0) = some (.of letterDeclaration) := rfl
  obtain ⟨hsucceeds, hfields, hundoes⟩ := Registry.deconstruct_inverts_construct hreachable
  have hfit : letters.FieldsFit (RecordInfo.of letterDeclaration).members.components
      enclosingLetter := .cons rfl (.cons rfl (.cons rfl .nil))
  have hbuilt := (hsucceeds (.nominal 0) enclosingLetter).mpr ⟨_, hinfo, hfit⟩
  have hrefused : ¬ ∃ v, letters.construct (.nominal 0) [.null, .null, .null] = .ok v := by
    rw [hsucceeds]
    rintro ⟨info, hother, hfit⟩
    cases hother
    -- an integer is never null
    exact absurd (List.forall₂_cons.mp hfit).1 (by decide)
  obtain ⟨hapart, hmember, htogether⟩ := hundoes (.nominal 0) _ (.positional letterDeclaration)
    hinfo (by decide) rfl (by decide)
  have hwellFormed : letters.WellFormed (.record (.nominal 0) enclosingLetter) := by
    have hinner : letters.WellFormed (.record (.nominal 0) [.int 1, .text "a", .null]) :=
      .record hinfo (.cons rfl (.cons rfl (.cons rfl .nil)))
        (by simp [Registry.WellFormed.int, Registry.WellFormed.text, Registry.WellFormed.null])
    exact .record hinfo hfit
      (by simp [enclosingLetter, hinner, Registry.WellFormed.int, Registry.WellFormed.null])
  obtain ⟨v, hv⟩ := hbuilt
  have hv' := hfields _ _ _ hv
  subst hv'
  exact ⟨hreachable, hinfo, ⟨_, hv⟩, hrefused, hapart _ _ hv, hmember _ _ hv 0 _ _ rfl rfl,
    htogether _ hwellFormed rfl⟩

end RecordPatterns
