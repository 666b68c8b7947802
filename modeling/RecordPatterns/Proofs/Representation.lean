/-
Where equality is a matter of representation.

Without user code in it, comparing two values is comparing how they are built.
That is what records are for, and yet the recursion does nothing of the kind:
it goes by names, looks each of them up among the effective members of the
record, and may find a method there, or a property without a body, that hides
the component. It comes out right because whatever hides a component and has
nothing to run gives way to the stored value (`Coherent.read_component`), and
because the names that equality goes by are those of the components, all of
them and in their order (`Coherent.equality?_eq`).

A value needs to be complete for that, no record inside it having more or fewer
fields than its type has components. Which values the fields are does not
matter. The induction is on complete values. The depth that suffices is that
of the first value alone (`Value.nesting`), since two values are followed only
as long as both are records.
-/
import RecordPatterns.Proofs.Comparison
import RecordPatterns.Proofs.Conformance

set_option autoImplicit false

namespace RecordPatterns

/-! ## The depth of values -/

namespace Value

mutual

/-- The number of records that lie within one another in a value. -/
def nesting : Value → Nat
  | record _ fields => 1 + nestingAll fields
  | _ => 0

/-- The same of several values, the deepest of them counting. -/
def nestingAll : List Value → Nat
  | [] => 0
  | v :: rest => max v.nesting (nestingAll rest)

end

/-- None of several values is deeper than all of them. -/
theorem nesting_le_nestingAll {v : Value} {values : List Value} (h : v ∈ values) :
    v.nesting ≤ nestingAll values := by
  induction values with
  | nil => cases h
  | cons w rest ih =>
    rw [nestingAll]
    rcases List.mem_cons.mp h with rfl | hrest
    · exact Nat.le_max_left ..
    · exact Nat.le_trans (ih hrest) (Nat.le_max_right ..)

end Value

/-! ## Members that need no asking -/

namespace Run

/-- If each member compares by representation at once, so do all of them. -/
theorem allEqual_eq_done {compare : Symbol → Run (Option Bool)} {names : List Symbol} :
    ∀ {fields fields' : List Value}, fields.length = names.length →
      fields'.length = names.length →
      (∀ (i : Nat) (name : Symbol) (w w' : Value), names[i]? = some name → fields[i]? = some w →
        fields'[i]? = some w' → compare name = .done (some (decide (w = w')))) →
      allEqual compare names = .done (some (decide (fields = fields'))) := by
  induction names with
  | nil =>
    intro fields fields' hlength hlength' _
    rw [List.eq_nil_of_length_eq_zero hlength, List.eq_nil_of_length_eq_zero hlength']
    rfl
  | cons name rest ih =>
    intro fields fields' hlength hlength' hcompare
    obtain ⟨w, others, rfl⟩ := List.exists_cons_of_length_eq_add_one hlength
    obtain ⟨w', others', rfl⟩ := List.exists_cons_of_length_eq_add_one hlength'
    have hrest : allEqual compare rest = .done (some (decide (others = others'))) :=
      ih (Nat.succ.inj hlength) (Nat.succ.inj hlength') fun i => hcompare (i + 1)
    rw [allEqual, hcompare 0 name w w' rfl rfl rfl, Dialogue.done_bind]
    by_cases hw : w = w'
    · simp [hw, hrest]
    · simp [hw]

/-- If each member has a hash at once, so have all of them. -/
theorem foldHash_eq_done {hash : Symbol → Run (Option UInt64)} {names : List Symbol}
    (h : ∀ name ∈ names, ∃ code, hash name = .done (some code)) : ∀ running : UInt64,
      ∃ code, foldHash hash running names = .done (some code) := by
  induction names with
  | nil => exact fun running => ⟨running, rfl⟩
  | cons name rest ih =>
    intro running
    obtain ⟨⟨member, hmember⟩, hrest⟩ := List.forall_mem_cons.mp h
    rw [foldHash, hmember, Dialogue.done_bind]
    exact ih hrest _

end Run

namespace Registry

variable {r : Registry}

/-- Nothing that comparing or hashing records asks for was written: no
equality, no hash, and no getter in the place of a component. -/
structure Structural (r : Registry) : Prop where
  synthesized : ∀ info ∈ r.records, info.equality.isSynthesized = true
  noGetter : ∀ info ∈ r.records, ∀ c ∈ info.members.components, info.getter? c.name = none

/-- Every record inside the value is of a declared type and has one field for
each component, whatever it may be. -/
inductive Complete (r : Registry) : Value → Prop
  | null : r.Complete .null
  | bool (b : Bool) : r.Complete (.bool b)
  | int (n : Int64) : r.Complete (.int n)
  | text (s : String) : r.Complete (.text s)
  | record {ty : TypeId} {info : RecordInfo} {fields : List Value}
      (declared : r.info? ty = some info)
      (full : fields.length = info.members.components.length)
      (inside : ∀ v ∈ fields, r.Complete v) : r.Complete (.record ty fields)

/-- Where all equality is synthesized, that of a record goes by its
components. -/
theorem Coherent.equality?_eq (h : r.Coherent)
    (hsynthesized : ∀ info ∈ r.records, info.equality.isSynthesized = true) {ty : TypeId}
    {info : RecordInfo} (hinfo : r.info? ty = some info) (fields : List Value) :
    r.equality? (.record ty fields)
      = some (.memberwise (info.members.components.map Component.name)) := by
  refine equality?_eq_some_iff.mpr ⟨ty, info, rfl, hinfo, ?_⟩
  have hsynthetic := hsynthesized info (mem_of_info? hinfo).1
  have hequality : info.equality = info.declaration.equality := by
    rw [(h.info?_spec hinfo).2.2.2]
    rfl
  rw [hequality] at hsynthetic ⊢
  rw [Declaration.equality_eq_of_isSynthesized hsynthetic, h.components_eq hinfo]

/-- What is read under the name of a component is its field. -/
theorem Coherent.read_eq_field (h : r.Coherent) (hstructural : r.Structural) {ty : TypeId}
    {info : RecordInfo} (hinfo : r.info? ty = some info) {fields : List Value} {i : Nat}
    {name : Symbol} {w : Value}
    (hname : (info.members.components.map Component.name)[i]? = some name)
    (hw : fields[i]? = some w) : r.read (.record ty fields) name = .done w := by
  rw [List.getElem?_map, Option.map_eq_some_iff] at hname
  obtain ⟨c, hc, rfl⟩ := hname
  have hnone := hstructural.noGetter info (mem_of_info? hinfo).1 c (List.mem_of_getElem? hc)
  rw [h.read_component hinfo hc hw, hnone]

/-- Where no equality is declared, or the types of two records differ, nothing
but how the values are built is looked at. -/
theorem equals_eq_decide_of_undeclared {depth : Nat} {a b : Value}
    (h : r.equality? a = none ∨ a.recordType? ≠ b.recordType?) :
    r.equals depth a b = .done (some (decide (a = b))) := by
  rw [equals_eq]
  by_cases htype : a.recordType? = b.recordType?
  · have hnone : r.equality? a = none := h.resolve_right (not_not_intro htype)
    rw [if_neg (not_not_intro htype), hnone]
  · have hne : a ≠ b := fun heq => htype (heq ▸ rfl)
    rw [if_pos htype, decide_eq_false hne]

/-- **Comparing complete values** is comparing how they are built. -/
theorem Coherent.equals_eq_decide (h : r.Coherent) (hstructural : r.Structural) {a : Value}
    (ha : r.Complete a) : ∀ {b : Value} {depth : Nat}, r.Complete b → a.nesting ≤ depth →
      r.equals depth a b = .done (some (decide (a = b))) := by
  induction ha with
  | @record ty info fields hinfo hfull _ ih =>
    intro b depth hb hdepth
    by_cases htype : (Value.record ty fields).recordType? = b.recordType?
    · obtain ⟨fields', rfl⟩ : ∃ fields', b = .record ty fields' := by
        cases b <;> cases htype
        exact ⟨_, rfl⟩
      obtain _ | _ | _ | _ | ⟨hinfo', hfull', hinside'⟩ := hb
      cases hinfo.symm.trans hinfo'
      rw [Value.nesting] at hdepth
      obtain ⟨m, rfl⟩ : ∃ m, depth = m + 1 := ⟨depth - 1, by omega⟩
      have hlength : fields.length = (info.members.components.map Component.name).length := by
        rw [List.length_map, hfull]
      have hlength' : fields'.length = (info.members.components.map Component.name).length := by
        rw [List.length_map, hfull']
      -- each component is read off at its own position on both sides
      have hcompare : ∀ (i : Nat) (name : Symbol) (w w' : Value),
          (info.members.components.map Component.name)[i]? = some name → fields[i]? = some w →
          fields'[i]? = some w' → (do
            let left ← r.read (.record ty fields) name
            let right ← r.read (.record ty fields') name
            r.equals m left right) = .done (some (decide (w = w'))) := by
        intro i name w w' hname hw hw'
        have hmem : w ∈ fields := List.mem_of_getElem? hw
        have hwithin : w.nesting ≤ Value.nestingAll fields := Value.nesting_le_nestingAll hmem
        rw [h.read_eq_field hstructural hinfo hname hw, h.read_eq_field hstructural hinfo hname hw',
          Dialogue.done_bind, Dialogue.done_bind]
        exact ih w hmem (hinside' w' (List.mem_of_getElem? hw')) (by omega)
      rw [equals_eq, if_neg (not_not_intro htype), h.equality?_eq hstructural.synthesized hinfo]
      simp only [Run.allEqual_eq_done hlength hlength' hcompare, Value.record.injEq, true_and]
    · exact equals_eq_decide_of_undeclared (.inr htype)
  | _ => exact fun _ _ => equals_eq_decide_of_undeclared (.inl rfl)

/-- **Hashing a complete value** asks nobody. -/
theorem Coherent.exists_hash_eq_done (h : r.Coherent) (hstructural : r.Structural) {a : Value}
    (ha : r.Complete a) : ∀ {depth : Nat}, a.nesting ≤ depth →
      ∃ code, r.hash depth a = .done (some code) := by
  induction ha with
  | @record ty info fields hinfo hfull _ ih =>
    intro depth hdepth
    rw [Value.nesting] at hdepth
    obtain ⟨m, rfl⟩ : ∃ m, depth = m + 1 := ⟨depth - 1, by omega⟩
    rw [hash_eq, h.equality?_eq hstructural.synthesized hinfo]
    refine Run.foldHash_eq_done (fun name hname => ?_) _
    obtain ⟨i, hi⟩ := List.getElem?_of_mem hname
    have hlt : i < fields.length := by
      have hi' := (List.getElem?_eq_some_iff.mp hi).1
      rwa [List.length_map, ← hfull] at hi'
    rw [h.read_eq_field hstructural hinfo hi (List.getElem?_eq_getElem hlt), Dialogue.done_bind]
    have hwithin := Value.nesting_le_nestingAll (List.getElem_mem hlt)
    exact ih fields[i] (List.getElem_mem hlt) (by omega)
  | _ => exact fun _ => ⟨_, hash_eq ..⟩

/-- **Equality is a matter of representation** where nothing else was asked
for. Take a reachable registry in which equality and hashing are synthesized
for all records, and no getter with a body stands in the place of a component;
methods, and properties without a body, may. Then two complete values compare
as they are built, and each has one hash, at every depth that is at least the
nesting of the value, and in neither case is the host asked for anything. -/
theorem comparison_is_representational (hreachable : r.Reachable) (hstructural : r.Structural)
    {a b : Value} (ha : r.Complete a) (hb : r.Complete b) :
    (∀ depth, a.nesting ≤ depth → r.equals depth a b = .done (some (decide (a = b))))
      ∧ ∃ code, ∀ depth, a.nesting ≤ depth → r.hash depth a = .done (some code) := by
  have h := hreachable.coherent
  obtain ⟨code, hcode⟩ := h.exists_hash_eq_done hstructural ha (Nat.le_refl a.nesting)
  refine ⟨fun depth hdepth => h.equals_eq_decide hstructural ha hb hdepth, code, ?_⟩
  intro depth hdepth
  have happroximates := r.hash_approximates hdepth a
  rw [hcode] at happroximates
  exact happroximates.eq_done

end Registry

/-- A record with a method in the place of its only component, and one with a
property without a body in the place of its first. -/
def shelves : Registry := .after .empty
  [ .introduce .record "Book" .object,
    .declare ⟨⟨4⟩, .nominal 0, [⟨⟨5⟩, .int, false, .generated⟩],
      [⟨⟨5⟩, .method, some ⟨0⟩, .generated⟩], .generated⟩,
    .introduce .record "Shelf" .object,
    .declare ⟨⟨6⟩, .nominal 1,
      [⟨⟨7⟩, .nominal 0, false, .generated⟩, ⟨⟨8⟩, .text, false, .generated⟩],
      [⟨⟨7⟩, .property (.nominal 0), none, .generated⟩], .generated⟩ ]

/-- A shelf with one book and no label. -/
def shelf (number : Int64) : Value :=
  .record (.nominal 1) [.record (.nominal 0) [.int number], .null]

/-- Shelves differ if their books do. -/
theorem comparison_is_representational_shelves :
    shelves.Reachable ∧ shelves.Structural ∧ (∀ number, shelves.Complete (shelf number))
      ∧ shelves.equals 2 (shelf 1) (shelf 1) = .done (some true)
      ∧ shelves.equals 2 (shelf 1) (shelf 2) = .done (some false)
      ∧ ∃ code, ∀ depth, 2 ≤ depth → shelves.hash depth (shelf 1) = .done (some code) := by
  have hreachable : shelves.Reachable := ⟨_, rfl⟩
  have hstructural : shelves.Structural := ⟨by decide, by decide⟩
  have hcomplete : ∀ number, shelves.Complete (shelf number) := by
    intro number
    have hbook : shelves.Complete (.record (.nominal 0) [.int number]) :=
      .record rfl rfl (by simp [Registry.Complete.int])
    exact .record rfl rfl (by simp [hbook, Registry.Complete.null])
  obtain ⟨hsame, hhash⟩ := Registry.comparison_is_representational hreachable hstructural
    (hcomplete 1) (hcomplete 1)
  obtain ⟨hother, -⟩ := Registry.comparison_is_representational hreachable hstructural
    (hcomplete 1) (hcomplete 2)
  have hnesting : (shelf 1).nesting ≤ 2 := by decide
  exact ⟨hreachable, hstructural, hcomplete, hsame 2 hnesting, hother 2 hnesting, hhash⟩

end RecordPatterns
