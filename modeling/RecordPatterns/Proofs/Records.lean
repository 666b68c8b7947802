/-
What is known about a declared record.

When a declaration is accepted, what follows from it is worked out once and
kept: the member table, the equality and the deconstructors. Everything else is
answered from what is kept, so it had better be what would be worked out now,
after any number of further edits. `Registry.Knows` lists what can be relied on,
and `Reachable.knows` is that it can.

Working things out looks at two names, those of the members that stand in for a
synthesized equality. They are looked for as symbols, whereas an author wrote
texts. That this is the same is a matter of the symbol table, which interns more
and more texts meanwhile: it began with the two, and no text is interned twice
(`SymbolTable.Seeded`).
-/
import Mathlib.Data.List.Forall2
import RecordPatterns.Proofs.Growth

set_option autoImplicit false

namespace RecordPatterns

/-! ## The symbols of a history -/

/-- The table began with the texts that every run begins with, and repeats
none. -/
structure SymbolTable.Seeded (t : SymbolTable) : Prop where
  fresh : SymbolTable.fresh.Extends t
  distinct : t.Distinct

/-- The table that every run begins with. -/
theorem SymbolTable.seeded_fresh : fresh.Seeded where
  fresh := .refl fresh
  distinct := by
    rw [Distinct]
    decide

/-- Interning keeps both. -/
theorem SymbolTable.Seeded.intern {t : SymbolTable} (h : t.Seeded) (s : String) :
    (t.intern s).2.Seeded where
  fresh := h.fresh.trans (t.extends_intern s)
  distinct := h.distinct.intern s

/-- **The symbols that are set aside** stand for their texts as long as a table
grows, and no other symbol does. -/
theorem SymbolTable.Seeded.text_eq_iff {t : SymbolTable} (h : t.Seeded) {position : Nat}
    {text : String} (htext : SymbolTable.fresh.texts[position]? = some text) (hne : text ≠ "")
    {s : Symbol} : t.text s = text ↔ s = ⟨position⟩ :=
  h.distinct.text_eq_iff (h.fresh position text htext) hne

namespace Registry

variable {r : Registry}

/-- **The step.** Two kinds of edits intern a text, and the others leave the
symbols alone. -/
theorem seeded_apply (h : r.symbols.Seeded) (e : Edit) : (r.apply e).symbols.Seeded := by
  cases e with
  | introduce kind name base => exact h.intern name
  | declare d =>
    rw [apply]
    cases hd : r.declare d with
    | error e => exact h
    | ok result =>
      obtain ⟨info, next⟩ := result
      obtain ⟨-, -, -, -, rfl⟩ := declare_eq_ok hd
      exact h
  | add owner members => exact h
  | intern text => exact h.intern text

/-- **The run.** -/
theorem seeded_after (edits : List Edit) (h : r.symbols.Seeded) :
    (r.after edits).symbols.Seeded := by
  induction edits generalizing r with
  | nil => exact h
  | cons e rest ih => exact ih (seeded_apply h e)

/-- The symbols of every reachable registry. -/
theorem Reachable.seeded (h : r.Reachable) : r.symbols.Seeded := by
  obtain ⟨edits, rfl⟩ := h
  exact seeded_after edits SymbolTable.seeded_fresh

end Registry

/-! ## Written deconstructors -/

/-- Members declare their deconstructors in order, and those that are none
declare nothing. -/
theorem Deconstructor.forall₂_filterMap_ofMember? (owner : TypeId) (members : List Member) :
    List.Forall₂ (fun m d => DeclaredBy owner m d) (members.filter Member.isDeconstructor)
      (members.filterMap (ofMember? owner)) := by
  induction members with
  | nil => exact .nil
  | cons m rest ih =>
    rw [List.filter_cons, List.filterMap_cons]
    cases hm : m.isDeconstructor with
    | false =>
      rw [if_neg Bool.false_ne_true, ofMember?_eq_none hm]
      exact ih
    | true =>
      rw [if_pos rfl]
      cases hd : ofMember? owner m with
      | some d => exact .cons (ofMember?_eq_some_iff.mp hd) ih
      | none =>
        -- a member that is one does declare one
        rw [Member.isDeconstructor] at hm
        rw [ofMember?] at hd
        cases hkind : m.kind <;> simp [hkind] at hm hd

/-- If any written member is a deconstructor, the written ones are all there
are. -/
theorem Declaration.forall₂_deconstructors {d : Declaration}
    (h : ∃ m ∈ d.members, m.isDeconstructor = true) :
    List.Forall₂ (fun m x => Deconstructor.DeclaredBy d.type m x)
      (d.members.filter Member.isDeconstructor) d.deconstructors := by
  have hwritten := Deconstructor.forall₂_filterMap_ofMember? d.type d.members
  rw [deconstructors]
  cases hdeclared : d.members.filterMap (Deconstructor.ofMember? d.type) with
  | cons first rest =>
    rw [hdeclared] at hwritten
    exact hwritten
  | nil =>
    rw [hdeclared, List.forall₂_nil_right_iff, List.filter_eq_nil_iff] at hwritten
    obtain ⟨m, hm, hdeconstructor⟩ := h
    exact absurd hdeconstructor (hwritten m hm)

/-- All deconstructors of a declaration belong to the type declared. -/
theorem Declaration.owner_of_mem_deconstructors {d : Declaration} {x : Deconstructor}
    (hx : x ∈ d.deconstructors) : x.owner = d.type := by
  rw [deconstructors] at hx
  cases hdeclared : d.members.filterMap (Deconstructor.ofMember? d.type) with
  | nil =>
    rw [hdeclared, List.mem_singleton] at hx
    rw [hx, Deconstructor.positional]
  | cons first rest =>
    rw [hdeclared] at hx
    simp only [← hdeclared, List.mem_filterMap] at hx
    obtain ⟨m, -, hm⟩ := hx
    exact (Deconstructor.ofMember?_eq_some_iff.mp hm).owner

namespace Registry

variable {r : Registry} {ty : TypeId} {info : RecordInfo}

/-! ## All that is known -/

/-- What holds of all that a registry knows about a record of some type. -/
structure Knows (r : Registry) (ty : TypeId) (info : RecordInfo) : Prop where
  isRecord : r.types.isRecord ty = true
  type_eq : info.declaration.type = ty
  /-- The components have different names. -/
  distinct : (info.declaration.components.map Component.name).Nodup
  immutable : ∀ c ∈ info.declaration.components, c.isMutable = false
  /-- Working the declaration out again, with the symbols that there are now,
  gives what is known. -/
  members : MemberTable.ofDeclaration r.symbols info.declaration = .ok info.members
  equality : info.declaration.equality = info.equality
  deconstructors : info.declaration.deconstructors = info.deconstructors
  /-- The deconstructors are the written ones in their order, if there are
  any. -/
  written : (∃ m ∈ info.declaration.members, m.isDeconstructor = true) →
    List.Forall₂ (fun m d => Deconstructor.DeclaredBy ty m d)
      (info.declaration.members.filter Member.isDeconstructor) info.deconstructors
  /-- Otherwise there is one, which reads the components in their order. -/
  positional : (∀ m ∈ info.declaration.members, m.isDeconstructor = false) →
    info.deconstructors = [{
      owner := ty
      subject := ty
      outputs := info.declaration.components.map Component.type
      origin := .synthesized (info.declaration.components.map Component.name)
      span := info.declaration.span }]
  /-- Equality is synthesized exactly if no written member has one of the two
  names. -/
  synthesized : info.equality.isSynthesized = true ↔ ∀ m ∈ info.declaration.members,
    r.symbols.text m.name ≠ "equals" ∧ r.symbols.text m.name ≠ "hash"
  /-- It then goes by all components, in their order. -/
  memberwise : info.equality.isSynthesized = true →
    info.equality = .memberwise (info.declaration.components.map Component.name)

/-- Every deconstructor of a type belongs to it, be it the type's own or added
from outside. -/
theorem Coherent.owner_eq (h : r.Coherent) {d : Deconstructor} (hd : d ∈ r.deconstructors ty) :
    d.owner = ty := by
  rw [deconstructors, List.mem_append] at hd
  obtain hown | hadded := hd
  · cases hinfo : r.info? ty with
    | none => simp [hinfo] at hown
    | some info =>
      obtain ⟨-, hty, -, hderived⟩ := h.info?_spec hinfo
      rw [hinfo, hderived] at hown
      exact (Declaration.owner_of_mem_deconstructors hown).trans hty
  · simpa using (List.mem_filter.mp hadded).2

/-- A synthesized deconstructor reads one member for each output. -/
theorem Coherent.length_eq_of_synthesized (h : r.Coherent) {d : Deconstructor}
    (hd : d ∈ r.deconstructors ty) {names : List Symbol} (horigin : d.origin = .synthesized names) :
    names.length = d.outputs.length := by
  have hsynthesized : d.isSynthesized = true := by rw [Deconstructor.isSynthesized, horigin]
  obtain ⟨info, -, rfl⟩ := h.eq_positional_of_isSynthesized hd hsynthesized
  cases horigin
  rw [Deconstructor.positional, List.length_map, List.length_map]

/-- **What a reachable registry knows about a record** can be relied on. All of
it comes down to the record following from its declaration (`Coherent`), and to
names being found as symbols (`Seeded`). -/
theorem Reachable.knows (h : r.Reachable) (hinfo : r.info? ty = some info) : r.Knows ty info := by
  obtain ⟨hrecord, hty, hproper, hderived⟩ := h.coherent.info?_spec hinfo
  obtain ⟨d, rfl⟩ : ∃ d, info = .of d := ⟨info.declaration, hderived⟩
  have htype : d.type = ty := hty
  have hequals : ∀ s : Symbol, r.symbols.text s = "equals" ↔ s = .equals :=
    fun s => h.seeded.text_eq_iff rfl (by decide)
  have hhash : ∀ s : Symbol, r.symbols.text s = "hash" ↔ s = .hash :=
    fun s => h.seeded.text_eq_iff rfl (by decide)
  exact {
    isRecord := hrecord
    type_eq := htype
    distinct := hproper.1
    immutable := hproper.2
    members := (MemberTable.ofDeclaration_eq_ok_iff r.symbols d (.of d)).mpr ⟨hproper, rfl⟩
    equality := rfl
    deconstructors := rfl
    written := fun hwritten => htype ▸ Declaration.forall₂_deconstructors hwritten
    positional := fun hnone => by
      rw [← htype]
      exact Declaration.deconstructors_eq_positional hnone
    synthesized := by
      simp only [ne_eq, hequals, hhash]
      exact Declaration.isSynthesized_equality_iff
    memberwise := Declaration.equality_eq_of_isSynthesized }

/-- **What is kept is what would be worked out now.** In a registry that came
about by any edits, refused declarations among them: what is known about the
record of any type holds of it (`Knows`), and every deconstructor of any type,
the type's own or added from outside, belongs to that type and reads one member
for each output unless a user wrote it. -/
theorem knowledge_is_current (hreachable : r.Reachable) :
    (∀ (ty : TypeId) (info : RecordInfo), r.info? ty = some info → r.Knows ty info)
      ∧ ∀ (ty : TypeId) (d : Deconstructor), d ∈ r.deconstructors ty → d.owner = ty
        ∧ ∀ names, d.origin = .synthesized names → names.length = d.outputs.length := by
  have hcoherent := hreachable.coherent
  refine ⟨fun ty info hinfo => hreachable.knows hinfo, fun ty d hd => ?_⟩
  exact ⟨hcoherent.owner_eq hd, fun names => hcoherent.length_eq_of_synthesized hd⟩

end Registry

/-- Entries, to which a deconstructor was added before they were declared, which
hash themselves, without a body to do so, and which cannot be declared again. -/
def entries : Registry := .after .empty
  [ .introduce .record "Entry" .object,
    .add (.nominal 0) [⟨.deconstruct, .deconstructor .object [.int], some ⟨0⟩, .generated⟩],
    .intern "amount",
    .declare ⟨⟨4⟩, .nominal 0, [⟨⟨5⟩, .int, false, .generated⟩],
      [⟨.hash, .method, none, .generated⟩], .generated⟩,
    .declare ⟨⟨4⟩, .nominal 0, [], [], .generated⟩ ]

/-- Nothing about their equality is synthesized, and they have two
deconstructors, of which one reads the amount. -/
theorem knowledge_is_current_entries :
    entries.Reachable
      ∧ (∃ info, entries.info? (.nominal 0) = some info ∧ entries.Knows (.nominal 0) info
        ∧ info.equality = .written none none)
      ∧ ∃ own added, entries.deconstructors (.nominal 0) = [own, added]
        ∧ own.owner = .nominal 0 ∧ added.owner = .nominal 0
        ∧ own.origin = .synthesized [⟨5⟩] ∧ [Symbol.mk 5].length = own.outputs.length := by
  have hreachable : entries.Reachable := ⟨_, rfl⟩
  obtain ⟨hknows, howned⟩ := Registry.knowledge_is_current hreachable
  obtain ⟨info, hinfo, hequality⟩ : ∃ info, entries.info? (.nominal 0) = some info
      ∧ info.equality = .written none none := ⟨_, rfl, rfl⟩
  obtain ⟨own, added, hboth, horigin⟩ : ∃ own added,
      entries.deconstructors (.nominal 0) = [own, added] ∧ own.origin = .synthesized [⟨5⟩] :=
    ⟨_, _, rfl, rfl⟩
  have hown : own ∈ entries.deconstructors (.nominal 0) := by simp [hboth]
  have hadded : added ∈ entries.deconstructors (.nominal 0) := by simp [hboth]
  obtain ⟨howner, hlength⟩ := howned (.nominal 0) own hown
  refine ⟨hreachable, ⟨info, hinfo, hknows (.nominal 0) info hinfo, hequality⟩, ?_⟩
  exact ⟨own, added, hboth, howner, (howned (.nominal 0) added hadded).1, horigin,
    hlength [⟨5⟩] horigin⟩

end RecordPatterns
