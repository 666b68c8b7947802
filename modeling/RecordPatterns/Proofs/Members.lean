/-
What a declaration turns into.

Working out a declaration has two halves. One can fail: the components have to
have different names, and none may be mutable. The other cannot: once the
components are in order, the member table, the equality and the deconstructors
are functions of the declaration alone. `ofDeclaration_eq_ok_iff` keeps the two
apart, so that every later file can speak of *the* record of a declaration,
`RecordInfo.of`, and forget about symbols and errors.

The rest says what these are. `get?_of` says in one equation what a name stands
for: the first written member of that name if there is one, and otherwise the
component of that name. For the components of a proper declaration, whose
names differ, this comes down to positions (`get?_of_component`,
`position?_of_component`). Equality and the deconstructor are synthesized if no
written member stands in for them (`isSynthesized_equality_iff`,
`deconstructors_eq_positional`).
-/
import RecordPatterns.Registry.Basic

set_option autoImplicit false

namespace RecordPatterns

/-! ## Lists by name -/

section Lookup

variable {β : Type} {l : List (Symbol × β)} {name : Symbol}

/-- Nothing is found under a name exactly if no entry has it. -/
theorem lookup_name_eq_none_iff : l.lookup name = none ↔ name ∉ l.map Prod.fst := by
  simp only [List.lookup_eq_none_iff, List.mem_map, not_exists, not_and, bne_iff_ne]
  exact ⟨fun h b hb heq => h b hb heq.symm, fun h b hb heq => h b hb heq.symm⟩

/-- Where no name occurs twice, every entry is what is found under its name. -/
theorem lookup_name_eq_some_iff (hnodup : (l.map Prod.fst).Nodup) {b : β} :
    l.lookup name = some b ↔ (name, b) ∈ l := by
  constructor
  · intro h
    obtain ⟨before, after, rfl, -⟩ := List.lookup_eq_some_iff.mp h
    exact List.mem_append_right before List.mem_cons_self
  · intro h
    obtain ⟨before, after, rfl⟩ := List.append_of_mem h
    refine List.lookup_eq_some_iff.mpr ⟨before, after, rfl, fun other hother => ?_⟩
    rw [List.map_append, List.map_cons, List.nodup_append] at hnodup
    have hne : other.1 ≠ name :=
      hnodup.2.2 other.1 (List.mem_map_of_mem hother) name List.mem_cons_self
    simpa using hne.symm

end Lookup

/-! ## The record of a declaration -/

/-- The components have different names, and none is mutable. -/
def Declaration.Proper (d : Declaration) : Prop :=
  (d.components.map Component.name).Nodup ∧ ∀ c ∈ d.components, c.isMutable = false

/-- The member table of a declaration, its components taken to be in order. -/
def MemberTable.of (d : Declaration) : MemberTable where
  entries := (firstOfEachName d.members).map (fun m => (m.name, .written m))
    ++ accessors d.members d.components
  components := d.components

/-- All that follows from a declaration, its components taken to be in
order. -/
def RecordInfo.of (d : Declaration) : RecordInfo :=
  ⟨d, .of d, d.equality, d.deconstructors⟩

namespace MemberTable

/-- The check of the components finds nothing exactly if no component repeats
a name, whether of the earlier ones or of each other, and none is mutable. -/
theorem checkComponents_eq_ok_iff (symbols : SymbolTable) (record : Symbol)
    (components : List Component) : ∀ earlier : List Component,
    checkComponents symbols record earlier components = .ok () ↔
      (∀ c ∈ components, ∀ e ∈ earlier, e.name ≠ c.name)
        ∧ (components.map Component.name).Nodup ∧ ∀ c ∈ components, c.isMutable = false := by
  induction components with
  | nil => simp [checkComponents]
  | cons c rest ih =>
    intro earlier
    rw [checkComponents]
    cases hf : earlier.find? (·.name = c.name) with
    | some first =>
      have hmem := List.mem_of_find?_eq_some hf
      have hname := List.find?_some hf
      simp only [decide_eq_true_eq] at hname
      simp only [reduceCtorEq, List.mem_cons, forall_eq_or_imp, false_iff, not_and]
      rintro ⟨hnew, -⟩
      exact absurd hname (hnew first hmem)
    | none =>
      simp only [List.find?_eq_none, decide_eq_true_eq] at hf
      cases hm : c.isMutable with
      | true => simp [hm]
      | false =>
        -- the component joins those that the later ones are compared with
        simp only [Bool.false_eq_true, if_false]
        rw [ih]
        simp only [List.mem_append, List.mem_cons, List.not_mem_nil, or_false, forall_eq_or_imp,
          List.map_cons, List.nodup_cons, List.mem_map, hm, true_and]
        constructor
        · rintro ⟨hnew, hnodup, hconst⟩
          refine ⟨⟨hf, fun d hd e he => hnew d hd e (.inl he)⟩, ⟨?_, hnodup⟩, hconst⟩
          rintro ⟨d, hd, heq⟩
          exact hnew d hd c (.inr rfl) heq.symm
        · rintro ⟨⟨-, hnew⟩, ⟨hfresh, hnodup⟩, hconst⟩
          refine ⟨?_, hnodup, hconst⟩
          rintro d hd e (he | rfl)
          · exact hnew d hd e he
          · exact fun heq => hfresh ⟨d, hd, heq.symm⟩

/-- Making the table succeeds for proper declarations only, and there is no
choice in what it makes. -/
theorem ofDeclaration_eq_ok_iff (symbols : SymbolTable) (d : Declaration) (t : MemberTable) :
    ofDeclaration symbols d = .ok t ↔ d.Proper ∧ t = .of d := by
  have hcheck := checkComponents_eq_ok_iff symbols d.name d.components []
  rw [ofDeclaration]
  cases h : checkComponents symbols d.name [] d.components with
  | error e =>
    rw [h] at hcheck
    have himproper : ¬ d.Proper := fun hp => by simpa using hcheck.mpr ⟨by simp, hp⟩
    simp [himproper, bind, Except.bind]
  | ok u =>
    rw [h] at hcheck
    have hproper : d.Proper := (hcheck.mp rfl).2
    simp only [bind, Except.bind, pure, Except.pure, Except.ok.injEq, hproper, true_and]
    exact eq_comm

/-! ## What a name stands for -/

/-- Listing members once for each name keeps the first one of every name. -/
theorem find?_firstOfEachName (name : Symbol) (members : List Member) :
    (firstOfEachName members).find? (·.name = name) = members.find? (·.name = name) := by
  induction members with
  | nil => rfl
  | cons m rest ih =>
    rw [firstOfEachName, List.find?_cons, List.find?_cons]
    by_cases hm : m.name = name
    · simp [hm]
    · -- what is left out has the name of this member, and is not looked for
      have hkept : ∀ other : Member,
          (other.name ≠ m.name ∧ other.name = name) ↔ other.name = name :=
        fun other => and_iff_right_of_imp fun hother heq => hm (heq.symm.trans hother)
      simp only [hm, decide_false, List.find?_filter, decide_eq_true_eq, hkept, ih]

/-- What is found under a name among written members is the first that was
declared with it. -/
theorem lookup_written (name : Symbol) (members : List Member) :
    (members.map fun m => (m.name, EffectiveMember.written m)).lookup name
      = (members.find? (·.name = name)).map .written := by
  induction members with
  | nil => rfl
  | cons m rest ih =>
    rw [List.map_cons, List.lookup_cons, List.find?_cons]
    by_cases hm : m.name = name
    · simp [hm]
    · have hbeq : (name == m.name) = false := by simpa using Ne.symm hm
      rw [hbeq, ih]
      simp [hm]

/-- Where no written member has a name, what is found under it among the
accessors is that of the component with the name. -/
theorem lookup_accessors {name : Symbol} {members : List Member}
    (hfree : members.find? (·.name = name) = none) (components : List Component) :
    (accessors members components).lookup name
      = (components.zipIdx.find? (·.1.name = name)).map fun (c, position) =>
          .accessor position c.type := by
  rw [accessors]
  -- the positions are carried along and nothing is asked about them
  generalize components.zipIdx = positioned
  induction positioned with
  | nil => rfl
  | cons first rest ih =>
    obtain ⟨c, position⟩ := first
    rw [List.filterMap_cons, List.find?_cons]
    by_cases hc : c.name = name
    · have hshown : members.any (·.name = name) = false := by
        simpa [List.find?_eq_none] using hfree
      simp only [hc, hshown, Bool.false_eq_true, if_false, List.lookup_cons, beq_self_eq_true,
        decide_true, Option.map_some]
    · have hbeq : (name == c.name) = false := by simpa using Ne.symm hc
      simp only [hc, decide_false]
      cases hshown : members.any (·.name = c.name) with
      | true =>
        rw [if_pos rfl]
        exact ih
      | false =>
        rw [if_neg Bool.false_ne_true, List.lookup_cons, hbeq]
        exact ih

/-- **What a name stands for**: the first written member with it, or else the
component with it, by its position. -/
theorem get?_of (d : Declaration) (name : Symbol) :
    (of d).get? name = match d.members.find? (·.name = name) with
      | some m => some (.written m)
      | none => (d.components.zipIdx.find? (·.1.name = name)).map fun (c, position) =>
          .accessor position c.type := by
  rw [get?, of, List.lookup_append, lookup_written, find?_firstOfEachName]
  cases hm : d.members.find? (·.name = name) with
  | some m => rfl
  | none => simp only [Option.map_none, Option.none_or, lookup_accessors hm]

end MemberTable

/-- Among the components of a proper declaration, a name occurs at one
position only. -/
theorem Declaration.Proper.position_inj {d : Declaration} (h : d.Proper) {i j : Nat}
    {a b : Component} (hi : d.components[i]? = some a) (hj : d.components[j]? = some b)
    (hname : a.name = b.name) : i = j := by
  have hi' : (d.components.map Component.name)[i]? = some a.name := by
    rw [List.getElem?_map, hi, Option.map_some]
  have hj' : (d.components.map Component.name)[j]? = some a.name := by
    rw [List.getElem?_map, hj, Option.map_some, hname]
  have hlt : i < (d.components.map Component.name).length :=
    (List.getElem?_eq_some_iff.mp hi').1
  exact (List.getElem?_inj hlt h.1).mp (hi'.trans hj'.symm)

namespace MemberTable

/-- The accessor of a component that no written member hides. -/
theorem get?_of_component {d : Declaration} (h : d.Proper) {i : Nat} {c : Component}
    (hc : d.components[i]? = some c) (hfree : d.members.find? (·.name = c.name) = none) :
    (of d).get? c.name = some (.accessor i c.type) := by
  rw [get?_of, hfree]
  cases hf : d.components.zipIdx.find? (·.1.name = c.name) with
  | none =>
    have hmem : (c, i) ∈ d.components.zipIdx := List.mk_mem_zipIdx_iff_getElem?.mpr hc
    simpa using List.find?_eq_none.mp hf (c, i) hmem
  | some found =>
    obtain ⟨c', j⟩ := found
    have hname := List.find?_some hf
    have hj : d.components[j]? = some c' :=
      List.mk_mem_zipIdx_iff_getElem?.mp (List.mem_of_find?_eq_some hf)
    simp only [decide_eq_true_eq] at hname
    obtain rfl := h.position_inj hj hc hname
    rw [hc, Option.some.injEq] at hj
    rw [hj, Option.map_some]

/-- The position of a component, hidden or not. -/
theorem position?_of_component {d : Declaration} (h : d.Proper) {i : Nat} {c : Component}
    (hc : d.components[i]? = some c) : (of d).position? c.name = some i := by
  rw [position?, of, List.findIdx?_eq_some_iff_getElem]
  obtain ⟨hlt, hget⟩ := List.getElem?_eq_some_iff.mp hc
  refine ⟨hlt, by simp [hget], fun j hj => ?_⟩
  simp only [decide_eq_true_eq]
  intro hname
  exact absurd (h.position_inj (List.getElem?_eq_getElem (by omega)) hc hname) (by omega)

/-- Whatever stands for a name that no written member has is the accessor of a
component with that name. -/
theorem component_of_get? {d : Declaration} {name : Symbol} {e : EffectiveMember}
    (hfree : d.members.find? (·.name = name) = none) (he : (of d).get? name = some e) :
    ∃ i c, d.components[i]? = some c ∧ c.name = name ∧ e = .accessor i c.type := by
  rw [get?_of, hfree] at he
  simp only [Option.map_eq_some_iff] at he
  obtain ⟨⟨c, i⟩, hf, rfl⟩ := he
  have hname := List.find?_some hf
  simp only [decide_eq_true_eq] at hname
  exact ⟨i, c, List.mk_mem_zipIdx_iff_getElem?.mp (List.mem_of_find?_eq_some hf), hname, rfl⟩

end MemberTable

/-- Working out a declaration succeeds for proper ones only, and there is no
choice in what follows from one. -/
theorem RecordInfo.ofDeclaration_eq_ok_iff (symbols : SymbolTable) (d : Declaration)
    (info : RecordInfo) : ofDeclaration symbols d = .ok info ↔ d.Proper ∧ info = .of d := by
  have htable := MemberTable.ofDeclaration_eq_ok_iff symbols d
  rw [ofDeclaration]
  cases h : MemberTable.ofDeclaration symbols d with
  | error e =>
    have himproper : ¬ d.Proper := fun hp => by
      simpa [h] using (htable (.of d)).mpr ⟨hp, rfl⟩
    simp [himproper, bind, Except.bind]
  | ok t =>
    obtain ⟨hproper, rfl⟩ := (htable t).mp h
    simp only [bind, Except.bind, pure, Except.pure, Except.ok.injEq, hproper, true_and]
    exact eq_comm

/-! ## Equality and deconstructors -/

namespace Declaration

/-- There is no first member of a name exactly if no member has it. -/
theorem head?_membersNamed_eq_none_iff {d : Declaration} {name : Symbol} :
    (d.membersNamed name).head? = none ↔ ∀ m ∈ d.members, m.name ≠ name := by
  rw [List.head?_eq_none_iff, membersNamed, List.filter_eq_nil_iff]
  simp

/-- **When equality is synthesized**: if no written member, of whatever kind,
has the name of either half. -/
theorem isSynthesized_equality_iff {d : Declaration} :
    d.equality.isSynthesized = true ↔ ∀ m ∈ d.members, m.name ≠ .equals ∧ m.name ≠ .hash := by
  simp only [forall_and, ← head?_membersNamed_eq_none_iff]
  rw [equality]
  cases (d.membersNamed .equals).head? with
  | some written => simp [Equality.isSynthesized]
  | none =>
    cases (d.membersNamed .hash).head? with
    | some written => simp [Equality.isSynthesized]
    | none => simp [Equality.isSynthesized]

/-- An equality that nobody wrote goes by the components. -/
theorem equality_eq_of_isSynthesized {d : Declaration}
    (h : d.equality.isSynthesized = true) :
    d.equality = .memberwise (d.components.map Component.name) := by
  rw [isSynthesized_equality_iff] at h
  have hequals : (d.membersNamed .equals).head? = none :=
    head?_membersNamed_eq_none_iff.mpr fun m hm => (h m hm).1
  have hhash : (d.membersNamed .hash).head? = none :=
    head?_membersNamed_eq_none_iff.mpr fun m hm => (h m hm).2
  rw [equality, hequals, hhash]

end Declaration

namespace Deconstructor

/-- A written member declares a deconstructor for some owner: one that has the
subject, the outputs, the body and the place that were written. -/
structure DeclaredBy (owner : TypeId) (m : Member) (d : Deconstructor) : Prop where
  kind : m.kind = .deconstructor d.subject d.outputs
  owner : d.owner = owner
  origin : d.origin = .written m.body
  span : d.span = m.span

/-- What a member declares, if anything. -/
theorem ofMember?_eq_some_iff {owner : TypeId} {m : Member} {d : Deconstructor} :
    ofMember? owner m = some d ↔ d.DeclaredBy owner m := by
  rw [ofMember?]
  constructor
  · intro h
    cases hkind : m.kind with
    | deconstructor subject outputs =>
      simp only [hkind, Option.some.injEq] at h
      subst h
      exact ⟨hkind, rfl, rfl, rfl⟩
    | _ => simp [hkind] at h
  · rintro ⟨hkind, rfl, horigin, hspan⟩
    rw [hkind, ← horigin, ← hspan]

/-- A member that is no deconstructor declares none. -/
theorem ofMember?_eq_none {owner : TypeId} {m : Member} (h : m.isDeconstructor = false) :
    ofMember? owner m = none := by
  rw [Member.isDeconstructor] at h
  rw [ofMember?]
  cases hk : m.kind with
  | deconstructor subject outputs =>
    rw [hk] at h
    exact absurd h.symm Bool.false_ne_true
  | _ => rfl

end Deconstructor

/-- **When a deconstructor is synthesized**: if no written member is one. Then
it is the only one. -/
theorem Declaration.deconstructors_eq_positional {d : Declaration}
    (h : ∀ m ∈ d.members, m.isDeconstructor = false) : d.deconstructors = [.positional d] := by
  have hnone : d.members.filterMap (Deconstructor.ofMember? d.type) = [] := by
    rw [List.filterMap_eq_nil_iff]
    exact fun m hm => Deconstructor.ofMember?_eq_none (h m hm)
  rw [deconstructors, hnone]

/-- The body that is run when a name is read, if the name stands for a written
property that has one. -/
def RecordInfo.getter? (info : RecordInfo) (name : Symbol) : Option BodyHandle :=
  match info.members.get? name with
  | some (.written ⟨_, .property _, body, _⟩) => body
  | _ => none

end RecordPatterns
