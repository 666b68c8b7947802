/-
Presence decides.

Whether the author of a record has written a member of some name decides what the name
stands for, and nothing else about that member does. If there is one, the name stands
for the first one. If there is none, and a component has the name, it stands for an
accessor of that component. No other name stands for anything, and the components stay
what they were declared to be, hidden or not (`MemberTable.ByPresence`).

There is such a table unless a component offends. There may be several that do, and in
two ways each, but the error is about the first that does (`Declaration.OffendsWith`).
Up to there all names differ, so that there is no doubt which component has had a name
before.

The check of the components carries those it has been through. The invariant of the
induction is that these are the first ones of the declaration, and that none of them
offends (`MemberTable.offendsWith_of_checkComponents`).
-/
import RecordPatterns.Proofs.Members

set_option autoImplicit false

namespace RecordPatterns

/-! ## Components that offend -/

namespace Declaration

/-- The component at some position is mutable, or has the name of one before it. -/
def Offends (d : Declaration) (i : Nat) : Prop :=
  ∃ c, d.components[i]? = some c
    ∧ (c.isMutable = true ∨ ∃ first ∈ d.components.take i, first.name = c.name)

/-- The error about a component that offends. That its name is not new comes first,
even if it is mutable as well. -/
inductive OffendsWith (d : Declaration) (symbols : SymbolTable) (i : Nat) : DeclarationError → Prop
  | repeated {c first : Component} (here : d.components[i]? = some c)
      (before : first ∈ d.components.take i) (same : first.name = c.name) :
      d.OffendsWith symbols i
        (.duplicateComponent (symbols.text d.name) (symbols.text c.name) first.span c.span)
  | unfixed {c : Component} (here : d.components[i]? = some c) (isMutable : c.isMutable = true)
      (new : ∀ first ∈ d.components.take i, first.name ≠ c.name) :
      d.OffendsWith symbols i (.mutableComponent (symbols.text d.name) (symbols.text c.name) c.span)

variable {d : Declaration} {symbols : SymbolTable} {i : Nat} {e e' : DeclarationError}

/-- There is an error about a component exactly if it offends. -/
theorem exists_offendsWith_iff : (∃ e, d.OffendsWith symbols i e) ↔ d.Offends i := by
  constructor
  · rintro ⟨_, ⟨here, before, same⟩ | ⟨here, isMutable, -⟩⟩
    · exact ⟨_, here, .inr ⟨_, before, same⟩⟩
    · exact ⟨_, here, .inl isMutable⟩
  · rintro ⟨c, here, hoffends⟩
    by_cases hrepeated : ∃ first ∈ d.components.take i, first.name = c.name
    · obtain ⟨first, before, same⟩ := hrepeated
      exact ⟨_, .repeated here before same⟩
    · have hnew : ∀ first ∈ d.components.take i, first.name ≠ c.name :=
        fun first before same => hrepeated ⟨first, before, same⟩
      exact ⟨_, .unfixed here (hoffends.resolve_right hrepeated) hnew⟩

/-- With a component that offends, the components are not in order. -/
theorem Offends.not_proper (h : d.Offends i) : ¬ d.Proper := by
  intro hproper
  obtain ⟨c, here, hmutable | ⟨first, before, same⟩⟩ := h
  · rw [hproper.2 c (List.mem_of_getElem? here)] at hmutable
    cases hmutable
  · obtain ⟨j, hj, rfl⟩ := List.mem_take_iff_getElem.mp before
    have hsame := hproper.position_inj (List.getElem?_eq_getElem (by omega)) here same
    omega

/-- Before the first component that offends, no name occurs twice. -/
theorem eq_of_name_eq (hbefore : ∀ j < i, ¬ d.Offends j) {a b : Component}
    (ha : a ∈ d.components.take i) (hb : b ∈ d.components.take i) (hname : a.name = b.name) :
    a = b := by
  obtain ⟨j, hj, rfl⟩ := List.mem_take_iff_getElem.mp ha
  obtain ⟨k, hk, rfl⟩ := List.mem_take_iff_getElem.mp hb
  rcases Nat.lt_trichotomy j k with hlt | rfl | hlt
  · refine absurd ⟨_, List.getElem?_eq_getElem (by omega), .inr ⟨_, ?_, hname⟩⟩
      (hbefore k (by omega))
    exact List.mem_take_iff_getElem.mpr ⟨j, by omega, rfl⟩
  · rfl
  · refine absurd ⟨_, List.getElem?_eq_getElem (by omega), .inr ⟨_, ?_, hname.symm⟩⟩
      (hbefore j (by omega))
    exact List.mem_take_iff_getElem.mpr ⟨k, by omega, rfl⟩

/-- So there is one error about the first component that offends. -/
theorem OffendsWith.unique (hbefore : ∀ j < i, ¬ d.Offends j) (h : d.OffendsWith symbols i e)
    (h' : d.OffendsWith symbols i e') : e = e' := by
  obtain ⟨here, before, same⟩ | ⟨here, isMutable, new⟩ := h
  · obtain ⟨here', before', same'⟩ | ⟨here', -, new'⟩ := h'
    · obtain rfl := Option.some.inj (here.symm.trans here')
      rw [eq_of_name_eq hbefore before before' (same.trans same'.symm)]
    · obtain rfl := Option.some.inj (here.symm.trans here')
      exact absurd same (new' _ before)
  · obtain ⟨here', before', same'⟩ | ⟨here', -, -⟩ := h'
    · obtain rfl := Option.some.inj (here.symm.trans here')
      exact absurd same' (new _ before')
    · obtain rfl := Option.some.inj (here.symm.trans here')
      rfl

end Declaration

namespace MemberTable

variable {d : Declaration} {symbols : SymbolTable} {e : DeclarationError}

/-- **The check** of the components that are left fails with the error about the first
component that offends, if none of those before it does. -/
theorem offendsWith_of_checkComponents (rest : List Component) : ∀ earlier : List Component,
    d.components = earlier ++ rest → (∀ j < earlier.length, ¬ d.Offends j) →
    checkComponents symbols d.name earlier rest = .error e →
      ∃ i, (∀ j < i, ¬ d.Offends j) ∧ d.OffendsWith symbols i e := by
  induction rest with
  | nil =>
    intro earlier _ _ h
    cases h
  | cons c rest ih =>
    intro earlier hsplit hbefore h
    have hhere : d.components[earlier.length]? = some c := by simp [hsplit]
    have htake : d.components.take earlier.length = earlier := by simp [hsplit]
    rw [checkComponents] at h
    cases hfound : earlier.find? (·.name = c.name) with
    | some first =>
      simp only [hfound, Except.error.injEq] at h
      have hname : first.name = c.name := by simpa using List.find?_some hfound
      have hmem : first ∈ d.components.take earlier.length :=
        htake.symm ▸ List.mem_of_find?_eq_some hfound
      exact ⟨earlier.length, hbefore, h ▸ .repeated hhere hmem hname⟩
    | none =>
      simp only [hfound] at h
      have hnew : ∀ first ∈ d.components.take earlier.length, first.name ≠ c.name := by
        rw [htake]
        simpa using hfound
      by_cases hmutable : c.isMutable = true
      · rw [if_pos hmutable, Except.error.injEq] at h
        exact ⟨earlier.length, hbefore, h ▸ .unfixed hhere hmutable hnew⟩
      · rw [if_neg hmutable] at h
        refine ih (earlier ++ [c]) (by simp [hsplit]) (fun j hj hoffends => ?_) h
        rw [List.length_append, List.length_singleton] at hj
        by_cases hlast : j = earlier.length
        · obtain ⟨c', hhere', hoffence⟩ := hoffends
          rw [hlast] at hhere' hoffence
          obtain rfl := Option.some.inj (hhere.symm.trans hhere')
          obtain hisMutable | ⟨first, hmem, hname⟩ := hoffence
          · exact hmutable hisMutable
          · exact hnew first hmem hname
        · exact hbefore j (by omega) hoffends

/-- **When there is no table**, and why. -/
theorem ofDeclaration_eq_error_iff :
    ofDeclaration symbols d = .error e
      ↔ ∃ i, (∀ j < i, ¬ d.Offends j) ∧ d.OffendsWith symbols i e := by
  have hfirst : ∀ e, ofDeclaration symbols d = .error e →
      ∃ i, (∀ j < i, ¬ d.Offends j) ∧ d.OffendsWith symbols i e := by
    intro e h
    refine offendsWith_of_checkComponents d.components [] rfl (by simp) ?_
    rw [ofDeclaration] at h
    cases hcheck : checkComponents symbols d.name [] d.components with
    | error e' =>
      rw [hcheck] at h
      cases h
      rfl
    | ok u =>
      rw [hcheck] at h
      cases h
  refine ⟨hfirst e, ?_⟩
  rintro ⟨i, hbefore, hoffends⟩
  have hi : d.Offends i := Declaration.exists_offendsWith_iff.mp ⟨e, hoffends⟩
  cases h : ofDeclaration symbols d with
  | ok t => exact absurd ((ofDeclaration_eq_ok_iff symbols d t).mp h).1 hi.not_proper
  | error e' =>
    obtain ⟨i', hbefore', hoffends'⟩ := hfirst e' h
    have hi' : d.Offends i' := Declaration.exists_offendsWith_iff.mp ⟨e', hoffends'⟩
    -- there is one component only that is the first to offend
    have hsame : i = i' := by
      rcases Nat.lt_trichotomy i i' with hlt | heq | hlt
      · exact absurd hi (hbefore' i hlt)
      · exact heq
      · exact absurd hi' (hbefore i' hlt)
    subst hsame
    rw [hoffends.unique hbefore hoffends']

/-! ## The table -/

/-- What a table holds: by the presence of a written member, this or an accessor. -/
structure ByPresence (d : Declaration) (t : MemberTable) : Prop where
  /-- No name has two entries. -/
  distinct : (t.entries.map Prod.fst).Nodup
  /-- A name has an entry exactly if it occurs among the components or the written members. -/
  names : ∀ name, name ∈ t.entries.map Prod.fst
    ↔ name ∈ d.components.map Component.name ∨ name ∈ d.members.map Member.name
  /-- The entry of a name is what is found under it. -/
  found : ∀ name member, (name, member) ∈ t.entries ↔ t.get? name = some member
  /-- Of the written members with a name, this is the first. -/
  written : ∀ before m after, d.members = before ++ m :: after →
    (∀ earlier ∈ before, earlier.name ≠ m.name) → t.get? m.name = some (.written m)
  /-- If there is none, it is the accessor of the component that has the name. -/
  accessor : ∀ i c, d.components[i]? = some c → (∀ m ∈ d.members, m.name ≠ c.name) →
    t.get? c.name = some (.accessor i c.type)
  /-- The components are those that were declared. -/
  components : t.components = d.components
  /-- The name of each, hidden or not, leads to its position, and no other name to any. -/
  position : ∀ name i, t.position? name = some i
    ↔ ∃ c, d.components[i]? = some c ∧ c.name = name

/-- The names that are listed once are those that occur. -/
theorem mem_names_firstOfEachName {name : Symbol} (members : List Member) :
    name ∈ (firstOfEachName members).map Member.name ↔ name ∈ members.map Member.name := by
  induction members with
  | nil => rfl
  | cons m rest ih =>
    simp only [List.mem_map] at ih
    by_cases hname : name = m.name
    · simp [firstOfEachName, hname]
    · simp only [firstOfEachName, List.map_cons, List.mem_cons, hname, false_or, List.mem_map,
        List.mem_filter, decide_eq_true_eq, ← ih]
      constructor
      · rintro ⟨other, ⟨hother, -⟩, rfl⟩
        exact ⟨other, hother, rfl⟩
      · rintro ⟨other, hother, rfl⟩
        exact ⟨other, ⟨hother, hname⟩, rfl⟩

/-- They are listed once. -/
theorem nodup_names_firstOfEachName (members : List Member) :
    ((firstOfEachName members).map Member.name).Nodup := by
  induction members with
  | nil => exact List.nodup_nil
  | cons m rest ih =>
    rw [firstOfEachName, List.map_cons, List.nodup_cons]
    refine ⟨?_, ih.sublist (List.filter_sublist.map _)⟩
    simp

/-- The accessors have the names of the components that no written member has. -/
theorem names_accessors (members : List Member) (components : List Component) :
    (accessors members components).map Prod.fst
      = (components.map Component.name).filter fun name => !members.any (·.name = name) := by
  have hnames : components.map Component.name
      = (components.zipIdx.map Prod.fst).map Component.name := by
    rw [List.zipIdx_map_fst]
  rw [accessors, hnames]
  -- the positions are carried along and nothing is asked about them
  generalize components.zipIdx = positioned
  induction positioned with
  | nil => rfl
  | cons first rest ih =>
    obtain ⟨c, position⟩ := first
    cases hhidden : members.any (·.name = c.name) with
    | true =>
      simp only [List.filterMap_cons, List.map_cons, List.filter_cons, hhidden, if_true,
        Bool.not_true, Bool.false_eq_true, if_false]
      exact ih
    | false =>
      simp only [List.filterMap_cons, List.map_cons, List.filter_cons, hhidden,
        Bool.false_eq_true, if_false, Bool.not_false, if_true]
      exact congrArg _ ih

/-- The names of a table are those of the written members, once each, and those of the
components that are not hidden. -/
theorem names_of (d : Declaration) :
    (of d).entries.map Prod.fst = (firstOfEachName d.members).map Member.name
      ++ (d.components.map Component.name).filter fun name => !d.members.any (·.name = name) := by
  rw [of, List.map_append, names_accessors, List.map_map]
  rfl

/-- No name has two entries. -/
theorem nodup_names_of {d : Declaration} (h : d.Proper) : ((of d).entries.map Prod.fst).Nodup := by
  rw [names_of, List.nodup_append]
  refine ⟨nodup_names_firstOfEachName d.members, h.1.filter _, ?_⟩
  -- a component that is not hidden has the name of no written member
  rintro name hwritten _ hshown rfl
  rw [mem_names_firstOfEachName, List.mem_map] at hwritten
  obtain ⟨m, hm, rfl⟩ := hwritten
  have hnone : ∀ other ∈ d.members, other.name ≠ m.name := by
    simpa using (List.mem_filter.mp hshown).2
  exact hnone m hm rfl

/-- A name has an entry if it occurs anywhere. -/
theorem mem_names_of (d : Declaration) (name : Symbol) :
    name ∈ (of d).entries.map Prod.fst
      ↔ name ∈ d.components.map Component.name ∨ name ∈ d.members.map Member.name := by
  rw [names_of, List.mem_append, mem_names_firstOfEachName, List.mem_filter]
  have hhidden : (!d.members.any (·.name = name)) = true ↔ name ∉ d.members.map Member.name := by
    simp
  rw [hhidden]
  by_cases hwritten : name ∈ d.members.map Member.name
  · simp only [hwritten, true_or, or_true]
  · simp only [hwritten, false_or, or_false, not_false_eq_true, and_true]

/-- **The table of a proper declaration.** -/
theorem byPresence_of {d : Declaration} (h : d.Proper) : (of d).ByPresence d where
  distinct := nodup_names_of h
  names := mem_names_of d
  found name member := (lookup_name_eq_some_iff (nodup_names_of h)).symm
  written before m after hsplit hfirst := by
    have hfound : d.members.find? (·.name = m.name) = some m := by
      rw [List.find?_eq_some_iff_append]
      exact ⟨by simp, before, after, hsplit, by simpa using hfirst⟩
    rw [get?_of, hfound]
  accessor i c hc hfree := by
    refine get?_of_component h hc ?_
    rw [List.find?_eq_none]
    simpa using hfree
  components := rfl
  position name i := by
    constructor
    · intro hi
      rw [position?, List.findIdx?_eq_some_iff_getElem] at hi
      obtain ⟨hlt, hname, -⟩ := hi
      exact ⟨_, List.getElem?_eq_getElem hlt, by simpa using hname⟩
    · rintro ⟨c, hc, rfl⟩
      exact position?_of_component h hc

/-- **Presence decides.** There is no table for a declaration exactly if some component
repeats the name of an earlier one or is mutable, and the error is then about the first
that does: that its name is not new, with the places of both components, or else that it
is mutable. Otherwise there is a table, and it holds one entry for each name that occurs
and no other: the first written member with the name, or else the accessor of the
component; and it keeps the components as they were declared. -/
theorem table_by_presence (symbols : SymbolTable) (d : Declaration) :
    ((∃ e, ofDeclaration symbols d = .error e) ↔ ∃ i, d.Offends i)
      ∧ (∀ e, ofDeclaration symbols d = .error e ↔
        ∃ i, d.Offends i ∧ (∀ j < i, ¬ d.Offends j) ∧ d.OffendsWith symbols i e)
      ∧ ((∃ t, ofDeclaration symbols d = .ok t) ↔ ∀ i, ¬ d.Offends i)
      ∧ ∀ t, ofDeclaration symbols d = .ok t → t.ByPresence d := by
  have herror : (∃ e, ofDeclaration symbols d = .error e) ↔ ∃ i, d.Offends i := by
    constructor
    · rintro ⟨e, h⟩
      obtain ⟨i, -, hoffends⟩ := ofDeclaration_eq_error_iff.mp h
      exact ⟨i, Declaration.exists_offendsWith_iff.mp ⟨e, hoffends⟩⟩
    · rintro ⟨i, hoffends⟩
      cases h : ofDeclaration symbols d with
      | error e => exact ⟨e, rfl⟩
      | ok t => exact absurd ((ofDeclaration_eq_ok_iff symbols d t).mp h).1 hoffends.not_proper
  refine ⟨herror, fun e => ?_, ?_, fun t h => ?_⟩
  · rw [ofDeclaration_eq_error_iff]
    constructor
    · rintro ⟨i, hbefore, hoffends⟩
      exact ⟨i, Declaration.exists_offendsWith_iff.mp ⟨e, hoffends⟩, hbefore, hoffends⟩
    · rintro ⟨i, -, hbefore, hoffends⟩
      exact ⟨i, hbefore, hoffends⟩
  · rw [← not_exists, ← herror]
    cases ofDeclaration symbols d with
    | error e => simp
    | ok t => simp
  · obtain ⟨hproper, rfl⟩ := (ofDeclaration_eq_ok_iff symbols d t).mp h
    exact byPresence_of hproper

end MemberTable

/-- The names in a ledger. -/
def ledgerNames : SymbolTable :=
  ⟨#["", "equals", "hash", "Match", "Ledger", "count", "label", "print"]⟩

/-- A ledger with two components, one of which has the name of two written members. -/
def ledger : Declaration where
  name := ⟨4⟩
  type := .nominal 0
  components := [⟨⟨5⟩, .int, false, ⟨10, 15⟩⟩, ⟨⟨6⟩, .text, false, ⟨17, 22⟩⟩]
  members :=
    [ ⟨⟨6⟩, .property .text, some ⟨0⟩, ⟨30, 40⟩⟩,
      ⟨⟨7⟩, .method, none, ⟨50, 60⟩⟩,
      ⟨⟨6⟩, .method, some ⟨1⟩, ⟨70, 80⟩⟩ ]
  span := ⟨0, 90⟩

/-- The same with a third component that is mutable and has the name of the first, and a
fourth one that is mutable. -/
def brokenLedger : Declaration :=
  { ledger with
    components := ledger.components
      ++ [⟨⟨5⟩, .int, true, ⟨24, 25⟩⟩, ⟨⟨7⟩, .int, true, ⟨27, 28⟩⟩] }

/-- In the table of the ledger the name of both a component and two members stands for the
first of these members. There is no table for the other one, as a name is used twice. -/
theorem table_by_presence_ledger :
    (∃ t, MemberTable.ofDeclaration ledgerNames ledger = .ok t ∧ t.ByPresence ledger
        ∧ t.get? ⟨6⟩ = some (.written ⟨⟨6⟩, .property .text, some ⟨0⟩, ⟨30, 40⟩⟩)
        ∧ t.get? ⟨5⟩ = some (.accessor 0 .int) ∧ t.position? ⟨6⟩ = some 1)
      ∧ ∃ i, brokenLedger.Offends i ∧ (∀ j < i, ¬ brokenLedger.Offends j)
        ∧ brokenLedger.OffendsWith ledgerNames i
          (.duplicateComponent "Ledger" "count" ⟨10, 15⟩ ⟨24, 25⟩) := by
  obtain ⟨-, -, -, hpresence⟩ := MemberTable.table_by_presence ledgerNames ledger
  obtain ⟨-, herror, -⟩ := MemberTable.table_by_presence ledgerNames brokenLedger
  exact ⟨⟨_, rfl, hpresence _ rfl, rfl, rfl, rfl⟩, (herror _).mp rfl⟩

end RecordPatterns
