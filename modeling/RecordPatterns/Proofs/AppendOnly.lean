/-
The history of a registry is append-only.

Growth says what a later registry can be relied on for. This file says what an
edit does at most, and from that, what a whole history amounts to. An edit that
is refused does nothing. Every other kind of edit has one thing that it
touches, and all else is as it was: an introduction the types and the symbols,
a declaration what is known about one type and that type's own deconstructors,
and an addition the deconstructors of one type, at their end
(`Declares`, `Adds`, `Introduces`).

So what there is at the end can be told from what was accepted on the way
(`acceptedIn`, `additions`). No type is declared a second time. And the
deconstructors of a type are those that it had, as one block that nothing comes
into, after those of its own declaration, if that was made meanwhile, and
before those added meanwhile (`deconstructors_after`). The own ones come first
although they may come last in time. That is why a later list need not begin
with an earlier one, and the law is about a block rather than a beginning.
-/
import RecordPatterns.Proofs.Records

set_option autoImplicit false

namespace RecordPatterns

/-- The deconstructors of a type that come with some declarations. -/
def Declaration.ownOf (ty : TypeId) (declarations : List Declaration) : List Deconstructor :=
  (declarations.filter (·.type = ty)).flatMap Declaration.deconstructors

/-- The deconstructors that an edit adds to types from outside. -/
def Edit.additions : Edit → List Deconstructor
  | .add owner members => members.filterMap (Deconstructor.ofMember? owner)
  | _ => []

/-- The deconstructors that some edits add to a type, in order. -/
def Edit.addedTo (ty : TypeId) (edits : List Edit) : List Deconstructor :=
  (edits.flatMap Edit.additions).filter (·.owner = ty)

namespace Registry

variable {r next : Registry} {d : Declaration} {info : RecordInfo} {ty owner : TypeId}

/-! ## Declarations -/

/-- **When a declaration is refused**: if the type was not introduced as a
record, if it has been declared already, or if the components are not in
order. -/
theorem exists_declare_eq_error_iff : (∃ e, r.declare d = .error e) ↔
    r.types.isRecord d.type = false ∨ (∃ known, r.info? d.type = some known) ∨ ¬ d.Proper := by
  rw [declare]
  by_cases hrecord : r.types.isRecord d.type = true
  · rw [if_neg (not_not_intro hrecord)]
    cases hknown : r.info? d.type with
    | some known => simp
    | none =>
      have hinfo := RecordInfo.ofDeclaration_eq_ok_iff r.symbols d
      cases hworked : RecordInfo.ofDeclaration r.symbols d with
      | error e =>
        have himproper : ¬ d.Proper := fun hproper => by
          simpa [hworked] using (hinfo (.of d)).mpr ⟨hproper, rfl⟩
        simp [himproper, bind, Except.bind]
      | ok worked =>
        have hproper := ((hinfo worked).mp hworked).1
        simp [hrecord, hproper, bind, Except.bind, pure, Except.pure]
  · simp [hrecord]

/-- A refused declaration does nothing. -/
theorem apply_of_refused {e : DeclarationError} (h : r.declare d = .error e) :
    r.apply (.declare d) = r := by
  rw [apply, h]

/-- All that an accepted declaration does. -/
structure Declares (r : Registry) (d : Declaration) (next : Registry) : Prop where
  types : next.types = r.types
  symbols : next.symbols = r.symbols
  added : next.added = r.added
  /-- The record that follows from the declaration is known. -/
  info : next.info? d.type = some (.of d)
  /-- Its own deconstructors come before those that were added already. -/
  deconstructors : next.deconstructors d.type = d.deconstructors ++ r.deconstructors d.type
  others : ∀ ty, ty ≠ d.type →
    next.info? ty = r.info? ty ∧ next.deconstructors ty = r.deconstructors ty

/-- **An accepted declaration** does that, and nothing else. -/
theorem declares_of_declare (h : r.declare d = .ok (info, next)) : r.Declares d next := by
  obtain ⟨-, hnew, -, -, rfl⟩ := declare_eq_ok h
  have hothers : ∀ ty, ty ≠ d.type →
      info? { r with records := .of d :: r.records } ty = r.info? ty := by
    intro ty hty
    rw [info?_cons]
    exact if_neg (Ne.symm hty)
  have hinfo : info? { r with records := .of d :: r.records } d.type = some (.of d) := by
    rw [info?_cons]
    exact if_pos rfl
  refine ⟨rfl, rfl, rfl, hinfo, ?_, fun ty hty => ⟨hothers ty hty, ?_⟩⟩
  · rw [Registry.deconstructors, Registry.deconstructors, hinfo, hnew]
    rfl
  · rw [Registry.deconstructors, Registry.deconstructors, hothers ty hty]

/-! ## Additions and introductions -/

/-- All that adding members to a type from outside does, and what it counts. -/
structure Adds (r : Registry) (owner : TypeId) (members : List Member) (count : Nat)
    (next : Registry) : Prop where
  types : next.types = r.types
  symbols : next.symbols = r.symbols
  info : ∀ ty, next.info? ty = r.info? ty
  count : count = (members.filter Member.isDeconstructor).length
  /-- The members that are deconstructors come at the end, in their order. -/
  deconstructors : ∃ new, next.deconstructors owner = r.deconstructors owner ++ new
    ∧ List.Forall₂ (fun m d => Deconstructor.DeclaredBy owner m d)
        (members.filter Member.isDeconstructor) new
  others : ∀ ty, ty ≠ owner → next.deconstructors ty = r.deconstructors ty

/-- What is added to one type belongs to it. -/
theorem filter_owner_additions (owner ty : TypeId) (members : List Member) :
    (members.filterMap (Deconstructor.ofMember? owner)).filter (·.owner = ty) =
      if ty = owner then members.filterMap (Deconstructor.ofMember? owner) else [] := by
  have howner : ∀ d ∈ members.filterMap (Deconstructor.ofMember? owner), d.owner = owner := by
    intro d hd
    obtain ⟨m, -, hm⟩ := List.mem_filterMap.mp hd
    exact (Deconstructor.ofMember?_eq_some_iff.mp hm).owner
  by_cases hty : ty = owner
  · rw [if_pos hty, List.filter_eq_self]
    intro d hd
    rw [howner d hd, hty, decide_eq_true rfl]
  · rw [if_neg hty, List.filter_eq_nil_iff]
    intro d hd
    rw [howner d hd, decide_eq_true_eq]
    exact Ne.symm hty

/-- The deconstructors of a type after some were added to one. -/
theorem deconstructors_addDeconstructors (r : Registry) (owner ty : TypeId)
    (members : List Member) : (r.addDeconstructors owner members).2.deconstructors ty =
      r.deconstructors ty
        ++ (members.filterMap (Deconstructor.ofMember? owner)).filter (·.owner = ty) := by
  rw [Registry.deconstructors, Registry.deconstructors, addDeconstructors, List.filter_append,
    ← List.append_assoc]
  rfl

/-- **Adding members** does that, and nothing else. -/
theorem adds_addDeconstructors (r : Registry) (owner : TypeId) (members : List Member) :
    r.Adds owner members (r.addDeconstructors owner members).1
      (r.addDeconstructors owner members).2 := by
  have hdeclared := Deconstructor.forall₂_filterMap_ofMember? owner members
  refine ⟨rfl, rfl, fun ty => rfl, hdeclared.length_eq.symm, ⟨_, ?_, hdeclared⟩, fun ty hty => ?_⟩
  · rw [deconstructors_addDeconstructors, filter_owner_additions, if_pos rfl]
  · rw [deconstructors_addDeconstructors, filter_owner_additions, if_neg hty, List.append_nil]

/-- Nothing is done to what is known about records, and to deconstructors. -/
structure Introduces (r next : Registry) : Prop where
  info : ∀ ty, next.info? ty = r.info? ty
  deconstructors : ∀ ty, next.deconstructors ty = r.deconstructors ty

/-- **Introducing a type** does nothing to them. -/
theorem introduces_introduce (r : Registry) (kind : NominalKind) (name : String) (base : TypeId) :
    r.Introduces (r.introduce kind name base).2 :=
  ⟨fun _ => rfl, fun _ => rfl⟩

/-! ## What a history amounts to -/

/-- The declaration that an edit gets accepted, if it is one and is not
refused. -/
def accepted? (r : Registry) : Edit → Option Declaration
  | .declare d =>
    match r.declare d with
    | .ok _ => some d
    | .error _ => none
  | _ => none

/-- The declarations that are accepted in the course of some edits, in
order. -/
def acceptedIn (r : Registry) : List Edit → List Declaration
  | [] => []
  | e :: rest => (r.accepted? e).toList ++ (r.apply e).acceptedIn rest

/-- An edit that gets a declaration accepted is that declaration. -/
theorem declares_of_accepted? {e : Edit} (h : r.accepted? e = some d) :
    r.info? d.type = none ∧ r.Declares d (r.apply e) ∧ e.additions = [] := by
  cases e with
  | declare d' =>
    rw [accepted?] at h
    rw [apply]
    cases hd : r.declare d' with
    | error e => simp [hd] at h
    | ok result =>
      rw [hd, Option.some.injEq] at h
      subst h
      exact ⟨(declare_eq_ok hd).2.1, declares_of_declare hd, rfl⟩
  | _ => cases h

/-- **The step.** What an edit that gets a declaration accepted puts before the
deconstructors of a type, and what an edit that adds some puts after them. -/
theorem deconstructors_apply (r : Registry) (e : Edit) (ty : TypeId) :
    (r.apply e).deconstructors ty = Declaration.ownOf ty (r.accepted? e).toList
      ++ r.deconstructors ty ++ e.additions.filter (·.owner = ty) := by
  cases he : r.accepted? e with
  | some d =>
    obtain ⟨-, hdeclares, hadds⟩ := declares_of_accepted? he
    rw [hadds, List.filter_nil, List.append_nil, Option.toList_some, Declaration.ownOf,
      List.filter_singleton]
    by_cases hty : d.type = ty
    · rw [← hty, hdeclares.deconstructors]
      simp
    · rw [(hdeclares.others ty (Ne.symm hty)).2]
      simp [hty]
  | none =>
    rw [Option.toList_none, Declaration.ownOf, List.filter_nil, List.flatMap_nil, List.nil_append]
    cases e with
    | declare d =>
      rw [accepted?] at he
      cases hd : r.declare d with
      | error e =>
        rw [apply_of_refused hd]
        exact (List.append_nil _).symm
      | ok result => simp [hd] at he
    | add owner members => exact r.deconstructors_addDeconstructors owner ty members
    | _ => exact (List.append_nil _).symm

/-- **Only types that have not been declared** get a declaration accepted: what
is known stays known. -/
theorem info?_eq_none_of_mem_acceptedIn (edits : List Edit) (hd : d ∈ r.acceptedIn edits) :
    r.info? d.type = none := by
  induction edits generalizing r with
  | nil => cases hd
  | cons e rest ih =>
    rw [acceptedIn, List.mem_append, Option.mem_toList] at hd
    obtain hhead | htail := hd
    · exact (declares_of_accepted? hhead).1
    · have hlater := ih htail
      cases hknown : r.info? d.type with
      | none => rfl
      | some info =>
        rw [(r.extends_apply e).info d.type info hknown] at hlater
        cases hlater

/-- After a declaration has been accepted, none of that type is among those
that are accepted later. -/
theorem ne_type_of_mem_acceptedIn {e : Edit} {edits : List Edit} {later : Declaration}
    (h : r.accepted? e = some d) (hlater : later ∈ (r.apply e).acceptedIn edits) :
    later.type ≠ d.type := by
  intro heq
  have hnone := info?_eq_none_of_mem_acceptedIn edits hlater
  rw [heq, (declares_of_accepted? h).2.1.info] at hnone
  cases hnone

/-- **No type is declared twice**, in whatever history. -/
theorem nodup_acceptedIn (r : Registry) (edits : List Edit) :
    ((r.acceptedIn edits).map Declaration.type).Nodup := by
  induction edits generalizing r with
  | nil => exact List.nodup_nil
  | cons e rest ih =>
    rw [acceptedIn]
    cases he : r.accepted? e with
    | none => exact ih (r.apply e)
    | some d =>
      rw [Option.toList_some, List.singleton_append, List.map_cons, List.nodup_cons]
      refine ⟨?_, ih (r.apply e)⟩
      rw [List.mem_map]
      rintro ⟨later, hlater, heq⟩
      exact ne_type_of_mem_acceptedIn he hlater heq

/-- If an edit has a type declared, later ones do not. -/
theorem ownOf_acceptedIn_comm (r : Registry) (e : Edit) (edits : List Edit) (ty : TypeId) :
    Declaration.ownOf ty ((r.apply e).acceptedIn edits)
        ++ Declaration.ownOf ty (r.accepted? e).toList
      = Declaration.ownOf ty (r.acceptedIn (e :: edits)) := by
  rw [acceptedIn, Declaration.ownOf, Declaration.ownOf, Declaration.ownOf, List.filter_append,
    List.flatMap_append]
  cases he : r.accepted? e with
  | none => simp
  | some d =>
    by_cases hty : d.type = ty
    · have hnone : ((r.apply e).acceptedIn edits).filter (·.type = ty) = [] := by
        rw [List.filter_eq_nil_iff]
        intro later hlater
        rw [decide_eq_true_eq, ← hty]
        exact ne_type_of_mem_acceptedIn he hlater
      rw [hnone]
      simp
    · simp [hty]

/-- **The run.** The deconstructors of a type after some edits are those of its
declaration, if it was accepted meanwhile, then those that it had, then those
that were added meanwhile. -/
theorem deconstructors_after (r : Registry) (edits : List Edit) (ty : TypeId) :
    (r.after edits).deconstructors ty = Declaration.ownOf ty (r.acceptedIn edits)
      ++ r.deconstructors ty ++ Edit.addedTo ty edits := by
  induction edits generalizing r with
  | nil => simp [after, acceptedIn, Declaration.ownOf, Edit.addedTo]
  | cons e rest ih =>
    have hadded : Edit.addedTo ty (e :: rest)
        = e.additions.filter (·.owner = ty) ++ Edit.addedTo ty rest := by
      rw [Edit.addedTo, Edit.addedTo, List.flatMap_cons, List.filter_append]
    calc (r.after (e :: rest)).deconstructors ty
        = ((r.apply e).after rest).deconstructors ty := rfl
      _ = Declaration.ownOf ty ((r.apply e).acceptedIn rest) ++ (r.apply e).deconstructors ty
            ++ Edit.addedTo ty rest := ih (r.apply e)
      _ = Declaration.ownOf ty (r.acceptedIn (e :: rest)) ++ r.deconstructors ty
            ++ Edit.addedTo ty (e :: rest) := by
          rw [deconstructors_apply, ← ownOf_acceptedIn_comm, hadded]
          simp only [List.append_assoc]

/-- What a type was introduced as is not changed by later edits. -/
theorem nominal?_after {declared : Nominal} (edits : List Edit)
    (h : r.types.nominal? ty = some declared) :
    (r.after edits).types.nominal? ty = some declared := by
  cases ty with
  | nominal position => exact (r.extends_after edits).types position declared h
  | _ => cases h

/-! ## All of it -/

/-- What it is for a registry to be append-only: what single edits do, and what
any number of them leave as it was. -/
structure AppendOnly (r : Registry) : Prop where
  /-- There are three reasons to refuse a declaration. -/
  refusal : ∀ d, (∃ e, r.declare d = .error e) ↔ r.types.isRecord d.type = false
    ∨ (∃ known, r.info? d.type = some known) ∨ ¬ d.Proper
  /-- A refused declaration leaves no trace. -/
  refused : ∀ d e, r.declare d = .error e → r.apply (.declare d) = r
  /-- An accepted one touches what is known about one type, and that type's own
  deconstructors. -/
  declared : ∀ d info next, r.declare d = .ok (info, next) →
    info = .of d ∧ r.apply (.declare d) = next ∧ r.Declares d next
  /-- An addition touches the deconstructors of one type. -/
  added : ∀ owner members, ∃ count,
    r.addDeconstructors owner members = (count, r.apply (.add owner members))
      ∧ r.Adds owner members count (r.apply (.add owner members))
  /-- An introduction touches the types and the symbols. -/
  introduced : ∀ kind name base, r.Introduces (r.apply (.introduce kind name base))
  /-- Types stay what they were introduced as. -/
  kinds : ∀ edits ty declared, r.types.nominal? ty = some declared →
    (r.after edits).types.nominal? ty = some declared
  /-- What is known about a record stays known, and unchanged. -/
  known : ∀ edits ty info, r.info? ty = some info → (r.after edits).info? ty = some info
  /-- No type is declared twice, and none that has been declared before. -/
  once : ∀ edits, ((r.acceptedIn edits).map Declaration.type).Nodup
    ∧ ∀ d ∈ r.acceptedIn edits, r.info? d.type = none
  /-- No deconstructor is lost, and no two change places. -/
  kept : ∀ edits ty, (r.deconstructors ty).Sublist ((r.after edits).deconstructors ty)
  /-- Nor is one repeated: what is there besides has been declared or added
  meanwhile. -/
  accounted : ∀ edits ty, (r.after edits).deconstructors ty =
    Declaration.ownOf ty (r.acceptedIn edits) ++ r.deconstructors ty ++ Edit.addedTo ty edits

/-- **Registries are append-only**, whatever has been done to them. -/
theorem history_append_only (r : Registry) : r.AppendOnly where
  refusal _ := exists_declare_eq_error_iff
  refused _ _ h := apply_of_refused h
  declared d info next h := by
    have happly : r.apply (.declare d) = next := by rw [apply, h]
    exact ⟨(declare_eq_ok h).2.2.2.1, happly, declares_of_declare h⟩
  added owner members := ⟨_, rfl, r.adds_addDeconstructors owner members⟩
  introduced := r.introduces_introduce
  kinds edits _ _ h := nominal?_after edits h
  known edits := (r.extends_after edits).info
  once edits := ⟨r.nodup_acceptedIn edits, fun _ => info?_eq_none_of_mem_acceptedIn edits⟩
  kept edits := (r.extends_after edits).deconstructors
  accounted edits := r.deconstructors_after edits

end Registry

end RecordPatterns
