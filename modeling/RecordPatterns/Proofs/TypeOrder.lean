/-
The order that derivation puts on types.

`TypeTable.isSubtype` is a walk with three answers of its own: a type that is
compared with itself only has to be allocated, the top type is above whatever
may be null, and everything else is decided by following bases. The three
agree, and this file says with what: `isSubtype` is reachability along bases,
from an allocated type (`isSubtype_iff`). Everything that matching relies on
then follows without looking at the walk again. Subtypes chain
(`isSubtype_trans`), nothing above a nullable type loses null and nothing
below gains it (`isNullable_iff_of_isSubtype`), and a value that fits a type
fits every type above it (`admits_of_isSubtype`).

All of it rests on one property of the table, `Grounded`: a base stands before
the type derived from it. A table that grew by declarations only has it,
whatever bases were asked for, because a base that does not qualify is
replaced. Without it the walk could be cut off by its own bound.
-/
import Mathlib.Logic.Relation
import RecordPatterns.Registry.Access

set_option autoImplicit false

namespace RecordPatterns.TypeTable

/-! ## Bases stand before what is derived from them -/

/-- Every declared type names a base that others may be derived from and that
has a smaller id. -/
def Grounded (t : TypeTable) : Prop :=
  ∀ (position : Nat) (declared : Nominal), t.nominals[position]? = some declared →
    t.isDerivable declared.base = true ∧ declared.base.index < (TypeId.nominal position).index

/-- The table without declared types is grounded, there being nothing to
check. -/
theorem grounded_builtin : builtin.Grounded := by
  intro position declared h
  simp [builtin] at h

/-- A type that others may be derived from stays one as the table grows. -/
theorem isDerivable_push {t : TypeTable} {ty : TypeId} (n : Nominal)
    (h : t.isDerivable ty = true) : (⟨t.nominals.push n⟩ : TypeTable).isDerivable ty = true := by
  cases ty with
  | nominal position =>
    simp only [isDerivable, decide_eq_true_eq, Array.size_push] at h ⊢
    omega
  | _ => exact h

/-- Only the top type and declared types may be derived from, and declared
types come before the next one. -/
theorem index_lt_of_isDerivable {t : TypeTable} {ty : TypeId} (h : t.isDerivable ty = true) :
    ty.index < (TypeId.nominal t.nominals.size).index := by
  cases ty with
  | object => simp [TypeId.index]
  | nominal position =>
    simp only [isDerivable, decide_eq_true_eq] at h
    simp only [TypeId.index]
    omega
  | _ => exact absurd h Bool.false_ne_true

/-- Declaring a type keeps the table grounded, whatever base is asked for. -/
theorem Grounded.declare {t : TypeTable} (h : t.Grounded) (kind : NominalKind) (name : Symbol)
    (base : TypeId) : (t.declare kind name base).2.Grounded := by
  intro position declared hd
  simp only [TypeTable.declare, Array.getElem?_push] at hd ⊢
  -- the new type stands at the end, and before it nothing has changed
  by_cases hp : position = t.nominals.size
  · rw [if_pos hp, Option.some.injEq] at hd
    subst hd hp
    by_cases hb : t.isDerivable base = true
    · simp only [hb, if_true]
      exact ⟨isDerivable_push _ hb, index_lt_of_isDerivable hb⟩
    · simp only [hb]
      exact ⟨rfl, by simp [TypeId.index]⟩
  · rw [if_neg hp] at hd
    obtain ⟨hbase, hlt⟩ := h position declared hd
    exact ⟨isDerivable_push _ hbase, hlt⟩

/-- Record types stay record types as the table grows: a declaration adds at
the end and changes nothing before it. -/
theorem isRecord_declare {t : TypeTable} {ty : TypeId} (h : t.isRecord ty = true)
    (kind : NominalKind) (name : Symbol) (base : TypeId) :
    (t.declare kind name base).2.isRecord ty = true := by
  cases ty with
  | nominal position =>
    simp only [isRecord, nominal?] at h ⊢
    cases hd : t.nominals[position]? with
    | none =>
      rw [hd] at h
      exact absurd h Bool.false_ne_true
    | some declared =>
      have hlt := (Array.getElem?_eq_some_iff.mp hd).1
      rw [hd] at h
      simp only [TypeTable.declare, Array.getElem?_push, if_neg (Nat.ne_of_lt hlt), hd]
      exact h
  | _ => exact absurd h Bool.false_ne_true

/-! ## The walk along bases -/

/-- Being reached from a type by following bases, any number of times. -/
abbrev Derives (t : TypeTable) : TypeId → TypeId → Prop :=
  Relation.ReflTransGen fun ty base => t.base? ty = some base

variable {t : TypeTable} {a b c sub super ty : TypeId}

/-- A base has a smaller id than the type it is the base of. This is the
measure of every walk. -/
theorem Grounded.index_base_lt (h : t.Grounded) (hb : t.base? ty = some b) :
    b.index < ty.index := by
  cases ty with
  | text =>
    cases hb
    decide
  | nominal position =>
    simp only [base?, Option.map_eq_some_iff] at hb
    obtain ⟨declared, hd, rfl⟩ := hb
    exact (h position declared hd).2
  | _ => cases hb

/-- A type that has a base is a reference type, so its values may be null. -/
theorem isNullable_of_base? (hb : t.base? ty = some b) : t.isNullable ty = true := by
  cases ty with
  | text => rfl
  | nominal position =>
    simp only [base?, Option.map_eq_some_iff] at hb
    obtain ⟨declared, hd, -⟩ := hb
    simp only [isNullable, isAllocated, decide_eq_true_eq]
    exact (Array.getElem?_eq_some_iff.mp hd).1
  | _ => cases hb

/-- A base may be null as well, being the top type or a declared one. -/
theorem Grounded.isNullable_base (h : t.Grounded) (hb : t.base? ty = some b) :
    t.isNullable b = true := by
  cases ty with
  | text =>
    cases hb
    rfl
  | nominal position =>
    simp only [base?, Option.map_eq_some_iff] at hb
    obtain ⟨declared, hd, rfl⟩ := hb
    have hbase := (h position declared hd).1
    cases hk : declared.base with
    | object => rfl
    | nominal k =>
      rw [hk] at hbase
      exact hbase
    | _ =>
      rw [hk] at hbase
      exact absurd hbase Bool.false_ne_true
  | _ => cases hb

/-- What may be null is allocated. -/
theorem isAllocated_of_isNullable (h : t.isNullable ty = true) : t.isAllocated ty = true := by
  cases ty <;> first | rfl | exact h

/-- A record type is a declared one, so its values may be null. -/
theorem isNullable_of_isRecord (h : t.isRecord ty = true) : t.isNullable ty = true := by
  cases ty with
  | nominal position =>
    simp only [isNullable, isAllocated, decide_eq_true_eq]
    rw [isRecord, nominal?] at h
    by_cases hlt : position < t.nominals.size
    · exact hlt
    · rw [Array.getElem?_eq_none (Nat.not_lt.mp hlt)] at h
      exact absurd h Bool.false_ne_true
  | _ => exact absurd h Bool.false_ne_true

/-- The bounded walk meets exactly what bases lead to in one step or more, as
soon as its bound is not below the id that it starts from. -/
theorem Grounded.reaches_iff (h : t.Grounded) (steps : Nat) :
    ∀ ty, ty.index ≤ steps →
      (t.reaches steps ty super = true ↔ ∃ b, t.base? ty = some b ∧ t.Derives b super) := by
  induction steps with
  | zero =>
    intro ty hty
    -- the only id that is zero is that of the top type
    have hnone : t.base? ty = none := by
      cases ty <;> first | rfl | simp [TypeId.index] at hty
    simp [reaches, hnone]
  | succ steps ih =>
    intro ty hty
    rw [reaches]
    cases hb : t.base? ty with
    | none => simp
    | some b =>
      have hlt := h.index_base_lt hb
      simp only [Bool.or_eq_true, decide_eq_true_eq, Option.some.injEq, exists_eq_left']
      rw [ih b (by omega)]
      -- one step to the base, and then either this is it or the walk goes on from there
      constructor
      · rintro (rfl | ⟨b', hb', hd⟩)
        · exact .refl
        · exact .head hb' hd
      · exact Relation.ReflTransGen.cases_head

/-- The top type is where every walk from a reference type ends. -/
theorem Grounded.derives_object (h : t.Grounded) (hn : t.isNullable ty = true) :
    t.Derives ty .object := by
  induction hk : ty.index using Nat.strongRecOn generalizing ty with
  | ind k ih =>
    -- ids get smaller along bases, and a reference type without a base is the top type
    cases hb : t.base? ty with
    | none =>
      cases ty with
      | object => exact .refl
      | nominal position =>
        simp only [isNullable, isAllocated, decide_eq_true_eq] at hn
        simp only [base?, Option.map_eq_none_iff, Array.getElem?_eq_none_iff] at hb
        omega
      | text => cases hb
      | _ => exact absurd hn Bool.false_ne_true
    | some b =>
      have hlt := h.index_base_lt hb
      exact .head hb (ih b.index (by omega) (h.isNullable_base hb) rfl)

/-- **What the subtype check decides.** A type is a subtype of another exactly
if it is allocated and following its bases, none or more, leads to the other.
The shortcut for the top type is no exception: it is where the bases of every
reference type lead, and those of the two others do not. -/
theorem Grounded.isSubtype_iff (h : t.Grounded) :
    t.isSubtype sub super = true ↔ t.isAllocated sub = true ∧ t.Derives sub super := by
  rw [isSubtype]
  by_cases heq : sub = super
  · rw [if_pos heq, heq]
    exact ⟨fun ha => ⟨ha, .refl⟩, And.left⟩
  rw [if_neg heq]
  -- the shortcut: reference types derive from the top type, and nothing else does
  by_cases hobj : super = .object
  · rw [if_pos hobj]
    subst hobj
    constructor
    · intro hn
      exact ⟨isAllocated_of_isNullable hn, h.derives_object hn⟩
    · rintro ⟨-, hd⟩
      obtain hs | ⟨b, hb, -⟩ := Relation.ReflTransGen.cases_head hd
      · exact absurd hs heq
      · exact isNullable_of_base? hb
  · rw [if_neg hobj, h.reaches_iff sub.index sub (Nat.le_refl _)]
    constructor
    · rintro ⟨b, hb, hd⟩
      exact ⟨isAllocated_of_isNullable (isNullable_of_base? hb), .head hb hd⟩
    · rintro ⟨-, hd⟩
      obtain hs | hstep := Relation.ReflTransGen.cases_head hd
      · exact absurd hs heq
      · exact hstep

/-! ## Consequences for values -/

/-- Subtypes chain. -/
theorem Grounded.isSubtype_trans (h : t.Grounded) (hab : t.isSubtype a b = true)
    (hbc : t.isSubtype b c = true) : t.isSubtype a c = true := by
  rw [h.isSubtype_iff] at hab hbc ⊢
  exact ⟨hab.1, hab.2.trans hbc.2⟩

/-- An allocated type is a subtype of itself, and no other is. -/
@[simp] theorem isSubtype_self : t.isSubtype ty ty = t.isAllocated ty := by
  simp [isSubtype]

/-- Following bases does not change whether values may be null: a type with a
base may be null, and so may the base. -/
theorem Grounded.isNullable_iff_of_derives (h : t.Grounded) (hd : t.Derives sub super) :
    t.isNullable sub = true ↔ t.isNullable super = true := by
  induction hd with
  | refl => rfl
  | tail _ hb ih =>
    rw [ih]
    exact iff_of_true (isNullable_of_base? hb) (h.isNullable_base hb)

/-- A type and its supertypes agree on whether values may be null. -/
theorem Grounded.isNullable_iff_of_isSubtype (h : t.Grounded) (hs : t.isSubtype sub super = true) :
    t.isNullable sub = true ↔ t.isNullable super = true :=
  h.isNullable_iff_of_derives (h.isSubtype_iff.mp hs).2

/-- A value that fits a type fits its supertypes; null because they may all be
null or none, other values because subtypes chain. -/
theorem Grounded.admits_of_isSubtype (h : t.Grounded) {v : Value}
    (hs : t.isSubtype sub super = true) (hv : t.admits sub v = true) :
    t.admits super v = true := by
  rw [admits] at hv ⊢
  cases hty : v.type? with
  | none =>
    rw [hty] at hv
    exact (h.isNullable_iff_of_isSubtype hs).mp hv
  | some actual =>
    rw [hty] at hv
    exact h.isSubtype_trans hv hs

/-- No type is derived from a record type by way of a type stored in place or
a text: what is below a declared type is itself declared. -/
theorem Grounded.nominal_of_isSubtype (h : t.Grounded) {position : Nat}
    (hs : t.isSubtype sub (.nominal position) = true) : ∃ k, sub = .nominal k := by
  obtain hsub | ⟨b, hb, hd⟩ := Relation.ReflTransGen.cases_head (h.isSubtype_iff.mp hs).2
  · exact ⟨position, hsub⟩
  cases sub with
  | nominal k => exact ⟨k, rfl⟩
  | text =>
    -- the base of text is the top type, which has none
    cases hb
    obtain htop | ⟨b, hb, -⟩ := Relation.ReflTransGen.cases_head hd
    · cases htop
    · cases hb
  | _ => cases hb

end RecordPatterns.TypeTable
