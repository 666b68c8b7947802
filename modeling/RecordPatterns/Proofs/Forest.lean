/-
The type table is a forest.

Whoever declares a type may ask for any base: one that is there, one that
cannot be derived from, the type that is just being declared, or an id that no
type has. The table takes what it can use and falls back on the top type
otherwise. Whatever was asked for, what comes about is a forest, with one tree
below the top type and the two types that are stored in place beside it
(`Reachable.forest`), and the subtype check is its order.

Two things need an argument of their own. Following bases has to come to an
end, although nobody counts the steps. `Climb` is that walk as it goes, without
a bound, and answers may or may not exist; that there always is one, and that
it is the answer of the bounded walk, comes from bases having smaller ids. And
the check does not always walk: it has shortcuts for a type compared with
itself and for the top type. They say what the walk would have said
(`Forest.climb_iff`).
-/
import RecordPatterns.Proofs.TypeOrder

set_option autoImplicit false

namespace RecordPatterns

namespace TypeTable

variable {t : TypeTable} {a b c sub super ty : TypeId} {answer other : Bool}

/-! ## Tables as they come about -/

/-- The table after several types have been asked for, one after the other.
What is asked for is a kind, a name and a base. -/
def after (t : TypeTable) (requests : List Nominal) : TypeTable :=
  requests.foldl (fun t asked => (t.declare asked.kind asked.name asked.base).2) t

/-- A table that some requests make of the one that knows the built-in types
only. -/
def Reachable (t : TypeTable) : Prop := ∃ requests, builtin.after requests = t

/-- **The run.** No request, whatever base it asks for, puts a base behind what
is derived from it. -/
theorem Grounded.after (requests : List Nominal) (h : t.Grounded) :
    (t.after requests).Grounded := by
  induction requests generalizing t with
  | nil => exact h
  | cons asked rest ih => exact ih (h.declare asked.kind asked.name asked.base)

/-- In every table that came about by requests, bases stand before what is
derived from them. -/
theorem Reachable.grounded (h : t.Reachable) : t.Grounded := by
  obtain ⟨requests, rfl⟩ := h
  exact grounded_builtin.after requests

/-! ## Climbing without a bound -/

/-- The walk along bases as it goes, from a type on: it ends in vain where
there is no base, and with success where the base is the type looked for, and
goes on from any other base. -/
inductive Climb (t : TypeTable) (super : TypeId) : TypeId → Bool → Prop
  | exhausted {ty : TypeId} (h : t.base? ty = none) : Climb t super ty false
  | met {ty : TypeId} (h : t.base? ty = some super) : Climb t super ty true
  | onward {ty base : TypeId} {answer : Bool} (h : t.base? ty = some base) (hne : base ≠ super)
      (rest : Climb t super base answer) : Climb t super ty answer

/-- A climb has one answer at most. -/
theorem Climb.unique (h : t.Climb super ty answer) (h' : t.Climb super ty other) :
    answer = other := by
  induction h with
  | exhausted hnone =>
    cases h' with
    | exhausted => rfl
    | met hbase | onward hbase =>
      rw [hnone] at hbase
      cases hbase
  | met hsuper =>
    cases h' with
    | met => rfl
    | exhausted hnone =>
      rw [hsuper] at hnone
      cases hnone
    | onward hbase hne =>
      rw [hsuper, Option.some.injEq] at hbase
      exact absurd hbase.symm hne
  | onward hbase hne _ ih =>
    cases h' with
    | exhausted hnone =>
      rw [hbase] at hnone
      cases hnone
    | met hsuper =>
      rw [hbase, Option.some.injEq] at hsuper
      exact absurd hsuper hne
    | onward hbase' _ rest' =>
      rw [hbase, Option.some.injEq] at hbase'
      subst hbase'
      exact ih rest'

/-- **A climb comes to an end**, with the answer of the bounded walk. The
induction is on the bound, which is spent more slowly than ids get smaller. -/
theorem Grounded.climb_reaches (h : t.Grounded) (super : TypeId) (steps : Nat) :
    ∀ ty, ty.index ≤ steps → t.Climb super ty (t.reaches steps ty super) := by
  induction steps with
  | zero =>
    intro ty hty
    have hnone : t.base? ty = none := by
      cases hb : t.base? ty with
      | none => rfl
      | some base =>
        have hlt := h.index_base_lt hb
        omega
    rw [reaches]
    exact .exhausted hnone
  | succ steps ih =>
    intro ty hty
    rw [reaches]
    cases hb : t.base? ty with
    | none => exact .exhausted hb
    | some base =>
      have hlt := h.index_base_lt hb
      by_cases hmet : base = super
      · subst hmet
        simpa using Climb.met hb
      · have hrest := ih base (by omega)
        simpa [hmet] using Climb.onward hb hmet hrest

/-- The check walks from a type to another one, or might as well: its shortcut
for the top type has the answer of the walk. -/
theorem Grounded.isSubtype_eq_reaches (h : t.Grounded) (hne : sub ≠ super) :
    t.isSubtype sub super = t.reaches sub.index sub super := by
  rw [Bool.eq_iff_iff, h.isSubtype_iff, h.reaches_iff sub.index sub (Nat.le_refl _)]
  constructor
  · rintro ⟨-, hd⟩
    obtain hsame | hstep := Relation.ReflTransGen.cases_head hd
    · exact absurd hsame hne
    · exact hstep
  · rintro ⟨base, hb, hd⟩
    exact ⟨isAllocated_of_isNullable (isNullable_of_base? hb), .head hb hd⟩

/-! ## The order of a forest -/

/-- Ids do not grow along bases. -/
theorem Grounded.index_le_of_derives (h : t.Grounded) (hd : t.Derives sub super) :
    super.index ≤ sub.index := by
  induction hd with
  | refl => exact Nat.le_refl _
  | tail _ hb ih =>
    have hlt := h.index_base_lt hb
    omega

/-- Two types that lead to one another are one type: their ids are equal. -/
theorem Grounded.derives_antisymm (h : t.Grounded) (hab : t.Derives a b) (hba : t.Derives b a) :
    a = b := by
  have hle := h.index_le_of_derives hab
  have hge := h.index_le_of_derives hba
  exact TypeId.index_inj.mp (Nat.le_antisymm hge hle)

/-- What a type leads to lies on one line, because a type has one base at
most. -/
theorem derives_total (hb : t.Derives a b) (hc : t.Derives a c) :
    t.Derives b c ∨ t.Derives c b := by
  refine Relation.ReflTransGen.total_of_right_unique (fun ty base base' hbase hbase' => ?_) hb hc
  rw [hbase, Option.some.injEq] at hbase'
  exact hbase'

/-- Every type that bases lead to is allocated, if the first one is. -/
theorem Grounded.isAllocated_of_derives (h : t.Grounded) (ha : t.isAllocated sub = true)
    (hd : t.Derives sub super) : t.isAllocated super = true := by
  induction hd with
  | refl => exact ha
  | tail _ hb _ => exact isAllocated_of_isNullable (h.isNullable_base hb)

/-- Only the top type may be derived from, and declared types; both are in the
table. -/
theorem isDerivable_iff : t.isDerivable ty = true ↔
    ty = .object ∨ ∃ declared, t.nominal? ty = some declared := by
  cases ty with
  | nominal position =>
    simp only [isDerivable, nominal?, decide_eq_true_eq, reduceCtorEq, false_or]
    constructor
    · exact fun hlt => ⟨_, Array.getElem?_eq_getElem hlt⟩
    · rintro ⟨declared, hd⟩
      exact (Array.getElem?_eq_some_iff.mp hd).1
  | _ => simp [isDerivable, nominal?]

/-! ## All that a forest is -/

/-- What holds of a table that is a forest, with the subtype check as its
order. -/
structure Forest (t : TypeTable) : Prop where
  /-- Every declared type has a base: the top type, or a declared one with a
  smaller id. -/
  base : ∀ position, t.isAllocated (.nominal position) = true →
    ∃ base, t.base? (.nominal position) = some base
      ∧ (base = .object ∨ ∃ declared, t.nominal? base = some declared)
      ∧ base.index < (TypeId.nominal position).index
  /-- There is no endless line of bases. -/
  wellFounded : WellFounded fun base ty => t.base? ty = some base
  /-- Every climb comes to an end, from allocated types and others. -/
  terminates : ∀ super ty, ∃ answer, t.Climb super ty answer
  /-- What it says is what the check says, of any two ids, the top type among
  them. -/
  climb_iff : ∀ sub super answer, sub ≠ super →
    (t.Climb super sub answer ↔ answer = t.isSubtype sub super)
  /-- Where the bases of a declared type end, there is the top type. -/
  top : ∀ position, t.isAllocated (.nominal position) = true → ∀ last,
    (t.Derives (.nominal position) last ∧ t.base? last = none) ↔ last = .object
  /-- The check decides being reached by following bases, none or more, from an
  allocated type. -/
  isSubtype_iff : ∀ sub super,
    t.isSubtype sub super = true ↔ t.isAllocated sub = true ∧ t.Derives sub super
  refl : ∀ ty, t.isAllocated ty = true → t.isSubtype ty ty = true
  trans : ∀ a b c, t.isSubtype a b = true → t.isSubtype b c = true → t.isSubtype a c = true
  antisymm : ∀ a b, t.isSubtype a b = true → t.isSubtype b a = true → a = b
  /-- Whether values may be null is the same above and below. -/
  nullable : ∀ sub super, t.isSubtype sub super = true → t.isNullable sub = t.isNullable super
  /-- Two supertypes of one type are never beside one another. -/
  comparable : ∀ a b c, t.isSubtype a b = true → t.isSubtype a c = true →
    t.isSubtype b c = true ∨ t.isSubtype c b = true

/-- **What came about by requests is a forest**, whatever bases were asked
for. -/
theorem Reachable.forest (hreachable : t.Reachable) : t.Forest := by
  have h := hreachable.grounded
  have hends : ∀ super ty, t.Climb super ty (t.reaches ty.index ty super) :=
    fun super ty => h.climb_reaches super ty.index ty (Nat.le_refl _)
  exact {
    base := fun position ha => by
      rw [isAllocated, decide_eq_true_eq] at ha
      have hdeclared := Array.getElem?_eq_getElem ha
      obtain ⟨hderivable, hlt⟩ := h position _ hdeclared
      refine ⟨t.nominals[position].base, ?_, isDerivable_iff.mp hderivable, hlt⟩
      rw [base?, hdeclared, Option.map_some]
    wellFounded := Subrelation.wf (fun hb => h.index_base_lt hb) (measure TypeId.index).wf
    terminates := fun super ty => ⟨_, hends super ty⟩
    climb_iff := fun sub super answer hne => by
      rw [h.isSubtype_eq_reaches hne]
      constructor
      · exact fun hclimb => hclimb.unique (hends super sub)
      · rintro rfl
        exact hends super sub
    top := fun position ha last => by
      have hobject : t.Derives (.nominal position) .object := h.derives_object ha
      constructor
      · rintro ⟨hd, hnone⟩
        -- whatever has no base and lies on the line of the top type is the top type
        obtain hlast | hlast := derives_total hd hobject
        · obtain hsame | ⟨base, hb, -⟩ := Relation.ReflTransGen.cases_head hlast
          · exact hsame
          · rw [hnone] at hb
            cases hb
        · obtain hsame | ⟨base, hb, -⟩ := Relation.ReflTransGen.cases_head hlast
          · exact hsame.symm
          · cases hb
      · rintro rfl
        exact ⟨hobject, rfl⟩
    isSubtype_iff := fun sub super => h.isSubtype_iff
    refl := fun ty ha => isSubtype_self.trans ha
    trans := fun a b c hab hbc => h.isSubtype_trans hab hbc
    antisymm := fun a b hab hba =>
      h.derives_antisymm (h.isSubtype_iff.mp hab).2 (h.isSubtype_iff.mp hba).2
    nullable := fun sub super hs => Bool.eq_iff_iff.mpr (h.isNullable_iff_of_isSubtype hs)
    comparable := fun a b c hab hac => by
      rw [h.isSubtype_iff] at hab hac
      simp only [h.isSubtype_iff]
      have hb := h.isAllocated_of_derives hab.1 hab.2
      have hc := h.isAllocated_of_derives hac.1 hac.2
      exact (derives_total hab.2 hac.2).imp (⟨hb, ·⟩) (⟨hc, ·⟩) }

end TypeTable

/-- Types for which bases of all sorts were asked: the type itself, a text, a
type that is there, an integer, an id that no type has, and the third type
again. -/
def hedge : TypeTable := .after .builtin
  [ ⟨.record, ⟨4⟩, .nominal 0⟩,
    ⟨.reference, ⟨5⟩, .text⟩,
    ⟨.record, ⟨6⟩, .nominal 1⟩,
    ⟨.record, ⟨7⟩, .int⟩,
    ⟨.reference, ⟨8⟩, .nominal 9⟩,
    ⟨.record, ⟨9⟩, .nominal 2⟩ ]

/-- The last type has three supertypes beside itself on one line, and the first
one, which asked for itself, is not among them. -/
theorem forest_hedge :
    hedge.Reachable ∧ hedge.Forest
      ∧ hedge.base? (.nominal 0) = some .object
      ∧ hedge.isSubtype (.nominal 5) (.nominal 1) = true
      ∧ (hedge.isSubtype (.nominal 2) (.nominal 1) = true
        ∨ hedge.isSubtype (.nominal 1) (.nominal 2) = true)
      ∧ hedge.Climb (.nominal 0) (.nominal 5) false := by
  have hreachable : hedge.Reachable := ⟨_, rfl⟩
  have hforest := hreachable.forest
  have hlast : hedge.isSubtype (.nominal 5) (.nominal 1) = true := by decide
  have hmiddle : hedge.isSubtype (.nominal 5) (.nominal 2) = true := by decide
  have hclimb : hedge.Climb (.nominal 0) (.nominal 5) false :=
    (hforest.climb_iff (.nominal 5) (.nominal 0) false (by decide)).mpr (by decide)
  exact ⟨hreachable, hforest, rfl, hlast, hforest.comparable _ _ _ hmiddle hlast, hclimb⟩

end RecordPatterns
