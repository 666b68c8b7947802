/-
What a registry never takes back.

A registry is read while it is still being filled. What has been asked of it
once should be answered in the same way later on, and `Registry.Extends` says
how far this can be relied on: a later registry knows the same symbols under
the same texts, the same types with the same bases, and the same of every
record that was declared. Of the deconstructors of a type none is lost, none is
repeated and no two change places; but one may come to stand between those that
were there, since the deconstructors of a record's own declaration come before
those that were added from outside, however late the record is declared.
`extends_apply` is the step and `extends_after` the run.

Questions about types come down to following bases. A type that is not
allocated yet has no base, and it may get one. For allocated types the answers
last: bases of allocated types are allocated (`Grounded`), so what the walk
along bases meets is what it met before (`Grounded.isSubtype_eq`). Only the type
that the walk begins with has to be allocated. The other one may be anything.
`Registry.GrowsInto` is both together, and what later files assume of two
registries.
-/
import RecordPatterns.Proofs.History

set_option autoImplicit false

namespace RecordPatterns

/-! ## Symbols -/

namespace SymbolTable

variable {t t' t'' : SymbolTable}

/-- Every symbol of one table has its text in another one as well. -/
def Extends (t t' : SymbolTable) : Prop :=
  ∀ (position : Nat) (text : String), t.texts[position]? = some text →
    t'.texts[position]? = some text

/-- A table extends itself. -/
theorem Extends.refl (t : SymbolTable) : t.Extends t := fun _ _ h => h

/-- Extending twice is extending. -/
theorem Extends.trans (h : t.Extends t') (h' : t'.Extends t'') : t.Extends t'' :=
  fun position text htext => h' position text (h position text htext)

/-- Interning a text leaves every symbol its text. -/
theorem extends_intern (t : SymbolTable) (s : String) : t.Extends (t.intern s).2 := by
  intro position text htext
  rw [intern]
  cases t.find? s with
  | some known => exact htext
  | none =>
    have hlt := (Array.getElem?_eq_some_iff.mp htext).1
    simp only [Array.getElem?_push, if_neg (Nat.ne_of_lt hlt)]
    exact htext

/-- No text is interned twice. -/
def Distinct (t : SymbolTable) : Prop := t.texts.toList.Nodup

/-- A text is not among those interned if it has no symbol. -/
theorem not_mem_of_find?_eq_none {s : String} (h : t.find? s = none) : s ∉ t.texts.toList := by
  rw [find?, Option.map_eq_none_iff, Array.idxOf?_eq_none_iff] at h
  rwa [Array.mem_toList_iff]

/-- Interning does not repeat a text. -/
theorem Distinct.intern (h : t.Distinct) (s : String) : (t.intern s).2.Distinct := by
  rw [SymbolTable.intern]
  cases hfind : t.find? s with
  | some known => exact h
  | none =>
    have hnew := not_mem_of_find?_eq_none hfind
    simp only [Distinct, Array.toList_push]
    rw [List.nodup_append]
    refine ⟨h, by simp, fun text htext other hother => ?_⟩
    rw [List.mem_singleton.mp hother]
    exact ne_of_mem_of_not_mem htext hnew

/-- **Symbols may be compared in place of texts.** The one symbol with some
text, other than the empty one, is the one at whose position it stands. The
empty text is an exception, because symbols without a text read as empty. -/
theorem Distinct.text_eq_iff (h : t.Distinct) {position : Nat} {text : String}
    (htext : t.texts[position]? = some text) (hne : text ≠ "") {s : Symbol} :
    t.text s = text ↔ s = ⟨position⟩ := by
  rw [SymbolTable.text]
  constructor
  · intro hs
    cases hfound : t.texts[s.index]? with
    | none =>
      rw [hfound] at hs
      exact absurd hs.symm hne
    | some found =>
      rw [hfound, Option.getD_some] at hs
      subst hs
      have hlt : s.index < t.texts.toList.length := (Array.getElem?_eq_some_iff.mp hfound).1
      rw [← Array.getElem?_toList] at htext hfound
      have hindex := (List.getElem?_inj hlt h).mp (hfound.trans htext.symm)
      rw [← hindex]
  · rintro rfl
    rw [htext, Option.getD_some]

end SymbolTable

/-! ## Types -/

namespace TypeTable

variable {t t' t'' : TypeTable} {ty sub super : TypeId}

/-- Every type that is declared in one table is declared in another one as
well, and in the same way. -/
def Extends (t t' : TypeTable) : Prop :=
  ∀ (position : Nat) (declared : Nominal), t.nominals[position]? = some declared →
    t'.nominals[position]? = some declared

/-- A table extends itself. -/
theorem Extends.refl (t : TypeTable) : t.Extends t := fun _ _ h => h

/-- Extending twice is extending. -/
theorem Extends.trans (h : t.Extends t') (h' : t'.Extends t'') : t.Extends t'' :=
  fun position declared hd => h' position declared (h position declared hd)

/-- Declaring a type leaves all others as they are. -/
theorem extends_declare (t : TypeTable) (kind : NominalKind) (name : Symbol) (base : TypeId) :
    t.Extends (t.declare kind name base).2 := by
  intro position declared hd
  have hlt := (Array.getElem?_eq_some_iff.mp hd).1
  simp only [TypeTable.declare, Array.getElem?_push, if_neg (Nat.ne_of_lt hlt)]
  exact hd

/-- An allocated type is built in, or stands in the table. -/
theorem exists_nominal_of_isAllocated {position : Nat}
    (h : t.isAllocated (.nominal position) = true) :
    ∃ declared, t.nominals[position]? = some declared := by
  rw [isAllocated, decide_eq_true_eq] at h
  exact ⟨_, Array.getElem?_eq_getElem h⟩

/-- What is allocated stays allocated. -/
theorem Extends.isAllocated (h : t.Extends t') (ha : t.isAllocated ty = true) :
    t'.isAllocated ty = true := by
  cases ty with
  | nominal position =>
    obtain ⟨declared, hd⟩ := exists_nominal_of_isAllocated ha
    rw [TypeTable.isAllocated, decide_eq_true_eq]
    exact (Array.getElem?_eq_some_iff.mp (h position declared hd)).1
  | _ => rfl

/-- An allocated type keeps its base. -/
theorem Extends.base?_eq (h : t.Extends t') (ha : t.isAllocated ty = true) :
    t'.base? ty = t.base? ty := by
  cases ty with
  | nominal position =>
    obtain ⟨declared, hd⟩ := exists_nominal_of_isAllocated ha
    rw [base?, base?, hd, h position declared hd]
  | _ => rfl

/-- Whether the values of an allocated type may be null is settled. -/
theorem Extends.isNullable_eq (h : t.Extends t') (ha : t.isAllocated ty = true) :
    t'.isNullable ty = t.isNullable ty := by
  have ha' := h.isAllocated ha
  cases ty with
  | nominal position =>
    rw [isNullable, isNullable, ha, ha'] <;> simp
  | _ => rfl

/-- **Following bases from an allocated type** leads to the same types as
before. The induction is on the id of the type, and bases are smaller. -/
theorem Grounded.derives_iff (hg : t.Grounded) (h : t.Extends t')
    (ha : t.isAllocated sub = true) : t'.Derives sub super ↔ t.Derives sub super := by
  induction hk : sub.index using Nat.strongRecOn generalizing sub with
  | ind k ih =>
    rw [Derives, Derives, Relation.ReflTransGen.cases_head_iff,
      Relation.ReflTransGen.cases_head_iff (r := fun ty base => t.base? ty = some base)]
    refine or_congr_right (exists_congr fun b => ?_)
    rw [h.base?_eq ha]
    refine and_congr_right fun hb => ?_
    have hlt := hg.index_base_lt hb
    have hbase := isAllocated_of_isNullable (hg.isNullable_base hb)
    exact ih b.index (by omega) hbase rfl

/-- **The subtype check answers the same later on**, of an allocated type and
any other. -/
theorem Grounded.isSubtype_eq (hg : t.Grounded) (hg' : t'.Grounded) (h : t.Extends t')
    (ha : t.isAllocated sub = true) : t'.isSubtype sub super = t.isSubtype sub super := by
  rw [Bool.eq_iff_iff, hg.isSubtype_iff, hg'.isSubtype_iff, hg.derives_iff h ha]
  exact and_congr_left fun _ => iff_of_true (h.isAllocated ha) ha

end TypeTable

/-! ## Registries -/

namespace Registry

variable {r r' r'' : Registry}

/-- All that one registry knows is known to another one in the same way. -/
structure Extends (r r' : Registry) : Prop where
  types : r.types.Extends r'.types
  symbols : r.symbols.Extends r'.symbols
  info : ∀ (ty : TypeId) (info : RecordInfo), r.info? ty = some info → r'.info? ty = some info
  /-- None is lost, none is repeated, and they keep their order. -/
  deconstructors : ∀ ty : TypeId, (r.deconstructors ty).Sublist (r'.deconstructors ty)

/-- A registry extends itself. -/
theorem Extends.refl (r : Registry) : r.Extends r where
  types := .refl r.types
  symbols := .refl r.symbols
  info _ _ h := h
  deconstructors ty := .refl (r.deconstructors ty)

/-- Extending twice is extending. -/
theorem Extends.trans (h : r.Extends r') (h' : r'.Extends r'') : r.Extends r'' where
  types := h.types.trans h'.types
  symbols := h.symbols.trans h'.symbols
  info ty info hinfo := h'.info ty info (h.info ty info hinfo)
  deconstructors ty := (h.deconstructors ty).trans (h'.deconstructors ty)

/-- Interning a text touches the symbols only. -/
theorem extends_intern (r : Registry) (text : String) : r.Extends (r.intern text).2 :=
  { Extends.refl r with symbols := r.symbols.extends_intern text }

/-- Introducing a type touches the table and the symbols only. -/
theorem extends_introduce (r : Registry) (kind : NominalKind) (name : String) (base : TypeId) :
    r.Extends (r.introduce kind name base).2 :=
  { Extends.refl r with
    types := r.types.extends_declare kind _ base
    symbols := r.symbols.extends_intern name }

/-- The record that is found after one more has been declared. -/
theorem info?_cons (r : Registry) (known : RecordInfo) (ty : TypeId) :
    info? { r with records := known :: r.records } ty =
      if known.declaration.type = ty then some known else r.info? ty := by
  rw [info?, info?, List.find?_cons]
  by_cases hty : known.declaration.type = ty
  · rw [if_pos hty, decide_eq_true hty]
  · rw [if_neg hty, decide_eq_false hty]

/-- One more record, of a type that was not declared before. Its own
deconstructors come before those that were added to it already. -/
theorem extends_cons (r : Registry) {known : RecordInfo}
    (hnew : r.info? known.declaration.type = none) :
    r.Extends { r with records := known :: r.records } := by
  have hinfo : ∀ (ty : TypeId) (info : RecordInfo), r.info? ty = some info →
      info? { r with records := known :: r.records } ty = some info := by
    intro ty info hinfo
    rw [info?_cons, if_neg]
    · exact hinfo
    · rintro rfl
      rw [hnew] at hinfo
      cases hinfo
  refine { Extends.refl r with info := hinfo, deconstructors := fun ty => ?_ }
  rw [Registry.deconstructors, Registry.deconstructors]
  refine List.Sublist.append_right ?_ _
  cases hfound : r.info? ty with
  | some info =>
    simp only [hinfo ty info hfound]
    exact .refl info.deconstructors
  | none => exact List.nil_sublist _

/-- A declaration, accepted or not, takes nothing back. -/
theorem extends_declare (r : Registry) (d : Declaration) : r.Extends (r.apply (.declare d)) := by
  rw [apply]
  cases hd : r.declare d with
  | error e => exact .refl r
  | ok result =>
    obtain ⟨info, next⟩ := result
    obtain ⟨-, hnew, -, -, rfl⟩ := declare_eq_ok hd
    exact r.extends_cons hnew

/-- What is added from outside is added at the end. -/
theorem extends_addDeconstructors (r : Registry) (owner : TypeId) (members : List Member) :
    r.Extends (r.addDeconstructors owner members).2 := by
  refine { Extends.refl r with deconstructors := fun ty => ?_ }
  rw [Registry.deconstructors, Registry.deconstructors, Registry.addDeconstructors,
    List.filter_append, ← List.append_assoc]
  exact List.sublist_append_left _ _

/-- **The step.** No edit takes anything back. -/
theorem extends_apply (r : Registry) (e : Edit) : r.Extends (r.apply e) := by
  cases e with
  | introduce kind name base => exact r.extends_introduce kind name base
  | declare d => exact r.extends_declare d
  | add owner members => exact r.extends_addDeconstructors owner members
  | intern text => exact r.extends_intern text

/-- **The run.** No history takes anything back. -/
theorem extends_after (r : Registry) (edits : List Edit) : r.Extends (r.after edits) := by
  induction edits generalizing r with
  | nil => exact .refl r
  | cons e rest ih => exact (r.extends_apply e).trans (ih (r.apply e))

/-- A type that no deconstructor was added to has the ones that it had. -/
theorem Extends.deconstructors_eq (h : r.Extends r') {ty : TypeId}
    (hlength : (r'.deconstructors ty).length = (r.deconstructors ty).length) :
    r'.deconstructors ty = r.deconstructors ty :=
  ((h.deconstructors ty).eq_of_length hlength.symm).symm

/-- One registry has become another one: the second extends the first, and in
both of them bases stand before what is derived from them. -/
structure GrowsInto (r r' : Registry) : Prop extends r.Extends r' where
  grounded : r.types.Grounded
  grounded' : r'.types.Grounded

/-- Further edits are growth. -/
theorem Coherent.growsInto (h : r.Coherent) (edits : List Edit) : r.GrowsInto (r.after edits) where
  toExtends := r.extends_after edits
  grounded := h.grounded
  grounded' := (h.after edits).grounded

variable {sub super a b : TypeId}

/-- The subtype check answers the same after growth. -/
theorem GrowsInto.isSubtype_eq (h : r.GrowsInto r') (ha : r.types.isAllocated sub = true) :
    r'.types.isSubtype sub super = r.types.isSubtype sub super :=
  h.grounded.isSubtype_eq h.grounded' h.types ha

/-- And so does the question whether two types are related. -/
theorem GrowsInto.isRelated_eq (h : r.GrowsInto r') (ha : r.types.isAllocated a = true)
    (hb : r.types.isAllocated b = true) : r'.types.isRelated a b = r.types.isRelated a b := by
  rw [TypeTable.isRelated, TypeTable.isRelated, h.isSubtype_eq ha, h.isSubtype_eq hb]

end Registry

end RecordPatterns
