/-
Symbols stand for texts, one for one, and for good.

Names are compared as symbols everywhere in this library, and shown as texts.
Both are safe because of what a symbol table is at any time, whatever has been
asked of it and in whatever order: texts and symbols below its size correspond,
and each symbol that was handed out keeps its text while the table grows
(`StableBijection`). The table of every run has this property
(`stable_bijection`). It rests on two facts from the growth of tables. A later
table has all texts of an earlier one where they were (`extends_after`), and no
text stands in it twice (`Seeded.after`); a symbol is then as good as its text
in every later table (`Distinct.intern_eq`).

Looking a text up is a search here. Where texts are many, an index from texts to
positions is kept beside them, with positions of 32 bits, so that there are two
structures that have to say the same. They are filled by hand for the empty text
and by interning for all others, and they do say the same, after any calls, for
as long as positions fit (`IndexedTable.InStep`).
-/
import Mathlib.Data.List.Sort
import RecordPatterns.Proofs.Records

set_option autoImplicit false

namespace RecordPatterns

namespace SymbolTable

variable {t : SymbolTable} {a b : Symbol} {s : String}

/-! ## Calls -/

/-- The symbols set aside for the members that a record may supply itself. -/
structure Reserved where
  equals : Symbol
  hash : Symbol
  deconstruct : Symbol
deriving DecidableEq

/-- Their texts, in the order of their symbols. -/
def reservedTexts : List String := ["equals", "hash", "Match"]

/-- Asks for these symbols, by interning their texts. -/
def reserved (t : SymbolTable) : Reserved × SymbolTable :=
  let (equals, t) := t.intern "equals"
  let (hash, t) := t.intern "hash"
  let (deconstruct, t) := t.intern "Match"
  (⟨equals, hash, deconstruct⟩, t)

/-- Interns several texts, one after the other. -/
def internAll (t : SymbolTable) (texts : List String) : SymbolTable :=
  texts.foldl (fun t s => (t.intern s).2) t

/-- One call on a table. -/
inductive Call where
  | intern (text : String)
  | text (s : Symbol)
  | reserved

/-- The table after a call. -/
def apply (t : SymbolTable) : Call → SymbolTable
  | .intern text => (t.intern text).2
  -- reading a text is no change
  | .text _ => t
  | .reserved => t.reserved.2

/-- The table after several calls, one after the other. -/
def after (t : SymbolTable) (calls : List Call) : SymbolTable := calls.foldl apply t

/-- Interning any number of texts takes none back. -/
theorem extends_internAll (t : SymbolTable) (texts : List String) :
    t.Extends (t.internAll texts) := by
  induction texts generalizing t with
  | nil => exact .refl t
  | cons s rest ih => exact (t.extends_intern s).trans (ih (t.intern s).2)

/-- **The step.** No call takes a text back. -/
theorem extends_apply (t : SymbolTable) (c : Call) : t.Extends (t.apply c) := by
  cases c with
  | intern text => exact t.extends_intern text
  | text s => exact .refl t
  | reserved => exact t.extends_internAll reservedTexts

/-- **The run.** -/
theorem extends_after (t : SymbolTable) (calls : List Call) : t.Extends (t.after calls) := by
  induction calls generalizing t with
  | nil => exact .refl t
  | cons c rest ih => exact (t.extends_apply c).trans (ih (t.apply c))

/-- **The step.** No call repeats a text. -/
theorem Seeded.apply (h : t.Seeded) (c : Call) : (t.apply c).Seeded := by
  cases c with
  | intern text => exact h.intern text
  | text s => exact h
  | reserved => exact ((h.intern _).intern _).intern _

/-- **The run.** -/
theorem Seeded.after (h : t.Seeded) (calls : List Call) : (t.after calls).Seeded := by
  induction calls generalizing t with
  | nil => exact h
  | cons c rest ih => exact ih (h.apply c)

/-! ## Texts and symbols -/

/-- A text is found at a position where it stands. -/
theorem getElem?_of_find? (h : t.find? s = some a) : t.texts[a.index]? = some s := by
  rw [find?, Option.map_eq_some_iff] at h
  obtain ⟨position, hposition, rfl⟩ := h
  rw [Array.idxOf?_eq_map_finIdxOf?_val, Option.map_eq_some_iff] at hposition
  obtain ⟨found, hfound, rfl⟩ := hposition
  have htext : t.texts[found] = s := (Array.finIdxOf?_eq_some_iff.mp hfound).1
  exact Array.getElem?_eq_some_iff.mpr ⟨found.isLt, htext⟩

/-- The symbols that have a text are those below the size. -/
theorem index_lt_size (h : t.texts[a.index]? = some s) : a.index < t.size :=
  (Array.getElem?_eq_some_iff.mp h).1

/-- Interning a new text puts it at the end. -/
theorem intern_of_notMem (h : s ∉ t.texts) : t.intern s = (⟨t.size⟩, ⟨t.texts.push s⟩) := by
  have hfind : t.find? s = none := by
    rw [find?, Option.map_eq_none_iff, Array.idxOf?_eq_none_iff]
    exact h
  rw [intern, hfind]
  rfl

/-- **Interning a known text** gives the symbol that has it, and leaves the
table as it is. -/
theorem Distinct.intern_eq (h : t.Distinct) (hs : t.texts[a.index]? = some s) :
    t.intern s = (a, t) := by
  rw [SymbolTable.intern]
  cases hfind : t.find? s with
  | none =>
    have hmem : s ∈ t.texts.toList := Array.mem_toList_iff.mpr (Array.mem_of_getElem? hs)
    exact absurd hmem (not_mem_of_find?_eq_none hfind)
  | some known =>
    -- the text stands at both symbols, and it stands in one place only
    have hknown := getElem?_of_find? hfind
    have hlt : a.index < t.texts.toList.length := index_lt_size hs
    rw [← Array.getElem?_toList] at hs hknown
    have hindex : a.index = known.index := (List.getElem?_inj hlt h).mp (hs.trans hknown.symm)
    obtain ⟨a⟩ := a
    obtain ⟨known⟩ := known
    cases hindex
    rfl

/-- A table that has all texts of another one is no smaller. -/
theorem Extends.size_le {t' : SymbolTable} (h : t.Extends t') : t.size ≤ t'.size := by
  by_contra hlt
  rw [Nat.not_le] at hlt
  -- the position just behind the second table would have a text in it
  have hstands : t.texts[t'.size]? = some t.texts[t'.size] := Array.getElem?_eq_getElem hlt
  have hlater := (Array.getElem?_eq_some_iff.mp (h t'.size _ hstands)).1
  exact absurd hlater (Nat.lt_irrefl _)

end SymbolTable

/-! ## Tables with an index -/

/-- A table with an index beside it, from texts to positions. -/
structure IndexedTable where
  texts : Array String
  positions : Std.HashMap String UInt32

namespace IndexedTable

open SymbolTable

variable {i : IndexedTable} {t : SymbolTable} {s : String}

/-- The symbol of a text, by the index. A text that is not in the index is put
at the end of the table and into the index, provided that its position fits. -/
def intern? (i : IndexedTable) (s : String) : Option (Symbol × IndexedTable) :=
  match i.positions[s]? with
  | some position => some (⟨position.toNat⟩, i)
  | none =>
    if i.texts.size < UInt32.size then
      let position := UInt32.ofNat i.texts.size
      some (⟨position.toNat⟩, ⟨i.texts.push s, i.positions.insert s position⟩)
    else none

/-- Interns several texts, one after the other. -/
def internAll? (i : IndexedTable) (texts : List String) : Option IndexedTable :=
  texts.foldlM (fun i s => (i.intern? s).map Prod.snd) i

/-- The table that the empty text is entered into by hand. -/
def seed : IndexedTable := ⟨#[""], (∅ : Std.HashMap String UInt32).insert "" 0⟩

/-- The table after a call. -/
def afterCall? (i : IndexedTable) : Call → Option IndexedTable
  | .intern text => (i.intern? text).map Prod.snd
  | .text _ => some i
  | .reserved => i.internAll? reservedTexts

/-- The table after several calls, one after the other. -/
def after? (i : IndexedTable) (calls : List Call) : Option IndexedTable := calls.foldlM afterCall? i

/-- An indexed table has the texts of another one, and its index leads to the
position at which a text stands, and to none for other texts. -/
structure InStep (i : IndexedTable) (t : SymbolTable) : Prop where
  texts : i.texts = t.texts
  position_iff : ∀ (text : String) (position : UInt32),
    i.positions[text]? = some position ↔ t.texts[position.toNat]? = some text
  fits : t.size ≤ UInt32.size

/-- A new text at the end of the table, with its position in the index, leaves
the index right. -/
theorem InStep.push (h : i.InStep t) (hnew : s ∉ t.texts) (hlt : t.size < UInt32.size) :
    InStep ⟨i.texts.push s, i.positions.insert s (UInt32.ofNat i.texts.size)⟩
      ⟨t.texts.push s⟩ := by
  have hsize : i.texts.size = t.texts.size := by rw [h.texts]
  have hnat : (UInt32.ofNat t.texts.size).toNat = t.texts.size :=
    UInt32.toNat_ofNat_of_lt hlt
  rw [hsize]
  refine ⟨by rw [h.texts], fun text position => ?_, by rwa [size, Array.size_push]⟩
  simp only [Std.HashMap.getElem?_insert, Array.getElem?_push, beq_iff_eq]
  by_cases hend : position.toNat = t.texts.size
  · -- the position just filled: no text was there, and the new one was nowhere
    have hposition : position = UInt32.ofNat t.texts.size :=
      UInt32.toNat_inj.mp (hend.trans hnat.symm)
    rw [if_pos hend, ← hposition, Option.some.injEq]
    by_cases htext : s = text
    · rw [if_pos htext]
      exact iff_of_true rfl htext
    · have hnone : t.texts[position.toNat]? = none :=
        Array.getElem?_eq_none (Nat.le_of_eq hend.symm)
      rw [if_neg htext, h.position_iff, hnone]
      exact iff_of_false (by simp) htext
  · rw [if_neg hend, ← h.position_iff]
    by_cases htext : s = text
    · subst htext
      rw [if_pos rfl]
      refine iff_of_false (fun hsame => ?_) fun hold => ?_
      · rw [Option.some.injEq] at hsame
        exact hend (hsame ▸ hnat)
      · rw [h.position_iff] at hold
        exact hnew (Array.mem_of_getElem? hold)
    · rw [if_neg htext]

/-- **The step.** Interning has the same answer with an index and without, and
the index stays right. -/
theorem InStep.intern (h : i.InStep t) (hdistinct : t.Distinct)
    (hroom : (t.intern s).2.size ≤ UInt32.size) :
    ∃ next, i.intern? s = some ((t.intern s).1, next) ∧ next.InStep (t.intern s).2 := by
  unfold intern?
  by_cases hs : s ∈ t.texts
  · obtain ⟨position, hposition⟩ := Array.getElem?_of_mem hs
    have hlt : position < t.size := (Array.getElem?_eq_some_iff.mp hposition).1
    have hnat : (UInt32.ofNat position).toNat = position :=
      UInt32.toNat_ofNat_of_lt (Nat.lt_of_lt_of_le hlt h.fits)
    have hindex : i.positions[s]? = some (UInt32.ofNat position) := by
      rw [h.position_iff, hnat]
      exact hposition
    have hsymbol : t.texts[(⟨position⟩ : Symbol).index]? = some s := hposition
    rw [hindex, hdistinct.intern_eq hsymbol]
    exact ⟨i, by simp only [hnat], h⟩
  · rw [intern_of_notMem hs] at hroom ⊢
    have hlt : t.size < UInt32.size := by
      rw [size, Array.size_push] at hroom
      exact hroom
    have hsize : i.texts.size = t.size := by rw [h.texts, size]
    have hindex : i.positions[s]? = none := by
      rw [Option.eq_none_iff_forall_ne_some]
      intro position hposition
      rw [h.position_iff] at hposition
      exact hs (Array.mem_of_getElem? hposition)
    have hnat : (UInt32.ofNat i.texts.size).toNat = t.size := by
      rw [hsize]
      exact UInt32.toNat_ofNat_of_lt hlt
    rw [hindex]
    simp only [hnat]
    rw [if_pos (hsize ▸ hlt)]
    exact ⟨_, rfl, h.push hs hlt⟩

/-- Interning several texts keeps the index right. -/
theorem InStep.internAll (texts : List String) (h : i.InStep t) (hdistinct : t.Distinct)
    (hroom : (t.internAll texts).size ≤ UInt32.size) :
    ∃ next, i.internAll? texts = some next ∧ next.InStep (t.internAll texts) := by
  induction texts generalizing i t with
  | nil => exact ⟨i, rfl, h⟩
  | cons s rest ih =>
    have hfirst := (extends_internAll (t.intern s).2 rest).size_le
    obtain ⟨middle, hmiddle, hstep⟩ := h.intern hdistinct (Nat.le_trans hfirst hroom)
    obtain ⟨next, hnext, hstep'⟩ := ih hstep (hdistinct.intern s) hroom
    refine ⟨next, ?_, hstep'⟩
    rw [internAll?, List.foldlM_cons, hmiddle]
    exact hnext

/-- **The step.** A call keeps the index right. -/
theorem InStep.apply (h : i.InStep t) (hdistinct : t.Distinct) (c : Call)
    (hroom : (t.apply c).size ≤ UInt32.size) :
    ∃ next, i.afterCall? c = some next ∧ next.InStep (t.apply c) := by
  cases c with
  | intern text =>
    obtain ⟨next, hnext, hstep⟩ := h.intern hdistinct hroom
    exact ⟨next, by rw [afterCall?, hnext, Option.map_some], hstep⟩
  | text s => exact ⟨i, rfl, h⟩
  | reserved => exact h.internAll reservedTexts hdistinct hroom

/-- **The run.** -/
theorem InStep.after (calls : List Call) (h : i.InStep t) (hseeded : t.Seeded)
    (hroom : (t.after calls).size ≤ UInt32.size) :
    ∃ next, i.after? calls = some next ∧ next.InStep (t.after calls) := by
  induction calls generalizing i t with
  | nil => exact ⟨i, rfl, h⟩
  | cons c rest ih =>
    have hfirst := ((t.apply c).extends_after rest).size_le
    obtain ⟨middle, hmiddle, hstep⟩ := h.apply hseeded.distinct c (Nat.le_trans hfirst hroom)
    obtain ⟨next, hnext, hstep'⟩ := ih hstep (hseeded.apply c) hroom
    refine ⟨next, ?_, hstep'⟩
    rw [after?, List.foldlM_cons, hmiddle]
    exact hnext

end IndexedTable

end RecordPatterns
