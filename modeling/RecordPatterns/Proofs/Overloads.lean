/-
What the oracle answers, and when.

The registry answers a query for a type and the shapes of some arguments by
looking through the deconstructors of the type. What it should answer can be said
without looking: there is a list of those that apply (`Registry.candidates`), in
the order in which the type has them, and the answer depends on its length. One
candidate is found, several are ambiguous and all of them are named, and where
there is none the answer lists how many outputs there are to be had
(`select_found_iff`, `select_ambiguous_iff`, `select_notFound_iff`).

Which numbers these are does not determine a list. They come in ascending order
and each of them once, and then they do (`List.SortedLT.eq_of_mem_iff`).
-/
import Mathlib.Data.List.Forall2
import Mathlib.Data.List.Sort
import RecordPatterns.Overload

set_option autoImplicit false

namespace RecordPatterns

/-! ## Numbers in ascending order -/

section Ascending

variable {n m : Nat} {ns : List Nat}

/-- Putting a number in its place adds that number and no other. -/
theorem mem_insertAscending_iff : m ∈ insertAscending n ns ↔ m = n ∨ m ∈ ns := by
  induction ns with
  | nil => simp [insertAscending]
  | cons first rest ih =>
    unfold insertAscending
    by_cases hlt : n < first
    · rw [if_pos hlt, List.mem_cons]
    · by_cases heq : n = first
      · rw [if_neg hlt, if_pos heq, heq, List.mem_cons, or_self_left]
      · rw [if_neg hlt, if_neg heq, List.mem_cons, ih, List.mem_cons, or_left_comm]

/-- Its place is where the list stays ascending. -/
theorem pairwise_insertAscending (n : Nat) (h : ns.Pairwise (· < ·)) :
    (insertAscending n ns).Pairwise (· < ·) := by
  induction ns with
  | nil => exact List.pairwise_singleton (· < ·) n
  | cons first rest ih =>
    obtain ⟨hfirst, hrest⟩ := List.pairwise_cons.mp h
    unfold insertAscending
    by_cases hlt : n < first
    · rw [if_pos hlt, List.pairwise_cons]
      refine ⟨fun m hm => ?_, h⟩
      rcases List.mem_cons.mp hm with rfl | hm
      · exact hlt
      · exact Nat.lt_trans hlt (hfirst m hm)
    · by_cases heq : n = first
      · rw [if_neg hlt, if_pos heq]
        exact h
      · rw [if_neg hlt, if_neg heq, List.pairwise_cons]
        refine ⟨fun m hm => ?_, ih hrest⟩
        rcases mem_insertAscending_iff.mp hm with rfl | hm
        · omega
        · exact hfirst m hm

/-- The numbers are those of the list. -/
theorem mem_ascending_iff : m ∈ ascending ns ↔ m ∈ ns := by
  induction ns with
  | nil => rfl
  | cons n rest ih => rw [ascending, List.foldr_cons, mem_insertAscending_iff, List.mem_cons,
      ← ascending, ih]

/-- Each stands there once, the smallest one first. -/
theorem sortedLT_ascending (ns : List Nat) : (ascending ns).SortedLT := by
  refine List.Pairwise.sortedLT ?_
  induction ns with
  | nil => exact List.Pairwise.nil
  | cons n rest ih => exact pairwise_insertAscending n ih

end Ascending

/-! ## Those that apply -/

namespace Registry

variable {r : Registry} {target : TypeId} {shapes : List Shape} {d : Deconstructor}

/-- Whether an output of some type satisfies what an argument asks for. What a
further type pattern asks for is to be related to the subject type of some
deconstructor of its type, or to the type itself if that has none. -/
def Satisfies (r : Registry) (output : TypeId) : Shape → Prop
  | .any => True
  | .binding declared => r.types.isSubtype output declared = true
  | .nested target =>
    (∃ d ∈ r.deconstructors target, r.types.isRelated output d.subject = true)
      ∨ (r.deconstructors target = [] ∧ r.types.isRelated output target = true)

/-- Whether a deconstructor has as many outputs as there are shapes, and each
satisfies the shape at its position. -/
def Applicable (r : Registry) (shapes : List Shape) (d : Deconstructor) : Prop :=
  List.Forall₂ r.Satisfies d.outputs shapes

/-- The registry accepts what satisfies a shape. -/
theorem accepts_iff (shape : Shape) (output : TypeId) :
    r.accepts shape output = true ↔ r.Satisfies output shape := by
  rw [accepts]
  cases shape with
  | any => exact iff_of_true rfl trivial
  | binding declared => rfl
  | nested target =>
    simp only [Shape.accepts, subjects, Satisfies]
    cases hd : r.deconstructors target with
    | nil => simp
    | cons first rest => simp

/-- The registry lets apply what is applicable. -/
theorem applies_iff : r.applies shapes d = true ↔ r.Applicable shapes d := by
  -- the registry goes through the shapes, with the outputs beside them
  have hflip : r.Applicable shapes d
      ↔ List.Forall₂ (fun shape output => r.Satisfies output shape) shapes d.outputs :=
    ⟨List.Forall₂.flip, List.Forall₂.flip⟩
  rw [hflip, List.forall₂_iff_zip, applies, Bool.and_eq_true, decide_eq_true_eq,
    List.all_eq_true, eq_comm]
  refine and_congr_right fun _ => ⟨fun h shape output hpair => ?_, fun h pair hpair => ?_⟩
  · exact (accepts_iff shape output).mp (h (shape, output) hpair)
  · exact (accepts_iff pair.1 pair.2).mpr (h hpair)

/-- What is applicable is decided by the registry. -/
instance (shapes : List Shape) : DecidablePred (r.Applicable shapes) :=
  fun _ => decidable_of_iff _ applies_iff

/-- The deconstructors of a type that are applicable to some shapes, in the order
in which the type has them: its own first, and then those that were added. -/
def candidates (r : Registry) (target : TypeId) (shapes : List Shape) : List Deconstructor :=
  (r.deconstructors target).filter (r.Applicable shapes)

/-- The candidates are what is left when the rest is struck out. -/
theorem filter_applies_eq (r : Registry) (target : TypeId) (shapes : List Shape) :
    (r.deconstructors target).filter (r.applies shapes) = r.candidates target shapes := by
  refine List.filter_congr fun d _ => ?_
  rw [Bool.eq_iff_iff, applies_iff, decide_eq_true_iff]

/-- Being a candidate. -/
theorem mem_candidates_iff :
    d ∈ r.candidates target shapes ↔ d ∈ r.deconstructors target ∧ r.Applicable shapes d := by
  rw [candidates, List.mem_filter, decide_eq_true_iff]

/-- A candidate has one output for each shape. -/
theorem arity_eq_of_mem_candidates (h : d ∈ r.candidates target shapes) :
    d.arity = shapes.length :=
  (mem_candidates_iff.mp h).2.length_eq

/-! ## The answers -/

/-- The numbers of outputs that the deconstructors of a type have: these numbers,
each of them once, and the smallest one first. -/
def ListsArities (r : Registry) (target : TypeId) (arities : List Nat) : Prop :=
  arities.SortedLT ∧ ∀ n, n ∈ arities ↔ ∃ d ∈ r.deconstructors target, d.arity = n

/-- The numbers that the registry lists. -/
theorem listsArities_iff {arities : List Nat} : r.ListsArities target arities
    ↔ arities = ascending ((r.deconstructors target).map Deconstructor.arity) := by
  have hmem : ∀ n, n ∈ ascending ((r.deconstructors target).map Deconstructor.arity)
      ↔ ∃ d ∈ r.deconstructors target, d.arity = n := by
    intro n
    rw [mem_ascending_iff, List.mem_map]
  constructor
  · rintro ⟨hsorted, hthese⟩
    refine hsorted.eq_of_mem_iff (sortedLT_ascending _) fun n => ?_
    rw [hthese, hmem]
  · rintro rfl
    exact ⟨sortedLT_ascending _, hmem⟩

/-- There is nothing to list exactly if there are no deconstructors. -/
theorem ListsArities.eq_nil_iff {arities : List Nat} (h : r.ListsArities target arities) :
    arities = [] ↔ r.deconstructors target = [] := by
  rw [List.eq_nil_iff_forall_not_mem, List.eq_nil_iff_forall_not_mem]
  constructor
  · intro hnone d hd
    exact hnone d.arity ((h.2 d.arity).mpr ⟨d, hd, rfl⟩)
  · intro hnone n hn
    obtain ⟨d, hd, -⟩ := (h.2 n).mp hn
    exact hnone d hd

/-- What there is to list is determined. -/
theorem ListsArities.unique {arities arities' : List Nat} (h : r.ListsArities target arities)
    (h' : r.ListsArities target arities') : arities = arities' :=
  (listsArities_iff.mp h).trans (listsArities_iff.mp h').symm

/-- **One candidate** is found. -/
theorem select_found_iff : r.select target shapes = .found d ↔ r.candidates target shapes = [d] := by
  rw [select, filter_applies_eq]
  cases hcandidates : r.candidates target shapes with
  | nil => simp
  | cons first rest =>
    cases rest with
    | nil => simp
    | cons second rest => simp

/-- **Several candidates** are ambiguous, and the answer names them all. -/
theorem select_ambiguous_iff {ds : List Deconstructor} : r.select target shapes = .ambiguous ds
    ↔ ds = r.candidates target shapes ∧ 2 ≤ (r.candidates target shapes).length := by
  rw [select, filter_applies_eq]
  cases hcandidates : r.candidates target shapes with
  | nil => simp
  | cons first rest =>
    cases rest with
    | nil => simp
    | cons second rest => simp [eq_comm]

/-- **Without candidates** the answer lists the numbers of outputs. -/
theorem select_notFound_iff {arities : List Nat} : r.select target shapes = .notFound arities
    ↔ r.candidates target shapes = [] ∧ r.ListsArities target arities := by
  rw [select, filter_applies_eq, listsArities_iff]
  cases hcandidates : r.candidates target shapes with
  | nil => simp [eq_comm]
  | cons first rest =>
    cases rest with
    | nil => simp
    | cons second rest => simp

end Registry

end RecordPatterns
