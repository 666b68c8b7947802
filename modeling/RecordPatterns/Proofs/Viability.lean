/-
No overload is struck out that would have worked.

Before anything inside a pattern is resolved, the registry strikes out
deconstructors by the shapes of the arguments. It looks at the type that a
variable states, and at the subject types of everything that a type pattern might
turn out to be. The resolver asks other questions later: whether the type of a
variable accepts the output, and, of the one deconstructor that a type pattern
did turn out to be, whether there is a test for it. The first look may not be
stricter than the second. If it were, then a pattern could be refused, or another
overload be chosen for it, though there is a plan with the one that was struck
out.

It is not stricter: an argument that resolves has satisfied its shape
(`Resolver.fits_of_argument`). What is resolved below a type pattern does not
matter for this, only which deconstructor was found for it and that there was a
test. So there is no induction over nesting, and the one over the arguments needs
as many outputs as there are arguments, since resolving stops where either ends.
-/
import RecordPatterns.Proofs.Elaboration
import RecordPatterns.Proofs.History

set_option autoImplicit false

namespace RecordPatterns

namespace Resolver

variable {s : Resolver} {r : Registry} {level index : Nat} {source : Source}
  {static target output : TypeId} {patterns : List Pattern} {span : Span} {bound bound' : Bound}
  {d : Deconstructor}

/-! ## What has resolved has fitted -/

/-- A variable that is bound has a type that accepts the output. -/
theorem isSubtype_of_bindVariable {name : Symbol} {declared : TypeId}
    (h : s.bindVariable name (some declared) span output bound = .ok bound') :
    s.types.isSubtype output declared = true := by
  by_contra hrefused
  simp [bindVariable, hrefused] at h

/-- A type pattern that comes to a plan is for a type that has a deconstructor
whose subject is related to the output. -/
theorem exists_related_of_node (hs : s.Uses r) {result : Plan × Bound}
    {arguments : List TypeId → Except ResolutionError (List Argument × Bound)}
    (hselect : s.select level target patterns span = .ok d)
    (hnode : s.node d source output target span arguments = .ok result) :
    ∃ d ∈ r.deconstructors target, r.types.isRelated output d.subject = true := by
  obtain ⟨test, args, hnarrows, -⟩ := node_eq_ok_iff.mp hnode
  have hmem := ((select_eq_ok_iff hs).mp hselect).2.mem
  have hrelated := TypeTable.exists_narrows_iff.mp ⟨test, hnarrows⟩
  rw [hs.types] at hrelated
  exact ⟨d, hmem, hrelated⟩

/-- **One argument** that resolves can receive its output. -/
theorem fits_of_argument (hs : s.Uses r) {p : Pattern} {a : Argument}
    (h : s.argument level index output bound p = .ok (a, bound')) : r.Fits output p := by
  cases p with
  | bind name type span =>
    rw [argument] at h
    obtain ⟨b, hb, -⟩ := bind_eq_ok_iff.mp h
    cases type with
    | none => trivial
    | some declared =>
      rw [Registry.Fits, ← hs.types]
      exact isSubtype_of_bindVariable hb
  | discard span => trivial
  | record target patterns span =>
    rw [argument] at h
    obtain ⟨d, hd, hrest⟩ := bind_eq_ok_iff.mp h
    obtain ⟨result, hnode, -⟩ := bind_eq_ok_iff.mp hrest
    exact .inl (exists_related_of_node hs hd hnode)

/-- **Several arguments** that resolve can each receive its output, if there are
as many of the one as of the other. -/
theorem fits_of_arguments (hs : s.Uses r) {outputs : List TypeId} {result : List Argument × Bound}
    (hlength : outputs.length = patterns.length)
    (h : s.arguments level index outputs bound patterns = .ok result) :
    List.Forall₂ r.Fits outputs patterns := by
  induction patterns generalizing index outputs bound result with
  | nil =>
    rw [List.eq_nil_of_length_eq_zero hlength]
    exact .nil
  | cons p rest ih =>
    cases outputs with
    | nil => cases hlength
    | cons output outputs =>
      rw [arguments] at h
      obtain ⟨⟨a, b⟩, hfirst, hrest⟩ := bind_eq_ok_iff.mp h
      obtain ⟨others, hothers, -⟩ := bind_eq_ok_iff.mp hrest
      exact .cons (fits_of_argument hs hfirst) (ih (Nat.succ.inj hlength) hothers)

/-- A deconstructor with which a type pattern comes to a plan suits the arguments,
whether or not it is what the registry has found. -/
theorem suits_of_nodeWith (hs : s.Uses r) {result : Plan × Bound}
    (harity : d.arity = patterns.length)
    (h : s.nodeWith d level source static target patterns span bound = .ok result) :
    r.Suits patterns d := by
  obtain ⟨test, args, -, hargs, -⟩ := node_eq_ok_iff.mp h
  exact fits_of_arguments hs harity hargs

/-! ## What is struck out -/

/-- **All plans come from candidates.** To try every deconstructor of a type that
has an output for each argument would lead to no plan that the candidates do not
lead to. -/
theorem exists_nodeWith_iff_candidates (hs : s.Uses r) {result : Plan × Bound} :
    (∃ d ∈ r.deconstructors target, d.arity = patterns.length
        ∧ s.nodeWith d level source static target patterns span bound = .ok result)
      ↔ ∃ d ∈ r.candidates target (patterns.map Shape.ofPattern),
          s.nodeWith d level source static target patterns span bound = .ok result := by
  simp only [Registry.mem_candidates_iff, Registry.applicable_map_ofPattern_iff]
  constructor
  · rintro ⟨d, hd, harity, hplan⟩
    exact ⟨d, ⟨hd, suits_of_nodeWith hs harity hplan⟩, hplan⟩
  · rintro ⟨d, ⟨hd, hsuits⟩, hplan⟩
    exact ⟨d, hd, hsuits.length_eq, hplan⟩

/-- **Nothing viable is struck out.** If a deconstructor has an output for each
argument of a type pattern and yet does not apply, then going on with it, at any
level, for any static type and after whatever variables have been bound, ends in
an error. -/
theorem no_viable_overload_struck_out (r : Registry) (maxDepth : Nat) {target : TypeId}
    {patterns : List Pattern} {d : Deconstructor} (harity : d.arity = patterns.length)
    (hstruck : r.applies (patterns.map Shape.ofPattern) d = false) (level : Nat)
    (source : Source) (static : TypeId) (span : Span) (bound : Bound) :
    ∃ e, (ofRegistry r maxDepth).nodeWith d level source static target patterns span bound
      = .error e := by
  cases hrun :
      (ofRegistry r maxDepth).nodeWith d level source static target patterns span bound with
  | error e => exact ⟨e, rfl⟩
  | ok result =>
    have hsuits := suits_of_nodeWith (uses_ofRegistry r maxDepth) harity hrun
    rw [← Registry.applicable_map_ofPattern_iff, ← Registry.applies_iff, hstruck] at hsuits
    cases hsuits

end Resolver

/-- Crates, lids that take crates off, and parcels, which can be opened to find
either a crate or a note. -/
def parcels : Registry := .after .empty
  [ .introduce .record "Crate" .object,
    .declare ⟨⟨4⟩, .nominal 0, [⟨⟨5⟩, .int, false, .generated⟩], [], .generated⟩,
    .introduce .reference "Lid" .object,
    .add (.nominal 1) [⟨⟨6⟩, .deconstructor (.nominal 0) [.int], some ⟨0⟩, .generated⟩],
    .introduce .record "Parcel" .object,
    .declare ⟨⟨8⟩, .nominal 2, [],
      [ ⟨⟨9⟩, .deconstructor (.nominal 2) [.nominal 0], some ⟨1⟩, ⟨10, 11⟩⟩,
        ⟨⟨9⟩, .deconstructor (.nominal 2) [.text], some ⟨2⟩, ⟨20, 21⟩⟩ ], .generated⟩ ]

/-- What opens a parcel to find a crate. -/
def toCrate : Deconstructor :=
  ⟨.nominal 2, .nominal 2, [.nominal 0], .written (some ⟨1⟩), ⟨10, 11⟩⟩

/-- What opens a parcel to find a note. -/
def toNote : Deconstructor :=
  ⟨.nominal 2, .nominal 2, [.text], .written (some ⟨2⟩), ⟨20, 21⟩⟩

/-- The argument of a parcel is a lid. -/
def underLid : List Pattern := [.record (.nominal 1) [.bind ⟨7⟩ none ⟨3, 4⟩] ⟨2, 5⟩]

/-- The argument of a parcel names the type of notes, which has no deconstructors. -/
def asNote : List Pattern := [.record .text [] ⟨2, 5⟩]

/-- Lids take off crates and no notes. So there is no use in going on with a note
under a lid, nor with a crate that is to be a note. With a crate under a lid there
is, and it is the one that is left. -/
theorem no_viable_overload_struck_out_parcels :
    parcels.deconstructors (.nominal 2) = [toCrate, toNote]
      ∧ (parcels.select (.nominal 2) (underLid.map Shape.ofPattern) = .found toCrate
        ∧ ∃ result, (Resolver.ofRegistry parcels 64).nodeWith toCrate 1 (.expression ⟨0⟩) .object
          (.nominal 2) underLid ⟨1, 6⟩ [] = .ok result)
      ∧ (toNote.arity = underLid.length
        ∧ parcels.applies (underLid.map Shape.ofPattern) toNote = false
        ∧ ∃ e, (Resolver.ofRegistry parcels 64).nodeWith toNote 1 (.expression ⟨0⟩) .object
          (.nominal 2) underLid ⟨1, 6⟩ [] = .error e)
      ∧ (toCrate.arity = asNote.length
        ∧ parcels.applies (asNote.map Shape.ofPattern) toCrate = false
        ∧ ∃ e, (Resolver.ofRegistry parcels 64).nodeWith toCrate 1 (.expression ⟨0⟩) .object
          (.nominal 2) asNote ⟨1, 6⟩ [(⟨7⟩, ⟨0, 1⟩)] = .error e) := by
  have hnote : parcels.applies (underLid.map Shape.ofPattern) toNote = false := by decide
  have hcrate : parcels.applies (asNote.map Shape.ofPattern) toCrate = false := by decide
  refine ⟨by decide, ⟨by decide, _, rfl⟩, ⟨rfl, hnote, ?_⟩, ⟨rfl, hcrate, ?_⟩⟩
  · exact Resolver.no_viable_overload_struck_out parcels 64 rfl hnote 1 (.expression ⟨0⟩) .object
      ⟨1, 6⟩ []
  · exact Resolver.no_viable_overload_struck_out parcels 64 rfl hcrate 1 (.expression ⟨0⟩) .object
      ⟨1, 6⟩ [(⟨7⟩, ⟨0, 1⟩)]

end RecordPatterns
