/-
What the limit of nesting is good for.

The limit keeps a walk from going too deep. It is not meant to decide what a pattern
comes to, and it does not: under a lower limit, resolving comes to what it comes to
under a higher one, be it a plan or an error, or else it is cut off with the error
that says so. This is `Resolver.limit_only_cuts_off`, for any oracle.

For plans there is hardly anything to prove, as the account of them has the limit in
one place only (`Resolver.resolve_eq_ok_iff_plans`). For errors it is the order that
matters. A pattern may have several things wrong with it, and a limit that is reached
early could hide one and bring up another. But under both limits there is the same
to inspect in the same order, and only the inspections of a level have another outcome
(`Resolver.objection?_limitedTo`). So a list is gone through up to the first level
that the lower limit objects to, and up to there the objections are the same.

What is counted is the nesting of type patterns, the outermost one being one. Plans
count the same, as their nodes are the type patterns. The depth of a pattern does not
quite: there a leaf counts as a level of its own, but a type pattern without arguments
has no leaf, so that it is only known up to one.
-/
import RecordPatterns.Proofs.Inspection

set_option autoImplicit false

namespace RecordPatterns

/-! ## Three ways of counting -/

namespace Pattern

mutual

/-- Depth counts the type patterns, and in addition at most one leaf. -/
theorem nesting_le_depth_le : ∀ p : Pattern, p.nesting ≤ p.depth ∧ p.depth ≤ p.nesting + 1
  | .bind .. => ⟨Nat.zero_le _, Nat.le_refl 1⟩
  | .discard _ => ⟨Nat.zero_le _, Nat.le_refl 1⟩
  | .record _ patterns _ => by
    have hinside := nestingAll_le_deepest_le patterns
    rw [nesting, depth]
    omega

/-- The same of the deepest of several patterns. -/
theorem nestingAll_le_deepest_le : ∀ patterns : List Pattern,
    nestingAll patterns ≤ deepest patterns ∧ deepest patterns ≤ nestingAll patterns + 1
  | [] => ⟨Nat.le_refl 0, Nat.zero_le _⟩
  | p :: rest => by
    have hfirst := p.nesting_le_depth_le
    have hothers := nestingAll_le_deepest_le rest
    rw [nestingAll, deepest]
    omega

end

/-! ## The levels that are inspected -/

variable {oracle : Oracle} {reached : Nat} {place : Span}

mutual

/-- **One pattern.** No level is inspected that is not one of a type pattern in it. -/
theorem level_le_of_mem_inspections : ∀ (p : Pattern) {level : Nat} {output : TypeId}
    {earlier : List (Symbol × Span)},
    .nesting reached place ∈ p.inspections oracle level output earlier →
      reached + 1 ≤ level + p.nesting
  | .bind name type span, _, _, _, h => by simp [inspections] at h
  | .discard span, _, _, _, h => by simp [inspections] at h
  | .record target patterns span, level, output, earlier, h => by
    rw [nesting]
    rw [inspections] at h
    cases hanswer : oracle target (patterns.map Shape.ofPattern) with
    | found d =>
      simp only [hanswer, List.mem_cons, Inspection.nesting.injEq, reduceCtorEq, false_or] at h
      rcases h with ⟨rfl, -⟩ | h
      · omega
      · have hinside := level_le_of_mem_inspectionsAll patterns h
        omega
    | ambiguous candidates =>
      obtain ⟨rfl, -⟩ := by simpa [hanswer] using h
      omega
    | notFound arities =>
      obtain ⟨rfl, -⟩ := by simpa [hanswer] using h
      omega

/-- **Several patterns.** -/
theorem level_le_of_mem_inspectionsAll : ∀ (patterns : List Pattern) {level : Nat}
    {outputs : List TypeId} {earlier : List (Symbol × Span)},
    .nesting reached place ∈ inspectionsAll oracle level outputs earlier patterns →
      reached + 1 ≤ level + nestingAll patterns
  | [], _, _, _, h => by simp [inspectionsAll] at h
  | p :: rest, level, outputs, earlier, h => by
    cases outputs with
    | nil => simp [inspectionsAll] at h
    | cons output outputs =>
      rw [nestingAll]
      rw [inspectionsAll, List.mem_append] at h
      rcases h with h | h
      · have hfirst := level_le_of_mem_inspections p h
        omega
      · have hothers := level_le_of_mem_inspectionsAll rest h
        omega

end

end Pattern

/-! ## Two limits -/

namespace Resolver

/-- The same resolver with another limit. -/
def limitedTo (s : Resolver) (limit : Nat) : Resolver := { s with maxDepth := limit }

variable {s : Resolver} {limit limit' : Nat} {subject : Subject} {target : TypeId}
  {patterns : List Pattern}

/-- A level that the limit allows is not objected to. All other inspections have the
same outcome whatever the limit is. -/
theorem objection?_limitedTo {i : Inspection} (hle : limit ≤ limit') :
    (s.limitedTo limit).objection? i = (s.limitedTo limit').objection? i
      ∨ ∃ place, (s.limitedTo limit).objection? i = some (.tooDeep limit place) := by
  cases i with
  | nesting level place =>
    by_cases hdeep : limit < level
    · exact .inr ⟨place, if_pos hdeep⟩
    · have hallowed : ¬ limit' < level := fun h => hdeep (Nat.lt_of_le_of_lt hle h)
      exact .inl ((if_neg hdeep).trans (if_neg hallowed).symm)
  | _ => exact .inl rfl

/-- Under the lower limit, the first objection is the same, unless it is to a level. -/
theorem findSome?_limitedTo (hle : limit ≤ limit') (l : List Inspection) :
    l.findSome? (s.limitedTo limit).objection? = l.findSome? (s.limitedTo limit').objection?
      ∨ ∃ place, l.findSome? (s.limitedTo limit).objection? = some (.tooDeep limit place) := by
  induction l with
  | nil => exact .inl rfl
  | cons i rest ih =>
    rw [List.findSome?_cons, List.findSome?_cons]
    rcases objection?_limitedTo (i := i) (s := s) hle with hsame | ⟨place, hdeep⟩
    · rw [hsame]
      cases (s.limitedTo limit').objection? i with
      | none => exact ih
      | some e => exact .inl rfl
    · rw [hdeep]
      exact .inr ⟨place, rfl⟩

/-- Nothing but a level that is not allowed leads to the error that says so. -/
theorem objection?_eq_tooDeep_iff {i : Inspection} {allowed : Nat} {place : Span} :
    s.objection? i = some (.tooDeep allowed place)
      ↔ ∃ level, i = .nesting level place ∧ allowed = s.maxDepth ∧ s.maxDepth < level := by
  cases i with
  | nesting level place' =>
    simp only [objection?, Inspection.nesting.injEq]
    by_cases hdeep : s.maxDepth < level
    · rw [if_pos hdeep]
      simp [hdeep, eq_comm, and_comm]
    · rw [if_neg hdeep]
      simp [hdeep]
  | query target patterns place' =>
    simp only [objection?, reduceCtorEq, false_and, exists_false, iff_false]
    cases s.oracle target (patterns.map Shape.ofPattern) with
    | found d => simp
    | ambiguous candidates => simp
    | notFound arities =>
      simp only
      split <;> simp
  | _ => simp [objection?, mismatch]

/-- **The error that a pattern is nested too deeply** shows the limit, and is right. -/
theorem lt_nesting_of_tooDeep {allowed : Nat} {place : Span}
    (h : s.resolve subject target patterns = .error (.tooDeep allowed place)) :
    allowed = s.maxDepth
      ∧ s.maxDepth < (Pattern.record target patterns subject.span).nesting := by
  rw [resolve_eq_error_iff_findSome?] at h
  obtain ⟨i, hmem, hobjects⟩ := List.exists_of_findSome?_eq_some h
  obtain ⟨level, rfl, hlimit, hdeep⟩ := objection?_eq_tooDeep_iff.mp hobjects
  have hlevel := Pattern.level_le_of_mem_inspections _ hmem
  exact ⟨hlimit, by omega⟩

/-- **What a pattern comes to under the lower limit** is what it comes to under the
higher one, unless it is cut off. -/
theorem resolve_limitedTo (hle : limit ≤ limit') :
    (s.limitedTo limit).resolve subject target patterns
        = (s.limitedTo limit').resolve subject target patterns
      ∨ ∃ place, (s.limitedTo limit).resolve subject target patterns
        = .error (.tooDeep limit place) := by
  cases hresolve : (s.limitedTo limit).resolve subject target patterns with
  | ok plan =>
    obtain ⟨hdepth, hplans, hnames⟩ := resolve_eq_ok_iff_plans.mp hresolve
    have hhigher : (s.limitedTo limit').resolve subject target patterns = .ok plan :=
      resolve_eq_ok_iff_plans.mpr ⟨Nat.le_trans hdepth hle, hplans, hnames⟩
    exact .inl hhigher.symm
  | error e =>
    have hfirst := resolve_eq_error_iff_findSome?.mp hresolve
    rcases findSome?_limitedTo (s := s) hle _ with hsame | ⟨place, hdeep⟩
    · have hhigher : (s.limitedTo limit').resolve subject target patterns = .error e :=
        resolve_eq_error_iff_findSome?.mpr (hsame.symm.trans hfirst)
      exact .inl hhigher.symm
    · rw [Option.some.inj (hfirst.symm.trans hdeep)]
      exact .inr ⟨place, rfl⟩

/-- **The limit only cuts off.** Of two limits, resolving under the lower one comes to
exactly what it comes to under the higher one, or to the error that the pattern is
nested more deeply than the lower one allows. That error never lies, and a pattern that
is nested more deeply never gets a plan. What gets a plan has a plan as deep as its type
patterns are nested, which is no deeper than allowed; and the depth of the pattern itself
is the same or one more. -/
theorem limit_only_cuts_off (s : Resolver) (subject : Subject) (target : TypeId)
    (patterns : List Pattern) {limit limit' : Nat} (hle : limit ≤ limit') :
    ((s.limitedTo limit).resolve subject target patterns
          = (s.limitedTo limit').resolve subject target patterns
        ∨ ∃ place, (s.limitedTo limit).resolve subject target patterns
          = .error (.tooDeep limit place))
      ∧ (∀ allowed place, (s.limitedTo limit).resolve subject target patterns
          = .error (.tooDeep allowed place) →
        allowed = limit ∧ limit < (Pattern.record target patterns subject.span).nesting)
      ∧ (limit < (Pattern.record target patterns subject.span).nesting →
        ∀ plan, (s.limitedTo limit).resolve subject target patterns ≠ .ok plan)
      ∧ (∀ plan, (s.limitedTo limit).resolve subject target patterns = .ok plan →
        plan.depth = (Pattern.record target patterns subject.span).nesting
          ∧ (Pattern.record target patterns subject.span).nesting ≤ limit)
      ∧ (Pattern.record target patterns subject.span).nesting
          ≤ (Pattern.record target patterns subject.span).depth
      ∧ (Pattern.record target patterns subject.span).depth
          ≤ (Pattern.record target patterns subject.span).nesting + 1 := by
  refine ⟨resolve_limitedTo hle, fun _ _ h => lt_nesting_of_tooDeep h, fun hdeep plan h => ?_,
    fun plan h => ?_, Pattern.nesting_le_depth_le _⟩
  · obtain ⟨hdepth, -, -⟩ := resolve_eq_ok_iff_plans.mp h
    exact absurd hdepth (Nat.not_le.mpr hdeep)
  · obtain ⟨hdepth, hplans, -⟩ := resolve_eq_ok_iff_plans.mp h
    exact ⟨hplans.shape.2, hdepth⟩

end Resolver

/-- Arguments that are nested on two levels, of which the inner one has no leaf, and a
variable that cannot have the type that it states. -/
def folded : List Pattern :=
  [.record .object [.record .object [] ⟨9, 17⟩] ⟨1, 18⟩, .bind ⟨4⟩ (some .int) ⟨20, 25⟩]

/-- Where two levels are allowed, the third one is what is wrong. Where three are, the
walk gets to the variable, and there it ends under any higher limit as well. Without the
variable there is a plan of just these three levels. -/
theorem limit_only_cuts_off_folded :
    (openHanded.limitedTo 2).resolve ⟨⟨0⟩, .object, ⟨0, 26⟩⟩ .object folded
        = .error (.tooDeep 2 ⟨9, 17⟩)
      ∧ 2 < (Pattern.record .object folded ⟨0, 26⟩).nesting
      ∧ (∀ plan, (openHanded.limitedTo 2).resolve ⟨⟨0⟩, .object, ⟨0, 26⟩⟩ .object folded ≠ .ok plan)
      ∧ (openHanded.limitedTo 3).resolve ⟨⟨0⟩, .object, ⟨0, 26⟩⟩ .object folded
        = .error (.typeMismatch "int" "object" ⟨20, 25⟩)
      ∧ (∀ limit, 3 ≤ limit → (openHanded.limitedTo limit).resolve ⟨⟨0⟩, .object, ⟨0, 26⟩⟩ .object
        folded = .error (.typeMismatch "int" "object" ⟨20, 25⟩))
      ∧ ∃ plan, (openHanded.limitedTo 3).resolve ⟨⟨0⟩, .object, ⟨0, 26⟩⟩ .object (folded.take 1)
        = .ok plan ∧ plan.depth = 3 := by
  have hcut : (openHanded.limitedTo 2).resolve ⟨⟨0⟩, .object, ⟨0, 26⟩⟩ .object folded
      = .error (.tooDeep 2 ⟨9, 17⟩) := rfl
  have huncut : (openHanded.limitedTo 3).resolve ⟨⟨0⟩, .object, ⟨0, 26⟩⟩ .object folded
      = .error (.typeMismatch "int" "object" ⟨20, 25⟩) := rfl
  obtain ⟨-, hlimit, hplans, -⟩ := openHanded.limit_only_cuts_off ⟨⟨0⟩, .object, ⟨0, 26⟩⟩ .object
    folded (show 2 ≤ 3 by decide)
  obtain ⟨-, hdeep⟩ := hlimit 2 ⟨9, 17⟩ hcut
  refine ⟨hcut, hdeep, hplans hdeep, huncut, fun limit hle => ?_, _, rfl, ?_⟩
  · obtain ⟨hsame | ⟨place, hdeeper⟩, -⟩ :=
      openHanded.limit_only_cuts_off ⟨⟨0⟩, .object, ⟨0, 26⟩⟩ .object folded hle
    · rw [← hsame, huncut]
    · rw [huncut] at hdeeper
      cases hdeeper
  · obtain ⟨-, -, -, hplan, -⟩ := openHanded.limit_only_cuts_off ⟨⟨0⟩, .object, ⟨0, 26⟩⟩ .object
      (folded.take 1) (Nat.le_refl 3)
    exact (hplan _ rfl).1

end RecordPatterns
