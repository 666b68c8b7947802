/-
Where resolving stops, and with what error.

A pattern goes through checks in a fixed order. At a type pattern they are about
its nesting, the query for its deconstructor, the number of outputs that this
has, and the static type, and then the arguments have their turn from left to
right; at a variable they are about the type that it states and about its name.
A match that is refused was stopped by one of these checks, after all checks
before it had passed. `Resolver.Stops` is this account, with one rule for each
check, and `Resolver.resolve_eq_error_iff` says that it is right for every
resolver: the errors are those that the account has, and the check is part of it.

With a registry as the oracle two of the six checks never stop anything. What the
registry finds has one output for each argument, and each variable that states a
type accepts the output at its place; it is for lack of this that others were
struck out. So `Registry.overload_answers_exact` can tell from the candidates
alone not only what the registry answers, but also which error a query at any
place of a pattern leads to.
-/
import RecordPatterns.Proofs.Elaboration

set_option autoImplicit false

namespace RecordPatterns

/-! ## The account -/

/-- The checks that a pattern goes through: four at a type pattern, in this order
and before its arguments, and two at a variable. -/
inductive Check where
  /-- It is not nested too deeply. -/
  | nesting
  /-- The oracle finds a deconstructor for the arguments. -/
  | query (target : TypeId) (patterns : List Pattern) (span : Span)
  /-- This has one output for each of them. -/
  | arity
  /-- The static type is related to the type that it takes. -/
  | narrowing
  /-- The type that the variable states accepts the output. -/
  | statedType
  /-- Its name was not bound before. -/
  | newName

namespace Resolver

/-- The error of a query, at some type pattern, for which nothing was found. -/
inductive QueryFails (s : Resolver) (target : TypeId) (patterns : List Pattern) (span : Span) :
    ResolutionError → Prop
  | ambiguous {candidates : List Deconstructor}
      (answer : s.oracle target (patterns.map Shape.ofPattern) = .ambiguous candidates) :
      s.QueryFails target patterns span
        (.ambiguous (s.typeName target) candidates.length (candidates.map Deconstructor.span) span)
  | miscounted {arities : List Nat}
      (answer : s.oracle target (patterns.map Shape.ofPattern) = .notFound arities)
      (some : arities ≠ []) (others : patterns.length ∉ arities) :
      s.QueryFails target patterns span
        (.arityMismatch (s.typeName target) arities patterns.length span)
  | noneApplies {arities : List Nat}
      (answer : s.oracle target (patterns.map Shape.ofPattern) = .notFound arities)
      (counted : arities = [] ∨ patterns.length ∈ arities) :
      s.QueryFails target patterns span
        (.noDeconstructor (s.typeName target) patterns.length span)

mutual

/-- Resolving a type pattern, at some level, for a static type, and after some
variables have been bound, stops at a check, with an error. -/
inductive Stops (s : Resolver) :
    Nat → TypeId → TypeId → List Pattern → Span → Bound → Check → ResolutionError → Prop
  | nesting {level : Nat} {static target : TypeId} {patterns : List Pattern} {span : Span}
      {bound : Bound} (deep : s.maxDepth < level) :
      Stops s level static target patterns span bound .nesting (.tooDeep s.maxDepth span)
  | query {level : Nat} {static target : TypeId} {patterns : List Pattern} {span : Span}
      {bound : Bound} {e : ResolutionError} (allowed : level ≤ s.maxDepth)
      (failed : s.QueryFails target patterns span e) :
      Stops s level static target patterns span bound (.query target patterns span) e
  | arity {level : Nat} {static target : TypeId} {patterns : List Pattern} {span : Span}
      {bound : Bound} {d : Deconstructor} (allowed : level ≤ s.maxDepth)
      (found : s.oracle target (patterns.map Shape.ofPattern) = .found d)
      (differs : d.arity ≠ patterns.length) :
      Stops s level static target patterns span bound .arity
        (.arityMismatch (s.typeName target) [d.arity] patterns.length span)
  | narrowing {level : Nat} {static target : TypeId} {patterns : List Pattern} {span : Span}
      {bound : Bound} {d : Deconstructor}
      (selected : s.select level target patterns span = .ok d)
      (apart : s.types.isRelated static d.subject = false) :
      Stops s level static target patterns span bound .narrowing (s.mismatch d.subject static span)
  | inside {level : Nat} {static target : TypeId} {patterns : List Pattern} {span : Span}
      {bound : Bound} {d : Deconstructor} {check : Check} {e : ResolutionError}
      (selected : s.select level target patterns span = .ok d)
      (related : s.types.isRelated static d.subject = true)
      (among : StopsAmong s level 0 d.outputs bound patterns check e) :
      Stops s level static target patterns span bound check e

/-- Resolving an argument of a type pattern at some level, for an output of some
type, stops at a check. A discard never does. -/
inductive StopsAt (s : Resolver) :
    Nat → TypeId → Bound → Pattern → Check → ResolutionError → Prop
  | statedType {level : Nat} {output declared : TypeId} {bound : Bound} {name : Symbol}
      {span : Span} (refused : s.types.isSubtype output declared = false) :
      StopsAt s level output bound (.bind name (some declared) span) .statedType
        (s.mismatch declared output span)
  | newName {level : Nat} {output : TypeId} {bound : Bound} {name : Symbol} {type : Option TypeId}
      {span first : Span}
      (accepted : ∀ declared, type = some declared → s.types.isSubtype output declared = true)
      (taken : bound.lookup name = some first) :
      StopsAt s level output bound (.bind name type span) .newName
        (.duplicateBinding (s.symbols.text name) first span)
  | nested {level : Nat} {output target : TypeId} {bound : Bound} {patterns : List Pattern}
      {span : Span} {check : Check} {e : ResolutionError}
      (inside : Stops s (level + 1) output target patterns span bound check e) :
      StopsAt s level output bound (.record target patterns span) check e

/-- Resolving the arguments of a type pattern from some position on stops at a
check, in the first argument or, after this was resolved, in one of the others. -/
inductive StopsAmong (s : Resolver) :
    Nat → Nat → List TypeId → Bound → List Pattern → Check → ResolutionError → Prop
  | first {level index : Nat} {output : TypeId} {outputs : List TypeId} {bound : Bound}
      {p : Pattern} {rest : List Pattern} {check : Check} {e : ResolutionError}
      (here : StopsAt s level output bound p check e) :
      StopsAmong s level index (output :: outputs) bound (p :: rest) check e
  | later {level index : Nat} {output : TypeId} {outputs : List TypeId} {bound bound' : Bound}
      {p : Pattern} {rest : List Pattern} {a : Argument} {check : Check} {e : ResolutionError}
      (resolved : s.argument level index output bound p = .ok (a, bound'))
      (others : StopsAmong s level (index + 1) outputs bound' rest check e) :
      StopsAmong s level index (output :: outputs) bound (p :: rest) check e

end

/-! ## The account is right -/

variable {s : Resolver} {r : Registry} {level index : Nat} {d : Deconstructor}
  {source : Source} {static target output : TypeId} {patterns : List Pattern} {span : Span}
  {bound : Bound} {check : Check} {e : ResolutionError}

/-- A sequence of two steps fails where the first does, or where the second does
after the first has not. -/
theorem bind_eq_error_iff {α β : Type} {x : Except ResolutionError α}
    {next : α → Except ResolutionError β} :
    (x >>= next) = .error e ↔ x = .error e ∨ ∃ a, x = .ok a ∧ next a = .error e := by
  cases x with
  | error e' => simp [bind, Except.bind]
  | ok a => simp [bind, Except.bind]

/-- The first half of a type pattern goes through three checks. -/
theorem select_eq_error_iff : s.select level target patterns span = .error e ↔
    (s.maxDepth < level ∧ e = .tooDeep s.maxDepth span)
      ∨ (level ≤ s.maxDepth ∧ s.QueryFails target patterns span e)
      ∨ (level ≤ s.maxDepth ∧ ∃ d, s.oracle target (patterns.map Shape.ofPattern) = .found d
        ∧ d.arity ≠ patterns.length
        ∧ e = .arityMismatch (s.typeName target) [d.arity] patterns.length span) := by
  unfold select
  by_cases hlevel : s.maxDepth < level
  · rw [if_pos hlevel]
    simp [hlevel, Nat.not_le.mpr hlevel, eq_comm]
  · rw [if_neg hlevel]
    simp only [hlevel, Nat.not_lt.mp hlevel, false_and, true_and, false_or]
    constructor
    · intro h
      cases hanswer : s.oracle target (patterns.map Shape.ofPattern) with
      | found d =>
        simp only [hanswer] at h
        by_cases harity : d.arity = patterns.length
        · rw [if_pos harity] at h
          cases h
        · rw [if_neg harity] at h
          cases h
          exact .inr ⟨d, rfl, harity, rfl⟩
      | ambiguous candidates =>
        simp only [hanswer] at h
        cases h
        exact .inl (.ambiguous hanswer)
      | notFound arities =>
        simp only [hanswer] at h
        by_cases hcounted : arities = [] ∨ patterns.length ∈ arities
        · rw [if_pos hcounted] at h
          cases h
          exact .inl (.noneApplies hanswer hcounted)
        · rw [if_neg hcounted] at h
          cases h
          rw [not_or] at hcounted
          exact .inl (.miscounted hanswer hcounted.1 hcounted.2)
    · rintro (hfails | ⟨d, hfound, hdiffers, rfl⟩)
      · cases hfails with
        | ambiguous answer => rw [answer]
        | miscounted answer some others => simp only [answer, some, others, or_self, if_false]
        | noneApplies answer counted => simp only [answer, counted, if_true]
      · simp only [hfound, hdiffers, if_false]

/-- The second half goes through one check and then on to the arguments. -/
theorem node_eq_error_iff
    {arguments : List TypeId → Except ResolutionError (List Argument × Bound)} :
    s.node d source static target span arguments = .error e ↔
      (s.types.isRelated static d.subject = false ∧ e = s.mismatch d.subject static span)
        ∨ (s.types.isRelated static d.subject = true ∧ arguments d.outputs = .error e) := by
  have htested : (∃ test, s.typeTest static d.subject span = .ok test)
      ↔ s.types.isRelated static d.subject = true := by
    simp only [typeTest_eq_ok_iff, TypeTable.exists_narrows_iff]
  unfold node
  simp only [bind_eq_error_iff, typeTest_eq_error_iff, pure, Except.pure, reduceCtorEq, and_false,
    exists_false, or_false]
  rw [exists_and_right, htested]

/-- A variable that states no type has to have a new name. -/
theorem bindVariable_none_eq_error_iff {name : Symbol} :
    s.bindVariable name none span output bound = .error e
      ↔ ∃ first, bound.lookup name = some first
        ∧ e = .duplicateBinding (s.symbols.text name) first span := by
  cases htaken : bound.lookup name with
  | none => simp [bindVariable, htaken]
  | some first => simp [bindVariable, htaken, eq_comm]

/-- A variable goes through two checks. -/
theorem bindVariable_eq_error_iff {name : Symbol} {type : Option TypeId} :
    s.bindVariable name type span output bound = .error e
      ↔ ∃ check, s.StopsAt level output bound (.bind name type span) check e := by
  by_cases haccepted : ∀ declared, type = some declared → s.types.isSubtype output declared = true
  · rw [bindVariable_eq_of_accepted haccepted, bindVariable_none_eq_error_iff]
    constructor
    · rintro ⟨first, htaken, rfl⟩
      exact ⟨_, .newName haccepted htaken⟩
    · rintro ⟨check, hstops⟩
      cases hstops with
      | statedType refused => simp [haccepted] at refused
      | newName _ taken => exact ⟨_, taken, rfl⟩
  · push Not at haccepted
    obtain ⟨declared, rfl, hrefused⟩ := haccepted
    rw [ne_eq, Bool.not_eq_true] at hrefused
    have hfails : s.bindVariable name (some declared) span output bound
        = .error (s.mismatch declared output span) := by
      simp [bindVariable, hrefused]
    rw [hfails, Except.error.injEq]
    constructor
    · rintro rfl
      exact ⟨_, .statedType hrefused⟩
    · rintro ⟨check, hstops⟩
      cases hstops with
      | statedType _ => rfl
      | newName accepted _ => simp [accepted] at hrefused

/-- **One type pattern**, given that the account is right about its arguments. -/
theorem exists_stops_iff_of_arguments
    (harguments : ∀ outputs, s.arguments level 0 outputs bound patterns = .error e
      ↔ ∃ check, s.StopsAmong level 0 outputs bound patterns check e) :
    (s.select level target patterns span = .error e
      ∨ ∃ d, s.select level target patterns span = .ok d
        ∧ s.nodeWith d level source static target patterns span bound = .error e)
      ↔ ∃ check, s.Stops level static target patterns span bound check e := by
  simp only [nodeWith, node_eq_error_iff, harguments, select_eq_error_iff]
  constructor
  · rintro ((⟨hdeep, rfl⟩ | ⟨hallowed, hfails⟩ | ⟨hallowed, d, hfound, hdiffers, rfl⟩)
      | ⟨d, hselected, ⟨hapart, rfl⟩ | ⟨hrelated, check, hamong⟩⟩)
    · exact ⟨_, .nesting hdeep⟩
    · exact ⟨_, .query hallowed hfails⟩
    · exact ⟨_, .arity hallowed hfound hdiffers⟩
    · exact ⟨_, .narrowing hselected hapart⟩
    · exact ⟨check, .inside hselected hrelated hamong⟩
  · rintro ⟨check, hstops⟩
    cases hstops with
    | nesting deep => exact .inl (.inl ⟨deep, rfl⟩)
    | query allowed failed => exact .inl (.inr (.inl ⟨allowed, failed⟩))
    | arity allowed found differs =>
      exact .inl (.inr (.inr ⟨allowed, _, found, differs, rfl⟩))
    | narrowing selected apart => exact .inr ⟨_, selected, .inl ⟨apart, rfl⟩⟩
    | inside selected related among => exact .inr ⟨_, selected, .inr ⟨related, check, among⟩⟩

mutual

/-- **One argument.** -/
theorem argument_eq_error_iff : ∀ (p : Pattern) (level index : Nat) (output : TypeId)
    (bound : Bound) (e : ResolutionError),
    s.argument level index output bound p = .error e
      ↔ ∃ check, s.StopsAt level output bound p check e
  | .bind name type span, level, index, output, bound, e => by
    rw [argument, ← bindVariable_eq_error_iff, bind_eq_error_iff]
    simp [pure, Except.pure]
  | .discard span, level, index, output, bound, e => by
    rw [argument]
    refine iff_of_false (by simp [pure, Except.pure]) ?_
    rintro ⟨check, hstops⟩
    cases hstops
  | .record target patterns span, level, index, output, bound, e => by
    have hnode := @exists_stops_iff_of_arguments s (level + 1) (.output index) output target patterns
      span bound e fun outputs => arguments_eq_error_iff patterns (level + 1) 0 outputs bound e
    simp only [nodeWith] at hnode
    rw [argument]
    simp only [bind_eq_error_iff, pure, Except.pure, reduceCtorEq, and_false, exists_false, or_false]
    rw [hnode]
    constructor
    · rintro ⟨check, hinside⟩
      exact ⟨check, .nested hinside⟩
    · rintro ⟨check, hstops⟩
      cases hstops with
      | nested inside => exact ⟨check, inside⟩

/-- **Several arguments**, from left to right. -/
theorem arguments_eq_error_iff : ∀ (patterns : List Pattern) (level index : Nat)
    (outputs : List TypeId) (bound : Bound) (e : ResolutionError),
    s.arguments level index outputs bound patterns = .error e
      ↔ ∃ check, s.StopsAmong level index outputs bound patterns check e
  | [], level, index, outputs, bound, e => by
    rw [arguments]
    refine iff_of_false (by simp [pure, Except.pure]) ?_
    rintro ⟨check, hstops⟩
    cases hstops
  | p :: rest, level, index, outputs, bound, e => by
    cases outputs with
    | nil =>
      rw [arguments]
      refine iff_of_false (by simp [pure, Except.pure]) ?_
      rintro ⟨check, hstops⟩
      cases hstops
    | cons output outputs =>
      rw [arguments]
      simp only [bind_eq_error_iff, pure, Except.pure, reduceCtorEq, and_false, exists_false,
        or_false, Prod.exists, argument_eq_error_iff p, arguments_eq_error_iff rest]
      constructor
      · rintro (⟨check, hfirst⟩ | ⟨a, bound', hresolved, check, hothers⟩)
        · exact ⟨check, .first hfirst⟩
        · exact ⟨check, .later hresolved hothers⟩
      · rintro ⟨check, hstops⟩
        cases hstops with
        | first here => exact .inl ⟨check, here⟩
        | later resolved others => exact .inr ⟨_, _, resolved, check, others⟩

end

/-- **The account of a whole match.** It is refused with an error exactly if it
stops at some check with that error, whoever answers the queries. -/
theorem resolve_eq_error_iff {subject : Subject} :
    s.resolve subject target patterns = .error e
      ↔ ∃ check, s.Stops 1 subject.type target patterns subject.span [] check e := by
  have hnode := @exists_stops_iff_of_arguments s 1 (.expression subject.expression) subject.type
    target patterns subject.span [] e fun outputs => arguments_eq_error_iff patterns 1 0 outputs [] e
  rw [resolve, ← hnode]
  simp only [bind_eq_error_iff, pure, Except.pure, reduceCtorEq, and_false, exists_false, or_false]

/-! ## Checks that never stop -/

/-- What is left of the account with a registry as the oracle. Two checks do not
occur in it, and a query that it has stopped at is one that fails with that
error. -/
def Expects (s : Resolver) (e : ResolutionError) : Check → Prop
  | .arity => False
  | .statedType => False
  | .query target patterns span => s.QueryFails target patterns span e
  | .nesting => True
  | .narrowing => True
  | .newName => True

mutual

/-- **One type pattern** stops at none of the two checks: what was found has one
output for each argument, and the arguments can receive them. -/
theorem Stops.expects (hs : s.Uses r) {level : Nat} {static target : TypeId}
    {patterns : List Pattern} {span : Span} {bound : Bound} {check : Check} {e : ResolutionError} :
    s.Stops level static target patterns span bound check e → s.Expects e check
  | .nesting _ => trivial
  | .query _ failed => failed
  | .arity _ found differs => by
    rw [hs.oracle] at found
    exact differs (Registry.select_eq_found_iff.mp found).suits.length_eq
  | .narrowing _ _ => trivial
  | .inside selected _ among =>
    among.expects hs ((select_eq_ok_iff hs).mp selected).2.suits

/-- **One argument** stops at none of them if it can receive the output. -/
theorem StopsAt.expects (hs : s.Uses r) {level : Nat} {output : TypeId} {bound : Bound}
    {p : Pattern} {check : Check} {e : ResolutionError} :
    s.StopsAt level output bound p check e → r.Fits output p → s.Expects e check
  | .statedType refused, hfits => by
    rw [hs.types] at refused
    have haccepted : r.types.isSubtype _ _ = true := hfits
    rw [refused] at haccepted
    cases haccepted
  | .newName _ _, _ => trivial
  | .nested inside, _ => inside.expects hs

/-- **Several arguments** stop at none of them if each can receive its output. -/
theorem StopsAmong.expects (hs : s.Uses r) {level index : Nat} {outputs : List TypeId}
    {bound : Bound} {patterns : List Pattern} {check : Check} {e : ResolutionError} :
    s.StopsAmong level index outputs bound patterns check e →
      List.Forall₂ r.Fits outputs patterns → s.Expects e check
  | .first here, hfits => here.expects hs (List.forall₂_cons.mp hfits).1
  | .later _ others, hfits => others.expects hs (List.forall₂_cons.mp hfits).2

end

end Resolver

/-! ## Answers and errors, told from the candidates -/

namespace Registry

variable {r : Registry} {maxDepth : Nat} {target : TypeId} {patterns : List Pattern} {span : Span}
  {e : ResolutionError}

/-- Whether a type has deconstructors, but none with so many outputs. -/
def Miscounts (r : Registry) (target : TypeId) (n : Nat) : Prop :=
  r.deconstructors target ≠ [] ∧ ∀ d ∈ r.deconstructors target, d.arity ≠ n

/-- The opposite: there are no deconstructors at all, or one has so many. -/
theorem not_miscounts_iff {n : Nat} : ¬ r.Miscounts target n
    ↔ r.deconstructors target = [] ∨ ∃ d ∈ r.deconstructors target, d.arity = n := by
  rw [Miscounts, not_and_or, not_not]
  push Not
  rfl

/-- Without the right number of outputs there is no candidate. -/
theorem Miscounts.candidates_eq_nil {shapes : List Shape}
    (h : r.Miscounts target shapes.length) : r.candidates target shapes = [] := by
  rw [List.eq_nil_iff_forall_not_mem]
  intro d hd
  exact h.2 d (mem_candidates_iff.mp hd).1 (arity_eq_of_mem_candidates hd)

/-- The numbers that are listed tell whether there are none of the right kind. -/
theorem ListsArities.miscounts_iff {arities : List Nat} {n : Nat}
    (h : r.ListsArities target arities) :
    (arities ≠ [] ∧ n ∉ arities) ↔ r.Miscounts target n := by
  rw [Miscounts, Ne, h.eq_nil_iff, h.2]
  push Not
  rfl

/-- Which kind of error a query at a type pattern leads to. The kinds exclude one
another, and the conditions are about the deconstructors of the type and the
candidates among them, and not about the answer. -/
structure Explains (r : Registry) (target : TypeId) (patterns : List Pattern) (span : Span)
    (e : ResolutionError) : Prop where
  /-- The number of arguments is wrong if there are deconstructors, but none with
  so many outputs. The error shows all numbers that there are. -/
  arityMismatch : ∀ arities,
    e = .arityMismatch (r.typeName target) arities patterns.length span
      ↔ r.ListsArities target arities ∧ r.Miscounts target patterns.length
  /-- Otherwise, if there is no candidate, none applies. -/
  noDeconstructor :
    e = .noDeconstructor (r.typeName target) patterns.length span
      ↔ r.candidates target (patterns.map Shape.ofPattern) = []
        ∧ (r.deconstructors target = []
          ∨ ∃ d ∈ r.deconstructors target, d.arity = patterns.length)
  /-- If there are several, they are ambiguous. The error has their number and
  the place of each, in their order. -/
  ambiguous : ∀ count places,
    e = .ambiguous (r.typeName target) count places span
      ↔ count = (r.candidates target (patterns.map Shape.ofPattern)).length
        ∧ places = (r.candidates target (patterns.map Shape.ofPattern)).map Deconstructor.span
        ∧ 2 ≤ (r.candidates target (patterns.map Shape.ofPattern)).length
  /-- There is no other kind. -/
  exhaustive :
    (∃ arities, e = .arityMismatch (r.typeName target) arities patterns.length span)
      ∨ e = .noDeconstructor (r.typeName target) patterns.length span
      ∨ ∃ count places, e = .ambiguous (r.typeName target) count places span

/-- **Failing queries are explained.** -/
theorem explains_of_queryFails
    (h : (Resolver.ofRegistry r maxDepth).QueryFails target patterns span e) :
    r.Explains target patterns span e := by
  have hlength : (patterns.map Shape.ofPattern).length = patterns.length := List.length_map _
  have hnil : r.Miscounts target patterns.length →
      r.candidates target (patterns.map Shape.ofPattern) = [] := by
    rw [← hlength]
    exact Miscounts.candidates_eq_nil
  cases h with
  | ambiguous answer =>
    obtain ⟨rfl, hseveral⟩ := select_ambiguous_iff.mp answer
    have hsome : r.candidates target (patterns.map Shape.ofPattern) ≠ [] := by
      intro hnone
      simp [hnone] at hseveral
    refine ⟨fun arities => ?_, ?_, fun count places => ?_, .inr (.inr ⟨_, _, rfl⟩)⟩
    · exact iff_of_false (by simp) fun hcounts => hsome (hnil hcounts.2)
    · exact iff_of_false (by simp) fun hnone => hsome hnone.1
    · simp [Resolver.ofRegistry, Resolver.typeName, typeName, hseveral, eq_comm]
  | miscounted answer some others =>
    obtain ⟨hnone, hlists⟩ := select_notFound_iff.mp answer
    have hcounts := hlists.miscounts_iff.mp ⟨some, others⟩
    refine ⟨fun arities => ⟨fun h => ?_, fun h => ?_⟩, ?_, fun count places => ?_, .inl ⟨_, rfl⟩⟩
    · cases h
      exact ⟨hlists, hcounts⟩
    · rw [h.1.unique hlists]
      rfl
    · exact iff_of_false (by simp) fun h => not_miscounts_iff.mpr h.2 hcounts
    · exact iff_of_false (by simp) fun h => by simp [hnone] at h
  | noneApplies answer counted =>
    obtain ⟨hnone, hlists⟩ := select_notFound_iff.mp answer
    have hcounts : ¬ r.Miscounts target patterns.length := by
      rw [← hlists.miscounts_iff, not_and_or, not_not, not_not]
      exact counted
    refine ⟨fun arities => ?_, ?_, fun count places => ?_, .inr (.inl rfl)⟩
    · exact iff_of_false (by simp) fun h => hcounts h.2
    · exact iff_of_true rfl ⟨hnone, not_miscounts_iff.mp hcounts⟩
    · exact iff_of_false (by simp) fun h => by simp [hnone] at h

/-- What can be said of the answers of a registry, and of the errors of a match
that is resolved with it, without looking at how either is found. -/
structure AnswersExactly (r : Registry) : Prop where
  /-- What is found is the only candidate. -/
  found : ∀ target shapes d,
    r.select target shapes = .found d ↔ r.candidates target shapes = [d]
  /-- Several candidates are ambiguous, and the answer has them all in order. -/
  ambiguous : ∀ target shapes ds,
    r.select target shapes = .ambiguous ds ↔ ds = r.candidates target shapes ∧ 2 ≤ ds.length
  /-- Without candidates the answer lists the numbers of outputs that there are. -/
  notFound : ∀ target shapes arities,
    r.select target shapes = .notFound arities
      ↔ r.candidates target shapes = [] ∧ r.ListsArities target arities
  /-- A type pattern that is not nested too deeply has the only candidate for its
  arguments as its deconstructor. -/
  taken : ∀ maxDepth level target patterns span d, level ≤ maxDepth →
    ((Resolver.ofRegistry r maxDepth).select level target patterns span = .ok d
      ↔ r.candidates target (patterns.map Shape.ofPattern) = [d])
  /-- If it has none, its error is explained. -/
  explained : ∀ maxDepth level target patterns span e, level ≤ maxDepth →
    (Resolver.ofRegistry r maxDepth).select level target patterns span = .error e →
      r.Explains target patterns span e
  /-- A match is refused with an error exactly if some check stops it with that
  error. -/
  refused : ∀ maxDepth subject target patterns e,
    (Resolver.ofRegistry r maxDepth).resolve subject target patterns = .error e
      ↔ ∃ check, (Resolver.ofRegistry r maxDepth).Stops 1 subject.type target patterns
          subject.span [] check e
  /-- Wherever this happens, the check is neither the one of the number of outputs
  nor the one of the type that a variable states. -/
  unfired : ∀ maxDepth level static target patterns span bound check e,
    (Resolver.ofRegistry r maxDepth).Stops level static target patterns span bound check e →
      check ≠ .arity ∧ check ≠ .statedType
  /-- If it is the query at some type pattern inside, the error is explained by
  the deconstructors that this one has. -/
  queried : ∀ maxDepth level static target patterns span bound target' patterns' span' e,
    (Resolver.ofRegistry r maxDepth).Stops level static target patterns span bound
        (.query target' patterns' span') e →
      r.Explains target' patterns' span' e

/-- **The answers are exact.** Each answer of a registry, and each error that
follows from one, is determined by the candidates and by the numbers of outputs
that there are; and for what the registry finds, no later check of the number of
outputs or of the type of a variable has anything left to refuse. -/
theorem overload_answers_exact (r : Registry) : r.AnswersExactly where
  found _ _ _ := select_found_iff
  ambiguous target shapes ds := by
    rw [select_ambiguous_iff]
    constructor
    · rintro ⟨rfl, hseveral⟩
      exact ⟨rfl, hseveral⟩
    · rintro ⟨rfl, hseveral⟩
      exact ⟨rfl, hseveral⟩
  notFound _ _ _ := select_notFound_iff
  taken maxDepth level target patterns span d hallowed := by
    rw [Resolver.select_eq_ok_iff (Resolver.uses_ofRegistry r maxDepth),
      candidates_eq_singleton_iff]
    exact and_iff_right hallowed
  explained maxDepth level target patterns span e hallowed h := by
    rcases Resolver.select_eq_error_iff.mp h with ⟨hdeep, -⟩ | ⟨-, hfails⟩
        | ⟨-, d, hfound, hdiffers, -⟩
    · exact absurd hdeep (Nat.not_lt.mpr hallowed)
    · exact explains_of_queryFails hfails
    · exact absurd (select_eq_found_iff.mp hfound).suits.length_eq hdiffers
  refused _ _ _ _ _ := Resolver.resolve_eq_error_iff
  unfired maxDepth level static target patterns span bound check e hstops := by
    have hexpects := hstops.expects (Resolver.uses_ofRegistry r maxDepth)
    constructor
    · rintro rfl
      exact hexpects
    · rintro rfl
      exact hexpects
  queried maxDepth level static target patterns span bound target' patterns' span' e hstops :=
    explains_of_queryFails (hstops.expects (Resolver.uses_ofRegistry r maxDepth))

end Registry

end RecordPatterns
