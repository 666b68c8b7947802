/-
Where an error points.

A pattern that does not resolve has one error, though there may be much that is
wrong with it. Which one it is can be said without the walk: write down everything
that is to be inspected, in the order in which it stands, and the error is that of
the first inspection that has an objection (`Resolver.refused_at_first_objection`).
The list is `Pattern.inspections`. Every type pattern comes before its arguments,
these come from left to right, and each entry is at a place, the span of the type
pattern or of the variable that it is about. It is there that the error points.

The list depends on the answers of the oracle, as the type of an output is not known
before there is a deconstructor that has it. It does not depend on the limit of
nesting, nor on what passes: an inspection of a name carries all variables to the
left of it, whether or not the walk gets there. That the walk has bound just these
by then is what the two accounts of it have in common: a type pattern that resolves
has passed all its inspections (`Oracle.Plans.no_objection`), and each rule of
`Resolver.Stops` adds what has passed so far in front of what has not
(`Resolver.Stops.findSome?_eq`).

Of two variables with one name, the error shows both. They are found by walking the
variables of the whole pattern from left to right, at whatever levels they stand,
until a name comes up for the second time.
-/
import RecordPatterns.Proofs.Refusal

set_option autoImplicit false

namespace RecordPatterns

/-! ## What there is to inspect -/

/-- One thing to look at in a pattern, with all that the outcome depends on and the
place that it is about. -/
inductive Inspection where
  /-- The level on which a type pattern stands. -/
  | nesting (level : Nat) (place : Span)
  /-- What there is to take its subject apart. -/
  | query (target : TypeId) (patterns : List Pattern) (place : Span)
  /-- The number of outputs that the one that was found has. -/
  | arity (target : TypeId) (d : Deconstructor) (count : Nat) (place : Span)
  /-- Its subject type, against the static type. -/
  | narrowing (static needed : TypeId) (place : Span)
  /-- The type that a variable states, against the output. -/
  | statedType (output declared : TypeId) (place : Span)
  /-- The name of a variable, against those of the variables to the left of it, of
  which the last comes first. -/
  | newName (name : Symbol) (earlier : List (Symbol × Span)) (place : Span)

/-- The place that an inspection is about. -/
def Inspection.place : Inspection → Span
  | nesting _ place => place
  | query _ _ place => place
  | arity _ _ _ place => place
  | narrowing _ _ place => place
  | statedType _ _ place => place
  | newName _ _ place => place

namespace Pattern

mutual

/-- What there is to inspect in a pattern, in order, if it receives an output of
some type, type patterns here stand on some level, and some variables are to the left
of it. Without a deconstructor there is nothing to be said about the arguments. -/
def inspections (oracle : Oracle) (level : Nat) (output : TypeId)
    (earlier : List (Symbol × Span)) : Pattern → List Inspection
  | .bind name type place =>
    (type.map fun declared => .statedType output declared place).toList
      ++ [.newName name earlier place]
  | .discard _ => []
  | .record target patterns place =>
    .nesting level place :: .query target patterns place ::
      match oracle target (patterns.map Shape.ofPattern) with
      | .found d =>
        .arity target d patterns.length place :: .narrowing output d.subject place ::
          inspectionsAll oracle (level + 1) d.outputs earlier patterns
      | _ => []

/-- What there is to inspect in several patterns, each of which receives the output
at its position. -/
def inspectionsAll (oracle : Oracle) (level : Nat) (outputs : List TypeId)
    (earlier : List (Symbol × Span)) : List Pattern → List Inspection
  | [] => []
  | p :: rest =>
    match outputs with
    | [] => []
    | output :: outputs =>
      p.inspections oracle level output earlier
        ++ inspectionsAll oracle level outputs (p.binders.reverse ++ earlier) rest

end

end Pattern

namespace Resolver

/-- The error that an inspection comes to, unless there is nothing to object to. -/
def objection? (s : Resolver) : Inspection → Option ResolutionError
  | .nesting level place => if s.maxDepth < level then some (.tooDeep s.maxDepth place) else none
  | .query target patterns place =>
    match s.oracle target (patterns.map Shape.ofPattern) with
    | .found _ => none
    | .ambiguous candidates =>
      some (.ambiguous (s.typeName target) candidates.length (candidates.map Deconstructor.span)
        place)
    | .notFound arities =>
      if arities ≠ [] ∧ patterns.length ∉ arities then
        some (.arityMismatch (s.typeName target) arities patterns.length place)
      else some (.noDeconstructor (s.typeName target) patterns.length place)
  | .arity target d count place =>
    if d.arity = count then none
    else some (.arityMismatch (s.typeName target) [d.arity] count place)
  | .narrowing static needed place =>
    if s.types.isRelated static needed then none else some (s.mismatch needed static place)
  | .statedType output declared place =>
    if s.types.isSubtype output declared then none else some (s.mismatch declared output place)
  | .newName name earlier place =>
    (earlier.lookup name).map fun first => .duplicateBinding (s.symbols.text name) first place

variable {s : Resolver} {level : Nat} {static target output : TypeId} {patterns : List Pattern}
  {span : Span} {bound : Bound} {check : Check} {e : ResolutionError} {d : Deconstructor}

/-- **An error points at the place** that was inspected. -/
theorem span_eq_place {i : Inspection} (h : s.objection? i = some e) : e.span = i.place := by
  cases i with
  | nesting level place =>
    obtain ⟨-, rfl⟩ := by simpa [objection?] using h
    rfl
  | query target patterns place =>
    simp only [objection?] at h
    cases hanswer : s.oracle target (patterns.map Shape.ofPattern) with
    | found d => simp [hanswer] at h
    | ambiguous candidates =>
      obtain rfl := by simpa [hanswer] using h
      rfl
    | notFound arities =>
      simp only [hanswer] at h
      split at h
      all_goals
        cases h
        rfl
  | arity target d count place =>
    obtain ⟨-, rfl⟩ := by simpa [objection?] using h
    rfl
  | narrowing static needed place =>
    obtain ⟨-, rfl⟩ := by simpa [objection?] using h
    rfl
  | statedType output declared place =>
    obtain ⟨-, rfl⟩ := by simpa [objection?] using h
    rfl
  | newName name earlier place =>
    obtain ⟨first, -, rfl⟩ := by simpa [objection?] using h
    rfl

/-- A query fails with the error that its inspection comes to. -/
theorem QueryFails.objection? (h : s.QueryFails target patterns span e) :
    s.objection? (.query target patterns span) = some e := by
  cases h with
  | ambiguous answer => simp only [Resolver.objection?, answer]
  | miscounted answer some others =>
    simp only [Resolver.objection?, answer]
    rw [if_pos ⟨some, others⟩]
  | noneApplies answer counted =>
    simp only [Resolver.objection?, answer]
    rw [if_neg]
    rintro ⟨hsome, hothers⟩
    exact counted.elim hsome hothers

/-- Where the four inspections of a type pattern have no objection, the first one is
among those of its arguments. -/
theorem findSome?_inspections_record (hlevel : level ≤ s.maxDepth)
    (hfound : s.oracle target (patterns.map Shape.ofPattern) = .found d)
    (hcounted : d.arity = patterns.length) (hrelated : s.types.isRelated static d.subject = true)
    (earlier : List (Symbol × Span)) :
    ((Pattern.record target patterns span).inspections s.oracle level static
        earlier).findSome? s.objection?
      = (Pattern.inspectionsAll s.oracle (level + 1) d.outputs earlier patterns).findSome?
          s.objection? := by
  have hallowed : ¬ s.maxDepth < level := Nat.not_lt.mpr hlevel
  simp [Pattern.inspections, hfound, objection?, hallowed, hcounted, hrelated]

end Resolver

/-! ## What resolves has passed -/

namespace Oracle

variable {s : Resolver}

mutual

/-- **One type pattern.** -/
theorem Plans.no_objection {level : Nat} {source : Source} {static target : TypeId}
    {patterns : List Pattern} {span : Span} {plan : Plan} {earlier : Bound} :
    s.oracle.Plans s.types source static target patterns span plan →
      level + Pattern.nestingAll patterns ≤ s.maxDepth →
      Resolver.Fresh (Pattern.bindersAll patterns) earlier →
      ((Pattern.record target patterns span).inspections s.oracle level static
        earlier).findSome? s.objection? = none
  | .node found counted narrowed inside, hdepth, hfresh => by
    rw [Resolver.findSome?_inspections_record (by omega) found counted
      (TypeTable.exists_narrows_iff.mp ⟨_, narrowed⟩)]
    exact inside.no_objection (by omega) hfresh

/-- **One argument.** -/
theorem PlansArgument.no_objection {level index : Nat} {output : TypeId} {p : Pattern}
    {a : Argument} {earlier : Bound} :
    s.oracle.PlansArgument s.types index output p a → level + p.nesting ≤ s.maxDepth + 1 →
      Resolver.Fresh p.binders earlier →
      (p.inspections s.oracle level output earlier).findSome? s.objection? = none
  | .bind index output name type span accepted, _, hfresh => by
    have hnew : earlier.lookup name = none := by
      rw [lookup_name_eq_none_iff]
      exact hfresh.2 name List.mem_cons_self
    cases type with
    | none => simp [Pattern.inspections, Resolver.objection?, hnew]
    | some declared =>
      have haccepted := accepted declared rfl
      simp [Pattern.inspections, Resolver.objection?, hnew, haccepted]
  | .discard .., _, _ => rfl
  | .nested inside, hdepth, hfresh => by
    rw [Pattern.nesting] at hdepth
    exact inside.no_objection (by omega) hfresh

/-- **Several arguments.** -/
theorem PlansAll.no_objection {level index : Nat} {outputs : List TypeId}
    {patterns : List Pattern} {arguments : List Argument} {earlier : Bound} :
    s.oracle.PlansAll s.types index outputs patterns arguments →
      level + Pattern.nestingAll patterns ≤ s.maxDepth + 1 →
      Resolver.Fresh (Pattern.bindersAll patterns) earlier →
      (Pattern.inspectionsAll s.oracle level outputs earlier patterns).findSome? s.objection? = none
  | .nil _, _, _ => rfl
  | .cons first others, hdepth, hfresh => by
    rw [Pattern.nestingAll] at hdepth
    rw [Pattern.bindersAll, Resolver.fresh_append] at hfresh
    rw [Pattern.inspectionsAll, List.findSome?_append, first.no_objection (by omega) hfresh.1,
      others.no_objection (by omega) hfresh.2]
    rfl

end

end Oracle

/-! ## What stops the walk is the first objection -/

namespace Resolver

variable {s : Resolver}

mutual

/-- **One type pattern.** -/
theorem Stops.findSome?_eq {level : Nat} {static target : TypeId} {patterns : List Pattern}
    {span : Span} {bound : Bound} {check : Check} {e : ResolutionError} :
    s.Stops level static target patterns span bound check e →
      ((Pattern.record target patterns span).inspections s.oracle level static
        bound).findSome? s.objection? = some e
  | .nesting deep => by
    rw [Pattern.inspections, List.findSome?_cons, objection?, if_pos deep]
  | .query allowed failed => by
    rw [Pattern.inspections, List.findSome?_cons, objection?, if_neg (Nat.not_lt.mpr allowed),
      List.findSome?_cons, failed.objection?]
  | .arity allowed found differs => by
    simp [Pattern.inspections, found, objection?, Nat.not_lt.mpr allowed, differs]
  | .narrowing selected apart => by
    obtain ⟨allowed, found, counted⟩ := select_eq_ok_iff_found.mp selected
    simp [Pattern.inspections, found, objection?, Nat.not_lt.mpr allowed, counted, apart]
  | .inside selected related among => by
    have hamong := among.findSome?_eq (select_eq_ok_iff_found.mp selected).1
    obtain ⟨allowed, found, counted⟩ := select_eq_ok_iff_found.mp selected
    rwa [findSome?_inspections_record allowed found counted related]

/-- **One argument** of a type pattern on an allowed level. -/
theorem StopsAt.findSome?_eq {level : Nat} {output : TypeId} {bound : Bound} {p : Pattern}
    {check : Check} {e : ResolutionError} :
    s.StopsAt level output bound p check e → level ≤ s.maxDepth →
      (p.inspections s.oracle (level + 1) output bound).findSome? s.objection? = some e
  | .statedType refused, _ => by
    simp [Pattern.inspections, objection?, refused]
  | @StopsAt.newName _ _ _ _ _ none _ _ _ taken, _ => by
    simp [Pattern.inspections, objection?, taken]
  | @StopsAt.newName _ _ _ _ _ (some declared) _ _ accepted taken, _ => by
    simp [Pattern.inspections, objection?, taken, accepted declared rfl]
  | .nested inside, _ => inside.findSome?_eq

/-- **Several arguments.** Those that were resolved have passed. -/
theorem StopsAmong.findSome?_eq {level index : Nat} {outputs : List TypeId} {bound : Bound}
    {patterns : List Pattern} {check : Check} {e : ResolutionError} :
    s.StopsAmong level index outputs bound patterns check e → level ≤ s.maxDepth →
      (Pattern.inspectionsAll s.oracle (level + 1) outputs bound patterns).findSome? s.objection?
        = some e
  | .first here, hlevel => by
    rw [Pattern.inspectionsAll, List.findSome?_append, here.findSome?_eq hlevel]
    rfl
  | .later resolved others, hlevel => by
    have hothers := others.findSome?_eq hlevel
    obtain ⟨hdepth, hplans, hfresh, hbound⟩ := (argument_eq_ok_iff hlevel _ _ _ _ _ _).mp resolved
    rw [hbound] at hothers
    rw [Pattern.inspectionsAll, List.findSome?_append, hplans.no_objection (by omega) hfresh,
      hothers]
    rfl

end

/-- **Resolving fails with the first objection** there is, and with none if there is
none. -/
theorem resolve_eq_error_iff_findSome? {subject : Subject} {target : TypeId}
    {patterns : List Pattern} {e : ResolutionError} :
    s.resolve subject target patterns = .error e ↔
      ((Pattern.record target patterns subject.span).inspections s.oracle 1 subject.type
        []).findSome? s.objection? = some e := by
  have hstops : ∀ e, s.resolve subject target patterns = .error e →
      ((Pattern.record target patterns subject.span).inspections s.oracle 1 subject.type
        []).findSome? s.objection? = some e := by
    intro e h
    obtain ⟨check, hcheck⟩ := resolve_eq_error_iff.mp h
    exact hcheck.findSome?_eq
  refine ⟨hstops e, fun h => ?_⟩
  cases hresolve : s.resolve subject target patterns with
  | error e' => rw [Option.some.inj ((hstops e' hresolve).symm.trans h)]
  | ok plan =>
    obtain ⟨hdepth, hplans, hnames⟩ := resolve_eq_ok_iff_plans.mp hresolve
    rw [hplans.no_objection hdepth (fresh_of_nothing.mpr hnames)] at h
    cases h

/-! ## The first name that comes up twice -/

/-- Of some variables, to be bound after others, one is the first whose name is not
new: it was that of a variable at one place, and now is that of one at another. -/
def FirstRepeat (bound : Bound) (leaves : List (Symbol × Span)) (name : Symbol)
    (first second : Span) : Prop :=
  ∃ before after, leaves = before ++ (name, second) :: after ∧ Fresh before bound
    ∧ (name, first) ∈ before.reverse ++ bound

/-- If an error is that a name is bound twice, it shows the first such name. -/
def ShowsRepeat (s : Resolver) (bound : Bound) (leaves : List (Symbol × Span))
    (e : ResolutionError) : Prop :=
  ∀ text first second, e = .duplicateBinding text first second →
    ∃ name, text = s.symbols.text name ∧ FirstRepeat bound leaves name first second

section ShowsRepeat

variable {bound : Bound} {leaves : List (Symbol × Span)} {e : ResolutionError}

/-- Variables that come later do not matter. -/
theorem ShowsRepeat.append_right (h : s.ShowsRepeat bound leaves e)
    (others : List (Symbol × Span)) : s.ShowsRepeat bound (leaves ++ others) e := by
  intro text first second he
  obtain ⟨name, htext, before, after, rfl, hfresh, hfirst⟩ := h text first second he
  exact ⟨name, htext, before, after ++ others, by simp, hfresh, hfirst⟩

/-- Variables whose names are new may come first. -/
theorem ShowsRepeat.append_left {new : List (Symbol × Span)} (hnew : Fresh new bound)
    (h : s.ShowsRepeat (new.reverse ++ bound) leaves e) :
    s.ShowsRepeat bound (new ++ leaves) e := by
  intro text first second he
  obtain ⟨name, htext, before, after, rfl, hfresh, hfirst⟩ := h text first second he
  refine ⟨name, htext, new ++ before, after, by simp, fresh_append.mpr ⟨hnew, hfresh⟩, ?_⟩
  rwa [List.reverse_append, List.append_assoc]

/-- Among all variables of a pattern, those before the second occurrence of the name
have different names, and the first occurrence is one of them. -/
theorem FirstRepeat.exists_split {name : Symbol} {first second : Span}
    (h : FirstRepeat [] leaves name first second) :
    ∃ before between after,
      leaves = before ++ (name, first) :: (between ++ (name, second) :: after)
        ∧ ((before ++ (name, first) :: between).map Prod.fst).Nodup := by
  obtain ⟨earlier, after, rfl, hfresh, hfirst⟩ := h
  rw [List.append_nil, List.mem_reverse] at hfirst
  obtain ⟨before, between, rfl⟩ := List.append_of_mem hfirst
  exact ⟨before, between, after, by simp, fresh_of_nothing.mp hfresh⟩

end ShowsRepeat

mutual

/-- **One type pattern.** -/
theorem Stops.showsRepeat {level : Nat} {static target : TypeId} {patterns : List Pattern}
    {span : Span} {bound : Bound} {check : Check} {e : ResolutionError} :
    s.Stops level static target patterns span bound check e →
      s.ShowsRepeat bound (Pattern.bindersAll patterns) e
  | .nesting _ => nofun
  | .query _ failed => by
    rintro _ _ _ rfl
    cases failed
  | .arity _ _ _ => nofun
  | .narrowing _ _ => nofun
  | .inside selected _ among => among.showsRepeat (select_eq_ok_iff_found.mp selected).1

/-- **One argument** of a type pattern on an allowed level. -/
theorem StopsAt.showsRepeat {level : Nat} {output : TypeId} {bound : Bound} {p : Pattern}
    {check : Check} {e : ResolutionError} :
    s.StopsAt level output bound p check e → level ≤ s.maxDepth → s.ShowsRepeat bound p.binders e
  | .statedType _, _ => nofun
  | .newName _ taken, _ => by
    rintro _ _ _ ⟨⟩
    obtain ⟨later, earlier, rfl, -⟩ := List.lookup_eq_some_iff.mp taken
    exact ⟨_, rfl, [], [], rfl, fresh_nil _, by simp⟩
  | .nested inside, _ => inside.showsRepeat

/-- **Several arguments.** The variables of those that were resolved are new. -/
theorem StopsAmong.showsRepeat {level index : Nat} {outputs : List TypeId} {bound : Bound}
    {patterns : List Pattern} {check : Check} {e : ResolutionError} :
    s.StopsAmong level index outputs bound patterns check e → level ≤ s.maxDepth →
      s.ShowsRepeat bound (Pattern.bindersAll patterns) e
  | .first here, hlevel => (here.showsRepeat hlevel).append_right _
  | .later resolved others, hlevel => by
    have hothers := others.showsRepeat hlevel
    obtain ⟨-, -, hfresh, hbound⟩ := (argument_eq_ok_iff hlevel _ _ _ _ _ _).mp resolved
    rw [hbound] at hothers
    exact hothers.append_left hfresh

end

/-! ## Errors and their places -/

/-- **An error is the first objection, at its place.** Resolving fails with an error
exactly if, in the list of all there is to inspect, it is the objection to some entry
before which there is no other; and the error points at the place of that entry. If
it is that a name is bound twice, then among all variables of the pattern, from left
to right and whatever their levels, the second place is that of the first variable
whose name has occurred before, and the first place that of its one occurrence before. -/
theorem refused_at_first_objection (s : Resolver) (subject : Subject) (target : TypeId)
    (patterns : List Pattern) :
    (∀ e, s.resolve subject target patterns = .error e ↔
        ∃ passed failing pending,
          (Pattern.record target patterns subject.span).inspections s.oracle 1 subject.type []
              = passed ++ failing :: pending
            ∧ (∀ i ∈ passed, s.objection? i = none)
            ∧ s.objection? failing = some e ∧ e.span = failing.place)
      ∧ ∀ text first second,
        s.resolve subject target patterns = .error (.duplicateBinding text first second) →
          ∃ name before between after,
            Pattern.bindersAll patterns
                = before ++ (name, first) :: (between ++ (name, second) :: after)
              ∧ ((before ++ (name, first) :: between).map Prod.fst).Nodup
              ∧ text = s.symbols.text name := by
  refine ⟨fun e => ?_, fun text first second h => ?_⟩
  · rw [resolve_eq_error_iff_findSome?, List.findSome?_eq_some_iff]
    constructor
    · rintro ⟨passed, failing, pending, hlist, hobjects, hpassed⟩
      exact ⟨passed, failing, pending, hlist, hpassed, hobjects, span_eq_place hobjects⟩
    · rintro ⟨passed, failing, pending, hlist, hpassed, hobjects, -⟩
      exact ⟨passed, failing, pending, hlist, hobjects, hpassed⟩
  · obtain ⟨check, hstops⟩ := resolve_eq_error_iff.mp h
    obtain ⟨name, htext, hrepeat⟩ := hstops.showsRepeat text first second rfl
    obtain ⟨before, between, after, hleaves, hnodup⟩ := hrepeat.exists_split
    exact ⟨name, before, between, after, hleaves, hnodup, htext⟩

end Resolver

/-- A resolver that finds a deconstructor for everything, into as many outputs as there
are arguments. -/
def openHanded : Resolver where
  types := .builtin
  symbols := ⟨#["", "equals", "hash", "Match", "x", "y"]⟩
  oracle target shapes :=
    .found ⟨target, .object, shapes.map fun _ => .object, .written none, .generated⟩
  maxDepth := 2

/-- Arguments that have more than one thing wrong with them: the names of both variables
come up twice, the last variable cannot have the type that it states, and the last
type pattern is nested too deeply. -/
def manyFaults : List Pattern :=
  [ .record .object [.bind ⟨4⟩ none ⟨8, 9⟩, .discard ⟨11, 12⟩] ⟨1, 13⟩,
    .record .object [.bind ⟨5⟩ none ⟨22, 23⟩, .bind ⟨4⟩ none ⟨25, 26⟩] ⟨15, 27⟩,
    .bind ⟨5⟩ (some .int) ⟨29, 34⟩,
    .record .object [.record .object [] ⟨43, 51⟩] ⟨36, 52⟩ ]

/-- The one that is reported is about the name that is the first to come up again. Its
two variables stand in different arguments. -/
theorem refused_at_first_objection_manyFaults :
    openHanded.resolve ⟨⟨0⟩, .object, ⟨0, 53⟩⟩ .object manyFaults
        = .error (.duplicateBinding "x" ⟨8, 9⟩ ⟨25, 26⟩)
      ∧ (∃ passed failing pending,
        (Pattern.record .object manyFaults ⟨0, 53⟩).inspections openHanded.oracle 1 .object []
            = passed ++ failing :: pending
          ∧ (∀ i ∈ passed, openHanded.objection? i = none)
          ∧ openHanded.objection? failing = some (.duplicateBinding "x" ⟨8, 9⟩ ⟨25, 26⟩)
          ∧ (⟨25, 26⟩ : Span) = failing.place)
      ∧ ∃ name before between after,
        Pattern.bindersAll manyFaults
            = before ++ (name, ⟨8, 9⟩) :: (between ++ (name, ⟨25, 26⟩) :: after)
          ∧ ((before ++ (name, ⟨8, 9⟩) :: between).map Prod.fst).Nodup
          ∧ "x" = openHanded.symbols.text name := by
  have hrefused : openHanded.resolve ⟨⟨0⟩, .object, ⟨0, 53⟩⟩ .object manyFaults
      = .error (.duplicateBinding "x" ⟨8, 9⟩ ⟨25, 26⟩) := rfl
  obtain ⟨hfirst, hrepeat⟩ := openHanded.refused_at_first_objection ⟨⟨0⟩, .object, ⟨0, 53⟩⟩ .object
    manyFaults
  exact ⟨hrefused, (hfirst _).mp hrefused, hrepeat "x" ⟨8, 9⟩ ⟨25, 26⟩ hrefused⟩

end RecordPatterns
