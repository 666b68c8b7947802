/-
Which plan a pattern comes to, whoever selects the deconstructors.

A resolver does not look for deconstructors itself. It asks an oracle, and the
oracle may be anything. So there is little to be said about which patterns it
accepts; but what it makes of the answers can be said without the walk. A pattern
comes to a plan exactly if three things hold that have nothing to do with one
another:

  * type patterns are nested no deeper than allowed (`Pattern.nesting`);
  * the plan is what the answers of the oracle and the table of types make of the
    pattern, node by node (`Oracle.Plans`);
  * no two variables anywhere share a name (`Pattern.binders`).

`Oracle.Plans` is a relation between a pattern and a plan. It mentions neither a
limit nor the variables bound so far, so that plans made under two limits, or of
two patterns whose variables differ, can be compared.

The induction is over patterns, with the arguments of one type pattern taken
from left to right. What carries it is that each step adds its own variables,
and no others, in front of those bound before (`Resolver.argument_eq_ok_iff`).
-/
import RecordPatterns.Proofs.Members
import RecordPatterns.Resolution.Basic

set_option autoImplicit false

namespace RecordPatterns

/-! ## Nesting and variables -/

namespace Pattern

mutual

/-- How deeply type patterns are nested. Variables and discards are not
nested at all, unlike in `depth`, where they count as a level. -/
def nesting : Pattern → Nat
  | .bind .. => 0
  | .discard _ => 0
  | .record _ arguments _ => 1 + nestingAll arguments

/-- The deepest nesting among several patterns. -/
def nestingAll : List Pattern → Nat
  | [] => 0
  | p :: rest => max p.nesting (nestingAll rest)

end

mutual

/-- The variables of a pattern with their places, from left to right. -/
def binders : Pattern → List (Symbol × Span)
  | .bind name _ span => [(name, span)]
  | .discard _ => []
  | .record _ arguments _ => bindersAll arguments

/-- The variables of several patterns, from left to right. -/
def bindersAll : List Pattern → List (Symbol × Span)
  | [] => []
  | p :: rest => p.binders ++ bindersAll rest

end

end Pattern

/-! ## The judgement -/

/-- Which test narrows a static type to what is needed. -/
inductive TypeTable.Narrows (t : TypeTable) (static needed : TypeId) : TypeTest → Prop
  | unconditional (below : t.isSubtype static needed = true)
      (neverNull : t.isNullable static = false) : t.Narrows static needed .unconditional
  | nonNull (below : t.isSubtype static needed = true)
      (nullable : t.isNullable static = true) : t.Narrows static needed .nonNull
  | ofType (notBelow : t.isSubtype static needed = false)
      (above : t.isSubtype needed static = true) : t.Narrows static needed (.ofType needed)

mutual

/-- How a type pattern becomes a plan: the deconstructor that the oracle finds,
which has one output for each argument, the test that narrows the static type to
what it takes, and the arguments, each for the output at its position. -/
inductive Oracle.Plans (oracle : Oracle) (types : TypeTable) :
    Source → TypeId → TypeId → List Pattern → Span → Plan → Prop
  | node {source : Source} {static target : TypeId} {patterns : List Pattern} {span : Span}
      {d : Deconstructor} {test : TypeTest} {arguments : List Argument}
      (found : oracle target (patterns.map Shape.ofPattern) = .found d)
      (counted : d.arity = patterns.length) (narrowed : types.Narrows static d.subject test)
      (inside : Oracle.PlansAll oracle types 0 d.outputs patterns arguments) :
      Oracle.Plans oracle types source static target patterns span
        ⟨⟨source, static, target, d, test, span⟩, arguments⟩

/-- How the argument for the output at some position is planned. A variable has
the type that it states, which accepts the output, or else that of the output. -/
inductive Oracle.PlansArgument (oracle : Oracle) (types : TypeTable) :
    Nat → TypeId → Pattern → Argument → Prop
  | bind (index : Nat) (output : TypeId) (name : Symbol) (type : Option TypeId) (span : Span)
      (accepted : ∀ declared, type = some declared → types.isSubtype output declared = true) :
      Oracle.PlansArgument oracle types index output (.bind name type span)
        (.bind name (type.getD output))
  | discard (index : Nat) (output : TypeId) (span : Span) :
      Oracle.PlansArgument oracle types index output (.discard span) .discard
  | nested {index : Nat} {output target : TypeId} {patterns : List Pattern} {span : Span}
      {plan : Plan}
      (inside : Oracle.Plans oracle types (.output index) output target patterns span plan) :
      Oracle.PlansArgument oracle types index output (.record target patterns span)
        (.nested plan.node plan.arguments)

/-- How the arguments for the outputs from some position on are planned, one for
each output. -/
inductive Oracle.PlansAll (oracle : Oracle) (types : TypeTable) :
    Nat → List TypeId → List Pattern → List Argument → Prop
  | nil (index : Nat) : Oracle.PlansAll oracle types index [] [] []
  | cons {index : Nat} {output : TypeId} {outputs : List TypeId} {p : Pattern}
      {patterns : List Pattern} {a : Argument} {arguments : List Argument}
      (first : Oracle.PlansArgument oracle types index output p a)
      (others : Oracle.PlansAll oracle types (index + 1) outputs patterns arguments) :
      Oracle.PlansAll oracle types index (output :: outputs) (p :: patterns) (a :: arguments)

end

/-- There is a test for a static type and what is needed exactly if the two
are related. -/
theorem TypeTable.exists_narrows_iff {t : TypeTable} {static needed : TypeId} :
    (∃ test, t.Narrows static needed test) ↔ t.isRelated static needed = true := by
  rw [isRelated, Bool.or_eq_true]
  constructor
  · rintro ⟨test, h⟩
    cases h with
    | unconditional below => exact .inl below
    | nonNull below => exact .inl below
    | ofType _ above => exact .inr above
  · intro h
    cases hbelow : t.isSubtype static needed with
    | true =>
      cases hnull : t.isNullable static with
      | true => exact ⟨_, .nonNull hbelow hnull⟩
      | false => exact ⟨_, .unconditional hbelow hnull⟩
    | false =>
      rw [hbelow] at h
      exact ⟨_, .ofType hbelow (h.resolve_left Bool.false_ne_true)⟩

/-! ## What the plan of a pattern looks like -/

namespace Oracle

variable {oracle : Oracle} {types : TypeTable}

mutual

/-- A planned argument binds the variables of the pattern, in their order, and
has as many levels as type patterns are nested. -/
theorem PlansArgument.shape : ∀ (p : Pattern) {index : Nat} {output : TypeId} {a : Argument},
    oracle.PlansArgument types index output p a →
      a.bindings.map Prod.fst = p.binders.map Prod.fst ∧ a.depth = p.nesting
  | .bind name type span, _, _, _, h => by
    cases h
    exact ⟨rfl, rfl⟩
  | .discard span, _, _, _, h => by
    cases h
    exact ⟨rfl, rfl⟩
  | .record target patterns span, _, _, _, h => by
    obtain _ | _ | ⟨⟨found, counted, narrowed, inside⟩⟩ := h
    obtain ⟨hnames, hdepth⟩ := PlansAll.shape patterns inside
    rw [Argument.bindings, Pattern.binders, Argument.depth, Pattern.nesting, hdepth]
    exact ⟨hnames, rfl⟩

/-- The same of several arguments. -/
theorem PlansAll.shape : ∀ (patterns : List Pattern) {index : Nat} {outputs : List TypeId}
    {arguments : List Argument}, oracle.PlansAll types index outputs patterns arguments →
      (Argument.bindingsAll arguments).map Prod.fst = (Pattern.bindersAll patterns).map Prod.fst
        ∧ Argument.deepest arguments = Pattern.nestingAll patterns
  | [], _, _, _, h => by
    cases h
    exact ⟨rfl, rfl⟩
  | p :: rest, _, _, _, h => by
    obtain _ | ⟨first, others⟩ := h
    obtain ⟨hnames, hdepth⟩ := PlansArgument.shape p first
    obtain ⟨hnames', hdepth'⟩ := PlansAll.shape rest others
    rw [Argument.bindingsAll, Pattern.bindersAll, Argument.deepest, Pattern.nestingAll,
      List.map_append, List.map_append, hnames, hnames', hdepth, hdepth']
    exact ⟨rfl, rfl⟩

end

/-- A plan binds the variables of its pattern, in their order, and is as deep as
type patterns are nested. -/
theorem Plans.shape {source : Source} {static target : TypeId} {patterns : List Pattern}
    {span : Span} {plan : Plan} (h : oracle.Plans types source static target patterns span plan) :
    plan.bindings.map Prod.fst = (Pattern.bindersAll patterns).map Prod.fst
      ∧ plan.depth = (Pattern.record target patterns span).nesting := by
  obtain ⟨found, counted, narrowed, inside⟩ := h
  obtain ⟨hnames, hdepth⟩ := PlansAll.shape patterns inside
  rw [Plan.bindings, Plan.depth, Pattern.nesting, hdepth]
  exact ⟨hnames, rfl⟩

/-- The oracle has found a deconstructor for a type pattern that has a plan. -/
theorem Plans.exists_found {source : Source} {static target : TypeId} {patterns : List Pattern}
    {span : Span} {plan : Plan} (h : oracle.Plans types source static target patterns span plan) :
    ∃ d, oracle target (patterns.map Shape.ofPattern) = .found d ∧ d.arity = patterns.length := by
  obtain ⟨found, counted, -, -⟩ := h
  exact ⟨_, found, counted⟩

end Oracle

/-! ## The steps of the resolver -/

namespace Resolver

variable {s : Resolver} {level : Nat} {d : Deconstructor} {source : Source}
  {static target output : TypeId} {patterns : List Pattern} {span : Span} {bound bound' : Bound}
  {plan : Plan}

/-- A sequence of two steps succeeds with what the second makes of the result
of the first. -/
theorem bind_eq_ok_iff {α β : Type} {x : Except ResolutionError α}
    {next : α → Except ResolutionError β} {b : β} :
    (x >>= next) = .ok b ↔ ∃ a, x = .ok a ∧ next a = .ok b := by
  cases x with
  | error e => simp [bind, Except.bind]
  | ok a => simp [bind, Except.bind]

/-- The first half of a type pattern: its level has to be allowed, and what the
oracle finds has to have one output for each argument. -/
theorem select_eq_ok_iff_found :
    s.select level target patterns span = .ok d
      ↔ level ≤ s.maxDepth ∧ s.oracle target (patterns.map Shape.ofPattern) = .found d
        ∧ d.arity = patterns.length := by
  rw [select]
  by_cases hlevel : s.maxDepth < level
  · rw [if_pos hlevel]
    exact iff_of_false (by simp) fun h => absurd h.1 (Nat.not_le.mpr hlevel)
  rw [if_neg hlevel, and_iff_right (Nat.not_lt.mp hlevel)]
  cases s.oracle target (patterns.map Shape.ofPattern) with
  | found e =>
    by_cases harity : e.arity = patterns.length
    · simp only [harity, if_true, Except.ok.injEq, Selection.found.injEq]
      exact ⟨fun h => ⟨h, h ▸ harity⟩, fun h => h.1⟩
    · simp only [harity, if_false, Selection.found.injEq, reduceCtorEq, false_iff]
      rintro ⟨rfl, hcounted⟩
      exact harity hcounted
  | ambiguous candidates => simp
  | notFound arities =>
    simp only [reduceCtorEq, false_and, iff_false]
    split <;> simp

/-- The test that is decided on is the one that narrows. -/
theorem typeTest_eq_ok_iff {needed : TypeId} {test : TypeTest} :
    s.typeTest static needed span = .ok test ↔ s.types.Narrows static needed test := by
  rw [typeTest]
  cases hbelow : s.types.isSubtype static needed with
  | true =>
    rw [if_pos rfl, Except.ok.injEq]
    cases hnull : s.types.isNullable static with
    | true =>
      rw [if_pos rfl]
      constructor
      · rintro rfl
        exact .nonNull hbelow hnull
      · intro h
        cases h <;> simp_all
    | false =>
      rw [if_neg Bool.false_ne_true]
      constructor
      · rintro rfl
        exact .unconditional hbelow hnull
      · intro h
        cases h <;> simp_all
  | false =>
    rw [if_neg Bool.false_ne_true]
    cases habove : s.types.isSubtype needed static with
    | true =>
      rw [if_pos rfl, Except.ok.injEq]
      constructor
      · rintro rfl
        exact .ofType hbelow habove
      · intro h
        cases h <;> simp_all
    | false =>
      rw [if_neg Bool.false_ne_true]
      refine iff_of_false (by simp) fun h => ?_
      cases h <;> simp_all

/-- Where there is no test, the two types are not related, and the error names
them. -/
theorem typeTest_eq_error_iff {needed : TypeId} {e : ResolutionError} :
    s.typeTest static needed span = .error e
      ↔ s.types.isRelated static needed = false ∧ e = s.mismatch needed static span := by
  rw [typeTest, TypeTable.isRelated, Bool.or_eq_false_iff]
  by_cases hbelow : s.types.isSubtype static needed = true
  · rw [if_pos hbelow, hbelow]
    exact iff_of_false (by simp) fun h => Bool.noConfusion h.1.1
  · by_cases habove : s.types.isSubtype needed static = true
    · rw [if_neg hbelow, if_pos habove, habove]
      exact iff_of_false (by simp) fun h => Bool.noConfusion h.1.2
    · rw [if_neg hbelow, if_neg habove, Except.error.injEq]
      rw [Bool.not_eq_true] at hbelow habove
      rw [and_iff_right ⟨hbelow, habove⟩]
      exact eq_comm

/-- Once the type that it states has accepted the output, a variable is as good as
one that states none. -/
theorem bindVariable_eq_of_accepted {name : Symbol} {type : Option TypeId}
    (haccepted : ∀ declared, type = some declared → s.types.isSubtype output declared = true) :
    s.bindVariable name type span output bound = s.bindVariable name none span output bound := by
  cases type with
  | none => rfl
  | some declared => simp only [bindVariable, haccepted declared rfl, if_true]

/-- A variable that states no type is bound exactly if its name is new. -/
theorem bindVariable_none_eq_ok_iff {name : Symbol} :
    s.bindVariable name none span output bound = .ok bound'
      ↔ name ∉ bound.map Prod.fst ∧ bound' = (name, span) :: bound := by
  rw [← lookup_name_eq_none_iff]
  cases hfound : bound.lookup name with
  | some first => simp [bindVariable, hfound]
  | none => simp [bindVariable, hfound, eq_comm]

/-- A variable is bound exactly if the type that it states, if any, accepts the
output, and its name is new. -/
theorem bindVariable_eq_ok_iff {name : Symbol} {type : Option TypeId} :
    s.bindVariable name type span output bound = .ok bound'
      ↔ (∀ declared, type = some declared → s.types.isSubtype output declared = true)
        ∧ name ∉ bound.map Prod.fst ∧ bound' = (name, span) :: bound := by
  by_cases haccepted : ∀ declared, type = some declared → s.types.isSubtype output declared = true
  · rw [and_iff_right haccepted, bindVariable_eq_of_accepted haccepted,
      bindVariable_none_eq_ok_iff]
  · refine iff_of_false ?_ fun h => haccepted h.1
    cases type with
    | none => simp at haccepted
    | some declared =>
      have hrefused : ¬ s.types.isSubtype output declared = true := by simpa using haccepted
      simp [bindVariable, hrefused]

/-- The second half of a type pattern, whatever its arguments come to. -/
theorem node_eq_ok_iff {arguments : List TypeId → Except ResolutionError (List Argument × Bound)} :
    s.node d source static target span arguments = .ok (plan, bound') ↔
      ∃ test args, s.types.Narrows static d.subject test ∧ arguments d.outputs = .ok (args, bound')
        ∧ plan = ⟨⟨source, static, target, d, test, span⟩, args⟩ := by
  simp only [node, bind_eq_ok_iff, typeTest_eq_ok_iff, pure, Except.pure, Except.ok.injEq,
    Prod.mk.injEq, Prod.exists]
  constructor
  · rintro ⟨test, htest, args, bound, hargs, rfl, rfl⟩
    exact ⟨test, args, htest, hargs, rfl⟩
  · rintro ⟨test, args, htest, hargs, rfl⟩
    exact ⟨test, htest, args, bound', hargs, rfl, rfl⟩

/-! ## The whole walk -/

/-- Variables that can be bound after others: their names differ from one
another and from the names bound before. -/
def Fresh (new : List (Symbol × Span)) (bound : Bound) : Prop :=
  (new.map Prod.fst).Nodup ∧ ∀ name ∈ new.map Prod.fst, name ∉ bound.map Prod.fst

/-- No variables can always be bound. -/
theorem fresh_nil (bound : Bound) : Fresh [] bound := by
  simp [Fresh]

/-- Where nothing was bound before, variables only have to differ from one
another. -/
theorem fresh_of_nothing {new : List (Symbol × Span)} :
    Fresh new [] ↔ (new.map Prod.fst).Nodup := by
  simp [Fresh]

/-- Binding some variables and then others is binding them all. -/
theorem fresh_append {first others : List (Symbol × Span)} :
    Fresh (first ++ others) bound
      ↔ Fresh first bound ∧ Fresh others (first.reverse ++ bound) := by
  simp only [Fresh, List.map_append, List.map_reverse, List.nodup_append, List.mem_append,
    List.mem_reverse]
  constructor
  · rintro ⟨⟨hfirst, hothers, hdiffer⟩, hnew⟩
    refine ⟨⟨hfirst, fun name h => hnew name (.inl h)⟩, hothers, fun name h hbound => ?_⟩
    rcases hbound with hbound | hbound
    · exact hdiffer name hbound name h rfl
    · exact hnew name (.inr h) hbound
  · rintro ⟨⟨hfirst, hnew⟩, hothers, hlater⟩
    refine ⟨⟨hfirst, hothers, fun a ha b hb heq => ?_⟩, fun name h => ?_⟩
    · exact hlater b hb (.inl (heq ▸ ha))
    · rcases h with h | h
      · exact hnew name h
      · exact fun hbound => hlater name h (.inr hbound)

/-- What is left of a type pattern once a deconstructor is found comes to a plan
exactly if the arguments can be resolved, and then to the plan that the answers of
the oracle make of the pattern. The arguments are given by what is known about
them, so that the outermost type pattern and the nested ones are the same case. -/
theorem nodeWith_eq_ok_iff_of_arguments
    (hfound : s.oracle target (patterns.map Shape.ofPattern) = .found d)
    (hcounted : d.arity = patterns.length)
    (harguments : ∀ arguments, s.arguments level 0 d.outputs bound patterns
        = .ok (arguments, bound') ↔
      level + Pattern.nestingAll patterns ≤ s.maxDepth
        ∧ s.oracle.PlansAll s.types 0 d.outputs patterns arguments
        ∧ Fresh (Pattern.bindersAll patterns) bound
        ∧ bound' = (Pattern.bindersAll patterns).reverse ++ bound) :
    s.nodeWith d level source static target patterns span bound = .ok (plan, bound') ↔
      level + Pattern.nestingAll patterns ≤ s.maxDepth
        ∧ s.oracle.Plans s.types source static target patterns span plan
        ∧ Fresh (Pattern.bindersAll patterns) bound
        ∧ bound' = (Pattern.bindersAll patterns).reverse ++ bound := by
  rw [nodeWith, node_eq_ok_iff]
  constructor
  · rintro ⟨test, args, htest, hargs, rfl⟩
    obtain ⟨hdepth, hinside, hfresh, hbound⟩ := (harguments args).mp hargs
    exact ⟨hdepth, .node hfound hcounted htest hinside, hfresh, hbound⟩
  · rintro ⟨hdepth, ⟨found, counted, narrowed, inside⟩, hfresh, hbound⟩
    -- the plan's deconstructor is the one that was found, as there is one answer only
    obtain rfl := Selection.found.inj (hfound.symm.trans found)
    exact ⟨_, _, narrowed, (harguments _).mpr ⟨hdepth, inside, hfresh, hbound⟩, rfl⟩

mutual

/-- **One argument.** It resolves exactly if it is not nested too deeply, the
answers of the oracle make an argument of it, and its variables can be bound; they
are then bound in addition to those before, the last one first. -/
theorem argument_eq_ok_iff {level : Nat} (hlevel : level ≤ s.maxDepth) :
    ∀ (p : Pattern) (index : Nat) (output : TypeId) (bound bound' : Bound) (a : Argument),
      s.argument level index output bound p = .ok (a, bound') ↔
        level + p.nesting ≤ s.maxDepth ∧ s.oracle.PlansArgument s.types index output p a
          ∧ Fresh p.binders bound ∧ bound' = p.binders.reverse ++ bound
  | .bind name type span, index, output, bound, bound', a => by
    rw [argument]
    simp only [bind_eq_ok_iff, bindVariable_eq_ok_iff, pure, Except.pure,
      Except.ok.injEq, Prod.mk.injEq, Pattern.nesting, Pattern.binders, Nat.add_zero, hlevel,
      true_and, List.reverse_singleton, List.singleton_append]
    have hfresh : Fresh [(name, span)] bound ↔ name ∉ bound.map Prod.fst := by simp [Fresh]
    rw [hfresh]
    constructor
    · rintro ⟨b, ⟨haccepted, hnew, rfl⟩, rfl, rfl⟩
      exact ⟨.bind index output name type span haccepted, hnew, rfl⟩
    · rintro ⟨hjudge, hnew, rfl⟩
      cases hjudge with
      | bind _ _ _ _ _ haccepted => exact ⟨_, ⟨haccepted, hnew, rfl⟩, rfl, rfl⟩
  | .discard span, index, output, bound, bound', a => by
    rw [argument]
    simp only [pure, Except.pure, Except.ok.injEq, Prod.mk.injEq, Pattern.nesting,
      Pattern.binders, Nat.add_zero, hlevel, true_and, fresh_nil, List.reverse_nil,
      List.nil_append]
    constructor
    · rintro ⟨rfl, rfl⟩
      exact ⟨.discard index output span, rfl⟩
    · rintro ⟨hjudge, rfl⟩
      cases hjudge
      exact ⟨rfl, rfl⟩
  | .record target patterns span, index, output, bound, bound', a => by
    have hnode : ∀ d, s.oracle target (patterns.map Shape.ofPattern) = .found d →
        d.arity = patterns.length → level + 1 ≤ s.maxDepth → ∀ plan,
        s.nodeWith d (level + 1) (.output index) output target patterns span bound
            = .ok (plan, bound') ↔
          level + 1 + Pattern.nestingAll patterns ≤ s.maxDepth
            ∧ s.oracle.Plans s.types (.output index) output target patterns span plan
            ∧ Fresh (Pattern.bindersAll patterns) bound
            ∧ bound' = (Pattern.bindersAll patterns).reverse ++ bound :=
      fun d hfound hcounted hnext plan =>
        nodeWith_eq_ok_iff_of_arguments hfound hcounted fun args =>
        arguments_eq_ok_iff hnext patterns 0 d.outputs bound bound' args hcounted
    rw [argument]
    simp only [bind_eq_ok_iff, select_eq_ok_iff_found, pure, Except.pure, Except.ok.injEq,
      Prod.mk.injEq, Prod.exists, Pattern.nesting, Pattern.binders]
    constructor
    · rintro ⟨d, ⟨hnext, hfound, hcounted⟩, plan, b, hplan, rfl, rfl⟩
      obtain ⟨hdepth, hjudge, hfresh, hbound⟩ := (hnode d hfound hcounted hnext plan).mp hplan
      exact ⟨by omega, .nested hjudge, hfresh, hbound⟩
    · rintro ⟨hdepth, _ | _ | ⟨hjudge⟩, hfresh, hbound⟩
      have hnext : level + 1 ≤ s.maxDepth := by omega
      obtain ⟨d, hfound, hcounted⟩ := hjudge.exists_found
      refine ⟨d, ⟨hnext, hfound, hcounted⟩, _, bound', ?_, rfl, rfl⟩
      exact (hnode d hfound hcounted hnext _).mpr ⟨by omega, hjudge, hfresh, hbound⟩

/-- **Several arguments**, one for each output, from left to right. -/
theorem arguments_eq_ok_iff {level : Nat} (hlevel : level ≤ s.maxDepth) :
    ∀ (patterns : List Pattern) (index : Nat) (outputs : List TypeId) (bound bound' : Bound)
      (args : List Argument), outputs.length = patterns.length →
      (s.arguments level index outputs bound patterns = .ok (args, bound') ↔
        level + Pattern.nestingAll patterns ≤ s.maxDepth
          ∧ s.oracle.PlansAll s.types index outputs patterns args
          ∧ Fresh (Pattern.bindersAll patterns) bound
          ∧ bound' = (Pattern.bindersAll patterns).reverse ++ bound)
  | [], index, outputs, bound, bound', args, hlength => by
    rw [List.eq_nil_of_length_eq_zero hlength, arguments]
    simp only [pure, Except.pure, Except.ok.injEq, Prod.mk.injEq, Pattern.nestingAll,
      Pattern.bindersAll, Nat.add_zero, hlevel, true_and, fresh_nil, List.reverse_nil,
      List.nil_append]
    constructor
    · rintro ⟨rfl, rfl⟩
      exact ⟨.nil index, rfl⟩
    · rintro ⟨hjudge, rfl⟩
      cases hjudge
      exact ⟨rfl, rfl⟩
  | p :: rest, index, outputs, bound, bound', args, hlength => by
    cases outputs with
    | nil => cases hlength
    | cons output outputs =>
      rw [arguments]
      simp only [bind_eq_ok_iff, pure, Except.pure, Except.ok.injEq, Prod.mk.injEq, Prod.exists,
        argument_eq_ok_iff hlevel p index output bound,
        arguments_eq_ok_iff hlevel rest (index + 1) outputs _ _ _ (Nat.succ.inj hlength),
        Pattern.nestingAll, Pattern.bindersAll, fresh_append, List.reverse_append,
        List.append_assoc]
      -- what the first argument has bound is what the others find bound
      constructor
      · rintro ⟨a, b, ⟨hdepth, hjudge, hfresh, rfl⟩, as, b', ⟨hdepth', hjudge', hfresh', rfl⟩,
          rfl, rfl⟩
        exact ⟨by omega, .cons hjudge hjudge', ⟨hfresh, hfresh'⟩, rfl⟩
      · rintro ⟨hdepth, _ | ⟨first, others⟩, ⟨hfresh, hfresh'⟩, rfl⟩
        exact ⟨_, _, ⟨by omega, first, hfresh, rfl⟩, _, _, ⟨by omega, others, hfresh', rfl⟩,
          rfl, rfl⟩

end

/-- **What resolving comes to.** A match resolves to a plan exactly if type
patterns are nested no deeper than allowed, the answers of the oracle make the plan
of the pattern, and its variables have different names. -/
theorem resolve_eq_ok_iff_plans {subject : Subject} :
    s.resolve subject target patterns = .ok plan ↔
      (Pattern.record target patterns subject.span).nesting ≤ s.maxDepth
        ∧ s.oracle.Plans s.types (.expression subject.expression) subject.type target patterns
            subject.span plan
        ∧ ((Pattern.bindersAll patterns).map Prod.fst).Nodup := by
  have hnode : ∀ d, s.oracle target (patterns.map Shape.ofPattern) = .found d →
      d.arity = patterns.length → 1 ≤ s.maxDepth → ∀ plan bound',
      s.nodeWith d 1 (.expression subject.expression) subject.type target patterns subject.span []
          = .ok (plan, bound') ↔ _ :=
    fun d hfound hcounted hone plan bound' => nodeWith_eq_ok_iff_of_arguments hfound hcounted
      fun args => arguments_eq_ok_iff hone patterns 0 d.outputs [] bound' args hcounted
  rw [resolve, ← fresh_of_nothing, Pattern.nesting]
  simp only [bind_eq_ok_iff, select_eq_ok_iff_found, pure, Except.pure, Except.ok.injEq,
    Prod.exists]
  constructor
  · rintro ⟨d, ⟨hone, hfound, hcounted⟩, plan, bound', hplan, rfl⟩
    obtain ⟨hdepth, hjudge, hfresh, -⟩ := (hnode d hfound hcounted hone plan bound').mp hplan
    exact ⟨hdepth, hjudge, hfresh⟩
  · rintro ⟨hdepth, hjudge, hfresh⟩
    have hone : 1 ≤ s.maxDepth := by omega
    obtain ⟨d, hfound, hcounted⟩ := hjudge.exists_found
    exact ⟨d, ⟨hone, hfound, hcounted⟩, plan, _,
      (hnode d hfound hcounted hone plan _).mpr ⟨hdepth, hjudge, hfresh, rfl⟩, rfl⟩

end Resolver

end RecordPatterns
