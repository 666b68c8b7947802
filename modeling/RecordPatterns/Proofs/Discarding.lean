/-
A discard is a variable that nobody looks at.

Whether an argument is a variable that states no type or a discard makes no
difference to anything but the variables that are bound. Put discards in the place of
some untyped variables of a pattern that has a plan. Then the new pattern has a plan
too, the same one with these very variables discarded, and evaluating it calls on the
host for the same things and comes to the same match, less these variables
(`Resolver.discarding_unseen`).

Resolving and evaluating are taken one after the other. When a pattern is resolved,
the walks over the two patterns differ at each node, as fewer names are taken in the
new one. So the walks are not compared. What a plan is has been said without the names
that are taken (`Oracle.Plans`), and with that the induction is on how the one pattern
has become the other (`Pattern.Hides`). Names come in once only: as those of a pattern
with a plan all differ, the discarded ones are not among those that stay
(`Pattern.Hides.names`), so that it is enough to know the names of the variables that
are to be discarded in the plan.

Evaluating is compared as a tree. The tree of the new plan is that of the old one with
some bindings removed from each result (`Plan.evaluate_without`), so that no host has
to be mentioned.
-/
import RecordPatterns.Proofs.Noninterference
import RecordPatterns.Proofs.Planning

set_option autoImplicit false

namespace RecordPatterns

/-! ## Discarding variables -/

mutual

/-- How a pattern becomes another one when some of its untyped variables, which have
these names from left to right, become discards, each at any place. -/
inductive Pattern.Hides : Pattern → List Symbol → Pattern → Prop
  | kept (name : Symbol) (type : Option TypeId) (span : Span) :
      Pattern.Hides (.bind name type span) [] (.bind name type span)
  | hidden (name : Symbol) (span place : Span) :
      Pattern.Hides (.bind name none span) [name] (.discard place)
  | discard (span : Span) : Pattern.Hides (.discard span) [] (.discard span)
  | record {target : TypeId} {patterns patterns' : List Pattern} {gone : List Symbol}
      {span : Span} (inside : Pattern.HidesAll patterns gone patterns') :
      Pattern.Hides (.record target patterns span) gone (.record target patterns' span)

/-- The same of several patterns. -/
inductive Pattern.HidesAll : List Pattern → List Symbol → List Pattern → Prop
  | nil : Pattern.HidesAll [] [] []
  | cons {p q : Pattern} {rest rest' : List Pattern} {gone gone' : List Symbol}
      (first : Pattern.Hides p gone q) (others : Pattern.HidesAll rest gone' rest') :
      Pattern.HidesAll (p :: rest) (gone ++ gone') (q :: rest')

end

namespace Argument

mutual

/-- An argument with the variables of some names discarded. -/
def without (gone : List Symbol) : Argument → Argument
  | .bind name type => if name ∈ gone then .discard else .bind name type
  | .discard => .discard
  | .nested node arguments => .nested node (withoutAll gone arguments)

/-- Several arguments with the variables of some names discarded. -/
def withoutAll (gone : List Symbol) : List Argument → List Argument
  | [] => []
  | a :: rest => a.without gone :: withoutAll gone rest

end

end Argument

/-- A plan with the variables of some names discarded. All of its nodes stay as they
are. -/
def Plan.without (gone : List Symbol) (p : Plan) : Plan :=
  ⟨p.node, Argument.withoutAll gone p.arguments⟩

/-- Bindings without those of some names, in the same order. -/
def Bindings.without (gone : List Symbol) (b : Bindings) : Bindings :=
  b.filter fun binding => binding.1 ∉ gone

/-! ## What stays the same in a pattern -/

namespace Pattern

/-- A discard asks as little of an output as an untyped variable. -/
theorem Hides.ofPattern_eq {p q : Pattern} {gone : List Symbol} (h : p.Hides gone q) :
    Shape.ofPattern q = Shape.ofPattern p := by
  cases h <;> rfl

/-- So queries for a deconstructor are the same. -/
theorem HidesAll.map_ofPattern {patterns patterns' : List Pattern} {gone : List Symbol} :
    HidesAll patterns gone patterns' →
      patterns'.map Shape.ofPattern = patterns.map Shape.ofPattern
  | .nil => rfl
  | .cons first others => by
    rw [List.map_cons, List.map_cons, first.ofPattern_eq, others.map_ofPattern]

mutual

/-- Type patterns are nested as before. -/
theorem Hides.nesting_eq {p q : Pattern} {gone : List Symbol} :
    p.Hides gone q → q.nesting = p.nesting
  | .kept .. => rfl
  | .hidden .. => rfl
  | .discard _ => rfl
  | .record inside => congrArg (1 + ·) inside.nestingAll_eq

/-- The same of several patterns. -/
theorem HidesAll.nestingAll_eq {patterns patterns' : List Pattern} {gone : List Symbol} :
    HidesAll patterns gone patterns' → nestingAll patterns' = nestingAll patterns
  | .nil => rfl
  | .cons first others => by
    rw [nestingAll, nestingAll, first.nesting_eq, others.nestingAll_eq]

end

mutual

/-- **The names of a pattern** are those that are gone and those that stay. -/
theorem Hides.names {p q : Pattern} {gone : List Symbol} :
    p.Hides gone q → (p.binders.map Prod.fst).Perm (gone ++ q.binders.map Prod.fst)
  | .kept .. => .refl _
  | .hidden .. => .refl _
  | .discard _ => .refl _
  | .record inside => inside.names

/-- The same of several patterns. -/
theorem HidesAll.names {patterns patterns' : List Pattern} {gone : List Symbol} :
    HidesAll patterns gone patterns' →
      ((bindersAll patterns).map Prod.fst).Perm (gone ++ (bindersAll patterns').map Prod.fst)
  | .nil => .refl _
  | .cons first others => by
    have hboth := first.names.append others.names
    rw [List.perm_iff_count] at hboth ⊢
    intro name
    have hcount := hboth name
    simp only [bindersAll, List.map_append, List.count_append] at hcount ⊢
    omega

end

end Pattern

/-! ## The plan -/

namespace Oracle

variable {oracle : Oracle} {types : TypeTable} {all : List Symbol}

/-- **One type pattern**, given what becomes of its arguments. The deconstructor that was
found is found again, and narrowing the subject to what it takes is the same test. -/
theorem Plans.without {patterns patterns' : List Pattern} {gone : List Symbol} {source : Source}
    {static target : TypeId} {span : Span} {plan : Plan}
    (h : oracle.Plans types source static target patterns span plan)
    (hhides : Pattern.HidesAll patterns gone patterns')
    (harguments : ∀ outputs arguments, oracle.PlansAll types 0 outputs patterns arguments →
      oracle.PlansAll types 0 outputs patterns' (Argument.withoutAll all arguments)) :
    oracle.Plans types source static target patterns' span (plan.without all) := by
  obtain ⟨found, counted, narrowed, inside⟩ := h
  have hlength : patterns'.length = patterns.length := by
    simpa using congrArg List.length hhides.map_ofPattern
  rw [← hhides.map_ofPattern] at found
  exact .node found (counted.trans hlength.symm) narrowed (harguments _ _ inside)

mutual

/-- **One argument**, where the names to be discarded are those that are gone from the
pattern, and maybe others that are not in it. -/
theorem PlansArgument.without {p q : Pattern} {gone : List Symbol} {index : Nat}
    {output : TypeId} {a : Argument} :
    p.Hides gone q → oracle.PlansArgument types index output p a →
      (∀ name ∈ gone, name ∈ all) → (∀ name ∈ q.binders.map Prod.fst, name ∉ all) →
      oracle.PlansArgument types index output q (a.without all)
  | .kept name type span, h, _, hstays => by
    obtain ⟨_, _, _, _, _, haccepted⟩ := h
    rw [Argument.without, if_neg (hstays name List.mem_cons_self)]
    exact .bind index output name type span haccepted
  | .hidden name span place, h, hgone, _ => by
    cases h
    rw [Argument.without, if_pos (hgone name List.mem_cons_self)]
    exact .discard index output place
  | .discard span, h, _, _ => by
    cases h
    exact .discard index output span
  | .record inside, h, hgone, hstays => by
    obtain _ | _ | ⟨hplan⟩ := h
    exact .nested (hplan.without inside fun outputs arguments harguments =>
      PlansAll.without inside harguments hgone hstays)

/-- **Several arguments.** -/
theorem PlansAll.without {patterns patterns' : List Pattern} {gone : List Symbol} {index : Nat}
    {outputs : List TypeId} {arguments : List Argument} :
    Pattern.HidesAll patterns gone patterns' →
      oracle.PlansAll types index outputs patterns arguments → (∀ name ∈ gone, name ∈ all) →
      (∀ name ∈ (Pattern.bindersAll patterns').map Prod.fst, name ∉ all) →
      oracle.PlansAll types index outputs patterns' (Argument.withoutAll all arguments)
  | .nil, h, _, _ => by
    cases h
    exact .nil index
  | .cons first others, h, hgone, hstays => by
    obtain _ | ⟨hfirst, hothers⟩ := h
    rw [List.forall_mem_append] at hgone
    rw [Pattern.bindersAll, List.map_append, List.forall_mem_append] at hstays
    exact .cons (PlansArgument.without first hfirst hgone.1 hstays.1)
      (PlansAll.without others hothers hgone.2 hstays.2)

end

end Oracle

namespace Resolver

variable {s : Resolver} {subject : Subject}

/-- **Resolving** the pattern with the discards. -/
theorem resolvePattern_of_hides {p q : Pattern} {gone : List Symbol} {plan : Plan}
    (hhides : p.Hides gone q) (h : s.resolvePattern subject p = .ok plan) :
    s.resolvePattern subject q = .ok (plan.without gone) := by
  obtain _ | _ | _ | inside := hhides
  · cases h
  · cases h
  · cases h
  rw [resolvePattern, resolve_eq_ok_iff_plans] at h ⊢
  obtain ⟨hdepth, hplan, hnodup⟩ := h
  rw [inside.names.nodup_iff, List.nodup_append] at hnodup
  obtain ⟨-, hstays, hdiffer⟩ := hnodup
  refine ⟨?_, hplan.without inside fun outputs arguments harguments => ?_, hstays⟩
  · rw [Pattern.nesting] at hdepth ⊢
    rwa [inside.nestingAll_eq]
  · exact Oracle.PlansAll.without inside harguments (fun _ hgone => hgone)
      fun name hname hgone => hdiffer name hgone name hname rfl

/-- A plan binds variables of different names, and what is gone is some of them. -/
theorem names_of_resolvePattern {p q : Pattern} {gone : List Symbol} {plan : Plan}
    (hhides : p.Hides gone q) (h : s.resolvePattern subject p = .ok plan) :
    (plan.bindings.map Prod.fst).Nodup ∧ ∀ name ∈ gone, name ∈ plan.bindings.map Prod.fst := by
  obtain _ | _ | _ | inside := hhides
  · cases h
  · cases h
  · cases h
  obtain ⟨-, hplan, hnodup⟩ := resolve_eq_ok_iff_plans.mp h
  rw [hplan.shape.1]
  exact ⟨hnodup, fun name hgone => inside.names.mem_iff.mpr (List.mem_append_left _ hgone)⟩

end Resolver

/-! ## Dialogues with another result -/

namespace Dialogue

variable {ε : Type} {Q : Type} {A : Q → Type} {α β : Type}

@[simp] theorem map_done (f : α → β) (a : α) : f <$> (done a : Dialogue ε A α) = done (f a) := rfl

@[simp] theorem map_fail (f : α → β) (e : ε) : f <$> (fail e : Dialogue ε A α) = fail e := rfl

@[simp] theorem map_ask (f : α → β) (q : Q) (resume : A q → Dialogue ε A α) :
    f <$> ask q resume = ask q fun answer => f <$> resume answer := rfl

/-- Whoever handles the questions, the result is changed after that. -/
theorem handle_map {R : Type} {B : R → Type} (answer : (q : Q) → Dialogue ε B (A q)) (f : α → β)
    (x : Dialogue ε A α) : (f <$> x).handle answer = f <$> x.handle answer := by
  rw [← bind_pure_comp, ← bind_pure_comp, handle_bind]
  rfl

/-- Whatever monad answers the questions, the result is changed after that. -/
theorem interpret_map {m : Type → Type} [Monad m] [LawfulMonad m]
    (answer : (q : Q) → m (A q)) (f : α → β) (x : Dialogue ε A α) :
    (f <$> x).interpret answer = Except.map f <$> x.interpret answer := by
  induction x with
  | done a => simp [interpret, Except.map]
  | fail e => simp [interpret, Except.map]
  | ask q resume ih => simp only [map_ask, interpret, map_bind, ih]

end Dialogue

/-- A change of the result does not change what the host is called for. -/
theorem Run.transcript_map {α β σ : Type} (f : α → β) (x : Run α) (host : StatefulHost σ)
    (state : σ) :
    (f <$> x).transcript host state
      = ((x.transcript host state).1.map f, (x.transcript host state).2) := by
  rw [Run.transcript, Dialogue.interpret_map]
  rfl

/-! ## Evaluating the plan -/

namespace Walk

variable {types : TypeTable}

/-- **A visit** of a node is the same visit if what comes after it differs in the
bindings only. -/
theorem visit_map (node : Plan.Node) (subject : Value) (f : Bindings → Bindings)
    (next : List Value → Walk (Option Bindings)) :
    visit types node subject (fun outputs => Option.map f <$> next outputs)
      = Option.map f <$> visit types node subject next := by
  unfold visit
  by_cases hpasses : node.test.passes types subject = true
  · rw [if_pos hpasses, if_pos hpasses, Dialogue.map_ask]
    refine congrArg _ (funext fun result => ?_)
    cases result.accepted <;> rfl
  · rw [if_neg hpasses, if_neg hpasses]
    rfl

mutual

/-- **One argument.** A variable that is discarded binds nothing. -/
theorem argument_without (gone : List Symbol) : ∀ (a : Argument) (output : Value),
    argument types (a.without gone) output
      = Option.map (Bindings.without gone) <$> argument types a output
  | .bind name type, output => by
    by_cases hgone : name ∈ gone
    · simp [Argument.without, argument, Bindings.without, hgone]
    · simp [Argument.without, argument, Bindings.without, hgone]
  | .discard, output => rfl
  | .nested node args, output => by
    rw [Argument.without, argument, argument, ← visit_map]
    exact congrArg _ (funext fun outputs => arguments_without gone args outputs)

/-- **Several arguments.** What the first one binds stays in front of what the others
bind. -/
theorem arguments_without (gone : List Symbol) : ∀ (args : List Argument) (outputs : List Value),
    arguments types (Argument.withoutAll gone args) outputs
      = Option.map (Bindings.without gone) <$> arguments types args outputs
  | [], outputs => rfl
  | a :: args, [] => rfl
  | a :: args, output :: outputs => by
    rw [Argument.withoutAll, arguments, arguments, argument_without gone a output]
    simp only [bind_map_left, map_bind]
    refine congrArg _ (funext fun first => ?_)
    cases first with
    | none => rfl
    | some bound =>
      simp only [Option.map_some, arguments_without gone args outputs, bind_map_left, map_bind]
      refine congrArg _ (funext fun others => ?_)
      cases others with
      | none => rfl
      | some more => simp [Bindings.without]

end

end Walk

namespace Plan

/-- **Evaluating a plan with variables discarded** is evaluating the plan, and removing
them from what was bound. -/
theorem evaluate_without (gone : List Symbol) (p : Plan) (r : Registry) (subject : Value) :
    (p.without gone).evaluate r subject
      = Option.map (Bindings.without gone) <$> p.evaluate r subject := by
  have hwalk : (p.without gone).walk r.types subject
      = Option.map (Bindings.without gone) <$> p.walk r.types subject := by
    rw [walk, walk, ← Walk.visit_map]
    exact congrArg _ (funext fun outputs => Walk.arguments_without gone p.arguments outputs)
  rw [evaluate, evaluate, hwalk, Dialogue.handle_map]

/-- So it is where the host evaluates the subject. -/
theorem evaluateSite_without (gone : List Symbol) (p : Plan) (r : Registry) :
    (p.without gone).evaluateSite r
      = Option.map (Bindings.without gone) <$> p.evaluateSite r := by
  rw [evaluateSite, evaluateSite, without]
  cases p.node.source with
  | expression e =>
    simp only [map_bind]
    exact congrArg _ (funext fun subject => evaluate_without gone p r subject)
  | output index => rfl

end Plan

/-- **A discard is a variable that nobody looks at.** Let a pattern have a plan, and put
discards in the place of any of its untyped variables, whatever their levels. What comes
of it has the same plan, but that it discards these variables, of which no two have the
same name. For any subject, and under any host, evaluating the one plan calls on the host
for the same things in the same order as evaluating the other, and comes to the same
fault, the same failure to match, or the same match less these variables. -/
theorem Resolver.discarding_unseen {s : Resolver} {subject : Subject} {p q : Pattern}
    {gone : List Symbol} {plan : Plan} (hhides : p.Hides gone q)
    (hplan : s.resolvePattern subject p = .ok plan) :
    s.resolvePattern subject q = .ok (plan.without gone)
      ∧ ((plan.bindings.map Prod.fst).Nodup ∧ ∀ name ∈ gone, name ∈ plan.bindings.map Prod.fst)
      ∧ ∀ (r : Registry) (σ : Type) (host : StatefulHost σ) (state : σ),
        (∀ value, ((plan.without gone).evaluate r value).transcript host state
            = (((plan.evaluate r value).transcript host state).1.map
                (Option.map (Bindings.without gone)),
              ((plan.evaluate r value).transcript host state).2))
          ∧ ((plan.without gone).evaluateSite r).transcript host state
            = (((plan.evaluateSite r).transcript host state).1.map
                (Option.map (Bindings.without gone)),
              ((plan.evaluateSite r).transcript host state).2) := by
  refine ⟨resolvePattern_of_hides hhides hplan, names_of_resolvePattern hhides hplan,
    fun r σ host state => ⟨fun value => ?_, ?_⟩⟩
  · rw [Plan.evaluate_without, Run.transcript_map]
  · rw [Plan.evaluateSite_without, Run.transcript_map]

/-- Counters come apart into a number and an object, as the host says. -/
def counters : Registry := .after .empty
  [ .introduce .reference "Counter" .object,
    .add (.nominal 0)
      [⟨.deconstruct, .deconstructor .object [.int, .object], some ⟨0⟩, .generated⟩] ]

/-- A counter that comes apart into a number and another counter, with a variable for
each of three numbers. -/
def allCounted : Pattern :=
  .record (.nominal 0)
    [ .bind ⟨5⟩ none ⟨1, 2⟩,
      .record (.nominal 0) [.bind ⟨6⟩ none ⟨5, 6⟩, .bind ⟨7⟩ none ⟨8, 9⟩] ⟨4, 10⟩ ] ⟨0, 11⟩

/-- The same with one variable only. -/
def onceCounted : Pattern :=
  .record (.nominal 0)
    [ .discard ⟨1, 2⟩,
      .record (.nominal 0) [.bind ⟨6⟩ none ⟨5, 6⟩, .discard ⟨8, 9⟩] ⟨4, 10⟩ ] ⟨0, 11⟩

/-- The first variable and the last have become discards. -/
theorem hides_onceCounted : allCounted.Hides [⟨5⟩, ⟨7⟩] onceCounted :=
  .record (.cons (.hidden ..) (.cons (.record (.cons (.kept ..) (.cons (.hidden ..) .nil))) .nil))

/-- The host counts its calls. Under both patterns there are three, and what is bound
under the one is what is left, under the other, of three numbers. -/
theorem discarding_unseen_counted :
    allCounted.Hides [⟨5⟩, ⟨7⟩] onceCounted
      ∧ ∃ plan, (Resolver.ofRegistry counters 64).resolvePattern ⟨⟨0⟩, .object, ⟨0, 11⟩⟩ allCounted
          = .ok plan
        ∧ (Resolver.ofRegistry counters 64).resolvePattern ⟨⟨0⟩, .object, ⟨0, 11⟩⟩ onceCounted
          = .ok (plan.without [⟨5⟩, ⟨7⟩])
        ∧ (plan.evaluateSite counters).transcript (furtive .null) 0
          = (.ok (some [(⟨5⟩, .int 1), (⟨6⟩, .int 2), (⟨7⟩, .int 2)]),
            [ .evaluate ⟨0⟩, .deconstruct ⟨0⟩ (.int 5) 2 (.initial [.int, .object]),
              .deconstruct ⟨0⟩ (.int 1) 2 (.initial [.int, .object]) ])
        ∧ ((plan.without [⟨5⟩, ⟨7⟩]).evaluateSite counters).transcript (furtive .null) 0
          = (.ok (some [(⟨6⟩, .int 2)]),
            [ .evaluate ⟨0⟩, .deconstruct ⟨0⟩ (.int 5) 2 (.initial [.int, .object]),
              .deconstruct ⟨0⟩ (.int 1) 2 (.initial [.int, .object]) ]) := by
  have hresolved : ∃ plan, (Resolver.ofRegistry counters 64).resolvePattern ⟨⟨0⟩, .object, ⟨0, 11⟩⟩
      allCounted = .ok plan := ⟨_, rfl⟩
  obtain ⟨plan, hplan⟩ := hresolved
  obtain ⟨hresolve, -, hunseen⟩ := Resolver.discarding_unseen hides_onceCounted hplan
  obtain ⟨-, hsite⟩ := hunseen counters Nat (furtive .null) 0
  have hall : (plan.evaluateSite counters).transcript (furtive .null) 0
      = (.ok (some [(⟨5⟩, .int 1), (⟨6⟩, .int 2), (⟨7⟩, .int 2)]),
        [ .evaluate ⟨0⟩, .deconstruct ⟨0⟩ (.int 5) 2 (.initial [.int, .object]),
          .deconstruct ⟨0⟩ (.int 1) 2 (.initial [.int, .object]) ]) := by
    cases hplan
    rfl
  refine ⟨hides_onceCounted, plan, hplan, hresolve, hall, ?_⟩
  rw [hsite, hall]
  rfl

end RecordPatterns
