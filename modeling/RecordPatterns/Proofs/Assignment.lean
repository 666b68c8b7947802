/-
Definite assignment.

A match that succeeds binds every variable of its plan, once, and to the value
that was handed out at the place where the variable stands. That this needs a
proof has two reasons. Matching stops where the outputs run out, so a variable
beyond them would be left unbound and nobody would notice; here saturation
helps. And a value is looked up by name in one flat list for the whole tree,
so a second variable of the same name, however far away, would shadow the
first or be shadowed by it; the resolver has ruled this out.

Where a value comes from is read off the trace: a deconstructor that has come
to a result hands out the values in it (`Trace.HandsOut`). Since no node is
visited twice, there is one such value for each place (`handsOut_unique`), and
so "the value bound at a leaf" is well defined whatever the host has said.
The induction is on the plan and compares its leaves with the bindings one by
one (`Traced.receives_arguments`).
-/
import RecordPatterns.Proofs.Preorder

set_option autoImplicit false

namespace RecordPatterns

/-! ## The leaves of a plan -/

/-- A variable in a plan: the place of the node that it belongs to, its
position among the arguments there, and what the plan says about it. -/
structure Plan.Leaf where
  place : List Nat
  index : Nat
  name : Symbol
  type : TypeId

namespace Argument

mutual

/-- The variables in the argument at a position of the node at a place, from
left to right. -/
def leaves (place : List Nat) (index : Nat) : Argument → List Plan.Leaf
  | .bind name type => [⟨place, index, name, type⟩]
  | .discard => []
  | .nested _ args => leavesAll (place ++ [index]) 0 args

/-- The variables in the arguments from a position on, from left to right. -/
def leavesAll (place : List Nat) (index : Nat) : List Argument → List Plan.Leaf
  | [] => []
  | a :: rest => a.leaves place index ++ leavesAll place (index + 1) rest

end

mutual

/-- Places aside, the leaves of an argument are the variables that it binds. -/
theorem map_leaves : ∀ (a : Argument) (place : List Nat) (index : Nat),
    (a.leaves place index).map (fun leaf => (leaf.name, leaf.type)) = a.bindings
  | .bind .., place, index => by rw [leaves, bindings, List.map_singleton]
  | .discard, place, index => by rw [leaves, bindings, List.map_nil]
  | .nested _ args, place, index => by
    rw [leaves, bindings]
    exact map_leavesAll args (place ++ [index]) 0

/-- Places aside, the leaves of several arguments are the variables that they
bind. -/
theorem map_leavesAll : ∀ (args : List Argument) (place : List Nat) (index : Nat),
    (leavesAll place index args).map (fun leaf => (leaf.name, leaf.type)) = bindingsAll args
  | [], place, index => by rw [leavesAll, bindingsAll, List.map_nil]
  | a :: args, place, index => by
    rw [leavesAll, bindingsAll, List.map_append, map_leaves a place index,
      map_leavesAll args place (index + 1)]

end

end Argument

namespace Plan

/-- The variables of a plan with their places, in the order of binding. -/
def leaves (p : Plan) : List Leaf := Argument.leavesAll [] 0 p.arguments

/-- **The leaves are the variables** that the plan lists, in the same order. -/
theorem map_leaves (p : Plan) :
    p.leaves.map (fun leaf => (leaf.name, leaf.type)) = p.bindings :=
  Argument.map_leavesAll p.arguments [] 0

end Plan

/-! ## Where values come from -/

/-- In a trace, the deconstructor of the node at a place has come to a result
that has a certain value at a position. -/
def Trace.HandsOut (trace : Trace) (place : List Nat) (index : Nat) (w : Value) : Prop :=
  ∃ result : Deconstruction,
    (⟨.returned place (.ok result), ()⟩ : Dialogue.Exchange Event.Answer) ∈ trace
      ∧ result.outputs[index]? = some w

/-- A variable is bound to what was handed out at its place. -/
def Plan.Leaf.Receives (trace : Trace) (leaf : Plan.Leaf) (bound : Symbol × Value) : Prop :=
  bound.1 = leaf.name ∧ trace.HandsOut leaf.place leaf.index bound.2

namespace Traced

variable {r : Registry} {whole : Trace}

/-- **One node.** What its deconstructor has handed out is in the trace, for
its arguments to receive. -/
theorem receives_visit {place : List Nat} {node : Plan.Node} {args : List Argument}
    {subject : Value} {trace : Trace} {b : Bindings}
    (hlength : args.length = node.deconstructor.yield)
    (hargs : ∀ {outputs rest}, args.length = outputs.length →
      (∀ i w, outputs[i]? = some w → whole.HandsOut place (0 + i) w) → rest ⊆ whole →
      (arguments r place 0 args outputs).Course rest (.ok (some b)) →
      List.Forall₂ (Plan.Leaf.Receives whole) (Argument.leavesAll place 0 args) b)
    (hwhole : trace ⊆ whole)
    (h : (visit r place node subject (arguments r place 0 args)).Course trace (.ok (some b))) :
    List.Forall₂ (Plan.Leaf.Receives whole) (Argument.leavesAll place 0 args) b := by
  obtain ⟨-, -, hnone⟩ | ⟨calls, result, rest, -, hcourse, rfl, hrest⟩ := course_visit h
  · cases hnone
  obtain ⟨hblock, hothers⟩ := List.append_subset.mp hwhole
  cases result with
  | error fault => cases hrest
  | ok result =>
    rw [goOn] at hrest
    by_cases haccepted : result.accepted = true
    · rw [if_pos haccepted] at hrest
      have houtputs := Registry.length_outputs_of_course hcourse
      refine hargs (hlength.trans houtputs.symm) (fun i w hw => ?_) hothers hrest
      rw [Nat.zero_add]
      exact ⟨result, hblock (by simp [Trace.block]), hw⟩
    · rw [if_neg haccepted] at hrest
      cases hrest

mutual

/-- **One argument** that matches the value at its position. -/
theorem receives_argument : ∀ (a : Argument) {place : List Nat} {index : Nat} {output : Value}
    {trace : Trace} {b : Bindings}, a.Saturated → whole.HandsOut place index output →
      trace ⊆ whole → (argument r place index a output).Course trace (.ok (some b)) →
      List.Forall₂ (Plan.Leaf.Receives whole) (a.leaves place index) b
  | .bind name type, _, _, _, _, _, _, houtput, _, h => by
    rw [argument] at h
    cases h
    rw [Argument.leaves]
    exact .cons ⟨rfl, houtput⟩ .nil
  | .discard, _, _, _, _, _, _, _, _, h => by
    rw [argument] at h
    cases h
    rw [Argument.leaves]
    exact .nil
  | .nested node args, _, _, _, _, _, hsaturated, _, hwhole, h => by
    rw [Argument.Saturated] at hsaturated
    rw [argument] at h
    rw [Argument.leaves]
    exact receives_visit hsaturated.1 (fun hlength houtputs hrest hcourse =>
      receives_arguments args hlength hsaturated.2 houtputs hrest hcourse) hwhole h

/-- **Several arguments**, one for each value that was handed out. -/
theorem receives_arguments : ∀ (args : List Argument) {place : List Nat} {index : Nat}
    {outputs : List Value} {trace : Trace} {b : Bindings}, args.length = outputs.length →
      Argument.SaturatedAll args →
      (∀ i w, outputs[i]? = some w → whole.HandsOut place (index + i) w) → trace ⊆ whole →
      (arguments r place index args outputs).Course trace (.ok (some b)) →
      List.Forall₂ (Plan.Leaf.Receives whole) (Argument.leavesAll place index args) b
  | [], _, _, _, _, _, _, _, _, _, h => by
    rw [arguments] at h
    cases h
    rw [Argument.leavesAll]
    exact .nil
  | a :: args, place, index, outputs, trace, b, hlength, hsaturated, houtputs, hwhole, h => by
    cases outputs with
    | nil => cases hlength
    | cons output outputs =>
      rw [Argument.SaturatedAll] at hsaturated
      obtain ⟨b₁, b₂, first, rest, hfirst, hrest, rfl, rfl⟩ := course_arguments_cons_of_match h
      obtain ⟨hsub, hsub'⟩ := List.append_subset.mp hwhole
      have hlater : ∀ i w, outputs[i]? = some w → whole.HandsOut place (index + 1 + i) w := by
        intro i w hw
        rw [show index + 1 + i = index + (i + 1) by omega]
        exact houtputs (i + 1) w (by rwa [List.getElem?_cons_succ])
      rw [Argument.leavesAll]
      have hargument := receives_argument a hsaturated.1 (houtputs 0 output rfl) hsub hfirst
      have hothers :=
        receives_arguments args (Nat.succ.inj hlength) hsaturated.2 hlater hsub' hrest
      exact List.rel_append hargument hothers

end

end Traced

/-- **Leaf by leaf.** A saturated plan that matches has bound its variables in
order, each to what was handed out at its place. -/
theorem Plan.Saturated.receives {p : Plan} (hp : p.Saturated) {r : Registry} {v : Value}
    {trace : Trace} {b : Bindings} (h : (p.trace r v).Course trace (.ok (some b))) :
    List.Forall₂ (Leaf.Receives trace) p.leaves b :=
  Traced.receives_visit hp.1 (fun hlength houtputs hrest hcourse =>
    Traced.receives_arguments p.arguments hlength hp.2 houtputs hrest hcourse)
    (List.Subset.refl trace) h

/-! ## One value for each place -/

/-- The only result in a block is that of its own node. -/
theorem Trace.returned_mem_block_iff {place place' : List Nat} {visit : Visit}
    {calls : List (Dialogue.Exchange HostCall.Answer)}
    {result result' : Except Fault Deconstruction} :
    (⟨.returned place' result', ()⟩ : Dialogue.Exchange Event.Answer)
        ∈ block place visit calls result ↔ place' = place ∧ result' = result := by
  rw [block, List.mem_cons, List.mem_append, List.mem_singleton, List.mem_map]
  constructor
  · rintro (hinvoked | ⟨call, -, hcall⟩ | hreturned)
    · cases hinvoked
    · cases hcall
    · cases hreturned
      exact ⟨rfl, rfl⟩
  · rintro ⟨rfl, rfl⟩
    exact .inr (.inr rfl)

namespace Proceeds

variable {r : Registry} {nodes : List (List Nat × Plan.Node)} {trace : Trace}
  {ending : Except Fault Bool} {place : List Nat} {result result' : Except Fault Deconstruction}

/-- Only nodes that an evaluation proceeds along come to results. -/
theorem mem_of_returned (h : Proceeds r nodes trace ending)
    (hmem : (⟨.returned place result, ()⟩ : Dialogue.Exchange Event.Answer) ∈ trace) :
    place ∈ nodes.map Prod.fst := by
  induction h with
  | finished => cases hmem
  | refused => cases List.mem_singleton.mp hmem
  | stopped =>
    obtain ⟨rfl, -⟩ := Trace.returned_mem_block_iff.mp hmem
    exact List.mem_cons_self
  | accepted _ _ _ ih =>
    rcases List.mem_append.mp hmem with hblock | hrest
    · obtain ⟨rfl, -⟩ := Trace.returned_mem_block_iff.mp hblock
      exact List.mem_cons_self
    · exact List.mem_cons_of_mem _ (ih hrest)

/-- **One result for each place**, if no two of the nodes are at one place. -/
theorem returned_unique (h : Proceeds r nodes trace ending) (hnodup : (nodes.map Prod.fst).Nodup)
    (hmem : (⟨.returned place result, ()⟩ : Dialogue.Exchange Event.Answer) ∈ trace)
    (hmem' : (⟨.returned place result', ()⟩ : Dialogue.Exchange Event.Answer) ∈ trace) :
    result = result' := by
  induction h with
  | finished => cases hmem
  | refused => cases List.mem_singleton.mp hmem
  | stopped =>
    have hresult := (Trace.returned_mem_block_iff.mp hmem).2
    have hresult' := (Trace.returned_mem_block_iff.mp hmem').2
    exact hresult.trans hresult'.symm
  | @accepted top node subject others calls outputs rest ending _ _ hafterwards ih =>
    rw [List.map_cons, List.nodup_cons] at hnodup
    -- the place of this node is not among those of the others
    have happart : ∀ {found},
        (⟨.returned top found, ()⟩ : Dialogue.Exchange Event.Answer) ∉ rest :=
      fun hrest => hnodup.1 (hafterwards.mem_of_returned hrest)
    rcases List.mem_append.mp hmem with hblock | hrest
    · obtain ⟨rfl, rfl⟩ := Trace.returned_mem_block_iff.mp hblock
      rcases List.mem_append.mp hmem' with hblock' | hrest'
      · exact (Trace.returned_mem_block_iff.mp hblock').2.symm
      · exact absurd hrest' happart
    · rcases List.mem_append.mp hmem' with hblock' | hrest'
      · obtain ⟨rfl, -⟩ := Trace.returned_mem_block_iff.mp hblock'
        exact absurd hrest happart
      · exact ih hnodup.2 hrest hrest'

end Proceeds

/-- **One value for each place** and position, in the trace of a saturated
plan. -/
theorem Plan.Saturated.handsOut_unique {p : Plan} (hp : p.Saturated) {r : Registry} {v : Value}
    {trace : Trace} {outcome : Except Fault (Option Bindings)}
    (h : (p.trace r v).Course trace outcome) {place : List Nat} {index : Nat} {w w' : Value}
    (hw : trace.HandsOut place index w) (hw' : trace.HandsOut place index w') : w = w' := by
  obtain ⟨result, hmem, hresult⟩ := hw
  obtain ⟨result', hmem', hresult'⟩ := hw'
  have hnodup : (p.places.map Prod.fst).Nodup := by
    refine p.pairwise_places.imp ?_
    rintro place _ hlt rfl
    exact List.lt_irrefl place hlt
  cases (hp.proceeds h).returned_unique hnodup hmem hmem'
  exact Option.some.inj (hresult.symm.trans hresult')

/-! ## Looking variables up -/

/-- Under different names, every binding is what is found under its name. -/
theorem Bindings.get?_of_mem {b : Bindings} (hnodup : (b.map Prod.fst).Nodup) {name : Symbol}
    {w : Value} (h : (name, w) ∈ b) : b.get? name = some w := by
  exact (lookup_name_eq_some_iff hnodup).mpr h

/-- Nothing is found under a name that is not bound. -/
theorem Bindings.get?_of_notMem {b : Bindings} {name : Symbol} (h : name ∉ b.map Prod.fst) :
    b.get? name = none := by
  exact lookup_name_eq_none_iff.mpr h

/-! ## The whole plan -/

/-- What the bindings of a match look like, given what happened in it. -/
structure Plan.Assigned (p : Plan) (trace : Trace) (b : Bindings) : Prop where
  /-- The names that are bound are those of the plan, in the plan's order. -/
  names : b.map Prod.fst = p.bindings.map Prod.fst
  /-- No name is bound twice. -/
  nodup : (b.map Prod.fst).Nodup
  /-- What is found under the name of a leaf is the one value that was handed
  out at its place. -/
  leaves : ∀ leaf ∈ p.leaves, ∃ w, b.get? leaf.name = some w
    ∧ ∀ w', trace.HandsOut leaf.place leaf.index w' ↔ w' = w
  /-- No other name is bound. -/
  others : ∀ name, name ∉ p.bindings.map Prod.fst → b.get? name = none

/-- The variables of a plan that the registry's own resolver has returned have
different names. -/
theorem Resolver.nodup_bindings_of_resolve {r : Registry} {maxDepth : Nat} {subject : Subject}
    {target : TypeId} {patterns : List Pattern} {plan : Plan}
    (h : (ofRegistry r maxDepth).resolve subject target patterns = .ok plan) :
    (plan.bindings.map Prod.fst).Nodup := by
  obtain ⟨-, hjudge, hnodup⟩ := (resolve_eq_ok_iff (uses_ofRegistry r maxDepth)).mp h
  rw [hjudge.shape.1]
  exact hnodup

/-- **A match assigns every variable of its plan**, each once, and nothing
else. Take a plan that a reachable registry has resolved with itself as the
oracle, and evaluate it in any state of the registry, against any value, with
any host. If the evaluation matches, it can be traced; and however it is
traced, the variables that the plan lists are bound in their order, under
different names, and under the name of each the value is found that was handed
out at its leaf, where no other value was. -/
theorem Plan.assigns_all {r : Registry} {maxDepth : Nat} {subject : Subject} {target : TypeId}
    {patterns : List Pattern} {plan : Plan} (hreachable : r.Reachable)
    (hplan : (Resolver.ofRegistry r maxDepth).resolve subject target patterns = .ok plan)
    (now : Registry) (v : Value) (b : Bindings) :
    (∀ log, (plan.evaluate now v).Course log (.ok (some b)) →
        ∃ trace, (plan.trace now v).Course trace (.ok (some b))
          ∧ trace.filterMap Event.exchange? = log)
      ∧ ∀ trace, (plan.trace now v).Course trace (.ok (some b)) → plan.Assigned trace b := by
  have hsaturated :=
    Resolver.saturated_of_resolve (Resolver.delivering_of_reachable hreachable rfl) hplan
  have hdistinct := Resolver.nodup_bindings_of_resolve hplan
  refine ⟨fun log hcourse => exists_course_trace hcourse, fun trace hcourse => ?_⟩
  have hreceives := hsaturated.receives hcourse
  have hnames : b.map Prod.fst = plan.bindings.map Prod.fst := by
    have hleaves : List.Forall₂ (· = ·) (plan.leaves.map Leaf.name) (b.map Prod.fst) := by
      rw [List.forall₂_map_left_iff, List.forall₂_map_right_iff]
      exact hreceives.imp fun leaf bound hbound => hbound.1.symm
    rw [List.forall₂_eq_eq_eq] at hleaves
    rw [← hleaves, ← plan.map_leaves, List.map_map]
    rfl
  have hnodup : (b.map Prod.fst).Nodup := hnames ▸ hdistinct
  refine ⟨hnames, hnodup, fun leaf hleaf => ?_, fun name hname => ?_⟩
  · obtain ⟨i, hi, rfl⟩ := List.getElem_of_mem hleaf
    have hi' : i < b.length := hreceives.length_eq ▸ hi
    obtain ⟨hname, hhanded⟩ : Leaf.Receives trace plan.leaves[i] b[i] := hreceives.get hi hi'
    have hget : b.get? b[i].1 = some b[i].2 := Bindings.get?_of_mem hnodup (List.getElem_mem hi')
    refine ⟨b[i].2, hname ▸ hget, fun w' => ⟨fun hw' => ?_, ?_⟩⟩
    · exact hsaturated.handsOut_unique hcourse hw' hhanded
    · rintro rfl
      exact hhanded
  · rw [← hnames] at hname
    exact Bindings.get?_of_notMem hname

/-- The crate hands out as many values as it has slots. -/
theorem length_fullCrate : [Value.record (.nominal 0) [.int 5], .int 2].length = 2 := rfl

/-- An evaluation in which the crate hands out a box that stores five, and the
box says nine when asked. -/
def fullCrateTrace : Trace :=
  [ ⟨.invoked [] ⟨crateNode, .record (.nominal 1) []⟩, ()⟩,
    ⟨.called [] (.deconstruct ⟨1⟩ (.record (.nominal 1) []) 2 (.initial [.nominal 0, .int])),
      (⟨[.record (.nominal 0) [.int 5], .int 2], length_fullCrate⟩, .ok true)⟩,
    ⟨.returned [] (.ok ⟨true, [.record (.nominal 0) [.int 5], .int 2]⟩), ()⟩,
    ⟨.invoked [0] ⟨boxNode, .record (.nominal 0) [.int 5]⟩, ()⟩,
    ⟨.called [0] (.property ⟨0⟩ (.record (.nominal 0) [.int 5])), .ok (.int 9)⟩,
    ⟨.returned [0] (.ok ⟨true, [.int 9]⟩), ()⟩ ]

/-- Its variables are those inside the box and beside the box, in this
order. -/
theorem assigns_all_fullCrate :
    (Resolver.ofRegistry boxes 64).resolve ⟨⟨0⟩, .object, .generated⟩ (.nominal 1)
        [.record (.nominal 0) [.bind ⟨7⟩ none .generated] .generated, .bind ⟨8⟩ none .generated]
          = .ok cratePlan
      ∧ cratePlan.leaves = [⟨[0], 0, ⟨7⟩, .int⟩, ⟨[], 1, ⟨8⟩, .int⟩]
      ∧ (cratePlan.trace boxes (.record (.nominal 1) [])).Course fullCrateTrace
          (.ok (some [(⟨7⟩, .int 9), (⟨8⟩, .int 2)]))
      ∧ cratePlan.Assigned fullCrateTrace [(⟨7⟩, .int 9), (⟨8⟩, .int 2)] := by
  have hreachable : boxes.Reachable := ⟨_, rfl⟩
  have hplan : (Resolver.ofRegistry boxes 64).resolve ⟨⟨0⟩, .object, .generated⟩ (.nominal 1)
      [.record (.nominal 0) [.bind ⟨7⟩ none .generated] .generated, .bind ⟨8⟩ none .generated]
        = .ok cratePlan := rfl
  have hcourse : (cratePlan.trace boxes (.record (.nominal 1) [])).Course fullCrateTrace
      (.ok (some [(⟨7⟩, .int 9), (⟨8⟩, .int 2)])) :=
    .ask _ (.ask _ (.ask _ (.ask _ (.ask _ (.ask _ (.done _))))))
  have hassigned := (Plan.assigns_all hreachable hplan boxes (.record (.nominal 1) [])
    [(⟨7⟩, .int 9), (⟨8⟩, .int 2)]).2
  exact ⟨hplan, rfl, hcourse, hassigned _ hcourse⟩

end RecordPatterns
