/-
The order in which an evaluation goes through its plan.

Nodes are visited parent first and children from left to right, as far as it
goes. `Plan.places` lists them in this order, each with its place. It is the
list of all nodes (`mem_places_iff`), in the lexicographic order of their places
(`pairwise_places`), which leaves no choice in what it is.

An evaluation proceeds along this list, node by node, and stops for good at
the first node whose subject is refused, whose deconstructor declines, or whose
deconstructor comes to a fault. `Proceeds` says so of a list of nodes and a
trace, without mentioning a tree; the tree comes in once, where it is shown
that every course of a traced evaluation proceeds along the nodes of its plan
(`proceeds_arguments`). What one argument does and what the arguments after it
do is put together by `Proceeds.append`; that a failure deep inside one of them
cuts off everything to its right, at all levels, is `Proceeds.of_stopped`.

Everything else is read off `Proceeds`, by induction on the list: what was
visited by the time of some event, who has accepted by then, and what may still
come afterwards (`Plan.Orderly`).
-/
import RecordPatterns.Proofs.Candor
import RecordPatterns.Proofs.Saturation
import RecordPatterns.Proofs.Trace

set_option autoImplicit false

namespace RecordPatterns

/-! ## The nodes of a plan -/

namespace Argument

mutual

/-- The nodes in the argument at a position of the node at a place, the outer
ones before those inside, each with its place. -/
def places (place : List Nat) (index : Nat) : Argument → List (List Nat × Plan.Node)
  | .bind .. => []
  | .discard => []
  | .nested node args => (place ++ [index], node) :: placesAll (place ++ [index]) 0 args

/-- The nodes in the arguments from a position on, from left to right. -/
def placesAll (place : List Nat) (index : Nat) : List Argument → List (List Nat × Plan.Node)
  | [] => []
  | a :: rest => a.places place index ++ placesAll place (index + 1) rest

end

end Argument

/-- The nodes of a plan in pre-order, each with its place. -/
def Plan.places (p : Plan) : List (List Nat × Plan.Node) :=
  ([], p.node) :: Argument.placesAll [] 0 p.arguments

/-- The first step of a path leads to a nested node, and the others go on from
there. -/
theorem Plan.below?_cons_eq_some_iff {p q : Plan} {index : Nat} {path : List Nat} :
    p.below? (index :: path) = some q ↔ ∃ node args,
      p.arguments[index]? = some (.nested node args)
        ∧ Plan.below? ⟨node, args⟩ path = some q := by
  rw [below?]
  cases p.arguments[index]? with
  | none => simp
  | some a => cases a <;> simp

namespace Argument

mutual

/-- The nodes listed for an argument are those that paths lead to which begin
with this argument. -/
theorem mem_places_iff : ∀ (a : Argument) {place path : List Nat} {index : Nat} {node : Plan.Node},
    (path, node) ∈ a.places place index ↔ ∃ top args rest below, a = .nested top args
      ∧ path = place ++ index :: rest ∧ Plan.below? ⟨top, args⟩ rest = some ⟨node, below⟩
  | .bind .., _, _, _, _ => by simp [places]
  | .discard, _, _, _, _ => by simp [places]
  | .nested top args, place, path, index, node => by
    rw [places, List.mem_cons, mem_placesAll_iff args]
    constructor
    · rintro (⟨rfl, rfl⟩ | ⟨i, rest, m, inner, below, hi, rfl, hbelow⟩)
      · exact ⟨_, args, [], args, rfl, rfl, rfl⟩
      · refine ⟨top, args, i :: rest, below, rfl, by simp, ?_⟩
        exact Plan.below?_cons_eq_some_iff.mpr ⟨m, inner, hi, hbelow⟩
    · rintro ⟨_, _, rest, below, ⟨⟩, rfl, hbelow⟩
      cases rest with
      | nil =>
        cases hbelow
        exact .inl rfl
      | cons i rest =>
        obtain ⟨m, inner, hi, hbelow⟩ := Plan.below?_cons_eq_some_iff.mp hbelow
        exact .inr ⟨i, rest, m, inner, below, hi, by simp, hbelow⟩

/-- The nodes listed for several arguments are those that paths lead to which
begin with one of them. -/
theorem mem_placesAll_iff : ∀ (args : List Argument) {place path : List Nat} {index : Nat}
    {node : Plan.Node}, (path, node) ∈ placesAll place index args ↔
      ∃ i rest top inner below, args[i]? = some (.nested top inner)
        ∧ path = place ++ (index + i) :: rest ∧ Plan.below? ⟨top, inner⟩ rest = some ⟨node, below⟩
  | [], _, _, _, _ => by simp [placesAll]
  | a :: args, place, path, index, node => by
    rw [placesAll, List.mem_append, mem_places_iff a, mem_placesAll_iff args]
    constructor
    · rintro (⟨top, inner, rest, below, rfl, rfl, hbelow⟩
        | ⟨i, rest, top, inner, below, hi, rfl, hbelow⟩)
      · exact ⟨0, rest, top, inner, below, rfl, rfl, hbelow⟩
      · refine ⟨i + 1, rest, top, inner, below, by rwa [List.getElem?_cons_succ], ?_, hbelow⟩
        rw [show index + (i + 1) = index + 1 + i by omega]
    · rintro ⟨i, rest, top, inner, below, hi, rfl, hbelow⟩
      cases i with
      | zero => exact .inl ⟨top, inner, rest, below, by simpa using hi, rfl, hbelow⟩
      | succ i =>
        rw [List.getElem?_cons_succ] at hi
        refine .inr ⟨i, rest, top, inner, below, hi, ?_, hbelow⟩
        rw [show index + (i + 1) = index + 1 + i by omega]

end

mutual

/-- The nodes of an argument are listed in the order of their places. -/
theorem pairwise_places : ∀ (a : Argument) (place : List Nat) (index : Nat),
    ((a.places place index).map Prod.fst).Pairwise (· < ·)
  | .bind .., place, index => by simp [places]
  | .discard, place, index => by simp [places]
  | .nested node args, place, index => by
    rw [places, List.map_cons, List.pairwise_cons]
    refine ⟨fun path hpath => ?_, pairwise_placesAll args (place ++ [index]) 0⟩
    -- what is inside has a longer place, and this place at its beginning
    obtain ⟨⟨_, n⟩, hn, rfl⟩ := List.mem_map.mp hpath
    obtain ⟨i, rest, -, -, -, -, rfl, -⟩ := (mem_placesAll_iff args).mp hn
    have hlonger : place ++ [index] ++ [] < place ++ [index] ++ (0 + i) :: rest :=
      List.append_left_lt (List.nil_lt_cons _ _)
    rwa [List.append_nil] at hlonger

/-- The nodes of several arguments are listed in the order of their places. -/
theorem pairwise_placesAll : ∀ (args : List Argument) (place : List Nat) (index : Nat),
    ((placesAll place index args).map Prod.fst).Pairwise (· < ·)
  | [], place, index => by simp [placesAll]
  | a :: args, place, index => by
    rw [placesAll, List.map_append, List.pairwise_append]
    refine ⟨pairwise_places a place index, pairwise_placesAll args place (index + 1), ?_⟩
    intro path hpath path' hpath'
    obtain ⟨⟨_, n⟩, hn, rfl⟩ := List.mem_map.mp hpath
    obtain ⟨⟨_, n'⟩, hn', rfl⟩ := List.mem_map.mp hpath'
    obtain ⟨-, -, rest, -, -, rfl, -⟩ := (mem_places_iff a).mp hn
    obtain ⟨i, rest', -, -, -, -, rfl, -⟩ := (mem_placesAll_iff args).mp hn'
    -- the two part at this node, and the second goes on further to the right
    exact List.append_left_lt (List.cons_lt_cons_iff.mpr (.inl (by omega)))

end

end Argument

/-- **The list has all nodes**: those that paths through the plan lead to. -/
theorem Plan.mem_places_iff {p : Plan} {path : List Nat} {node : Plan.Node} :
    (path, node) ∈ p.places ↔ ∃ below, p.below? path = some ⟨node, below⟩ := by
  rw [places, List.mem_cons, Argument.mem_placesAll_iff, Prod.mk.injEq]
  cases path with
  | nil =>
    constructor
    · rintro (⟨-, rfl⟩ | ⟨i, rest, -, -, -, -, hnil, -⟩)
      · exact ⟨p.arguments, rfl⟩
      · cases hnil
    · rintro ⟨below, ⟨⟩⟩
      exact .inl ⟨rfl, rfl⟩
  | cons index path =>
    simp only [below?_cons_eq_some_iff]
    constructor
    · rintro (⟨hnil, -⟩ | ⟨i, rest, top, inner, below, hi, hpath, hbelow⟩)
      · cases hnil
      · rw [List.nil_append, Nat.zero_add, List.cons.injEq] at hpath
        obtain ⟨rfl, rfl⟩ := hpath
        exact ⟨below, top, inner, hi, hbelow⟩
    · rintro ⟨below, top, inner, hi, hbelow⟩
      exact .inr ⟨index, path, top, inner, below, hi, by simp, hbelow⟩

/-- **The list is in pre-order**: a node comes before those inside it, and what
is further to the left comes first. -/
theorem Plan.pairwise_places (p : Plan) : (p.places.map Prod.fst).Pairwise (· < ·) := by
  rw [places, List.map_cons, List.pairwise_cons]
  refine ⟨fun path hpath => ?_, Argument.pairwise_placesAll p.arguments [] 0⟩
  obtain ⟨⟨_, n⟩, hn, rfl⟩ := List.mem_map.mp hpath
  obtain ⟨i, rest, -, -, -, -, rfl, -⟩ := (Argument.mem_placesAll_iff _).mp hn
  exact List.nil_lt_cons _ _

/-! ## What can be read off a trace -/

namespace Event

/-- The node whose deconstructor is about to be run. -/
def visited? : Event → Option (List Nat × Plan.Node)
  | invoked place visit => some (place, visit.node)
  | _ => none

/-- The place whose deconstructor has accepted its subject. -/
def accepted? : Event → Option (List Nat)
  | returned place (.ok ⟨true, _⟩) => some place
  | _ => none

/-- Whether an evaluation cannot go on after an event: a subject was refused or
declined, or a deconstructor has come to a fault. -/
def isLast : Event → Bool
  | refused .. => true
  | returned _ (.ok result) => !result.accepted
  | returned _ (.error _) => true
  | _ => false

end Event

namespace Trace

/-- The nodes that were visited, in the order in which their deconstructors
were run. -/
def visited (trace : Trace) : List (List Nat × Plan.Node) :=
  trace.filterMap fun e => e.question.visited?

/-- The places of the nodes that have accepted, in the order in which they
did. -/
def accepted (trace : Trace) : List (List Nat) :=
  trace.filterMap fun e => e.question.accepted?

/-- One trace after the other. -/
theorem visited_append (first rest : Trace) :
    visited (first ++ rest) = visited first ++ visited rest :=
  List.filterMap_append ..

/-- One trace after the other. -/
theorem accepted_append (first rest : Trace) :
    accepted (first ++ rest) = accepted first ++ accepted rest :=
  List.filterMap_append ..

variable {place : List Nat} {visit : Visit}
  {calls : List (Dialogue.Exchange HostCall.Answer)} {result : Except Fault Deconstruction}

/-- Calls on the host visit nothing and accept nothing. -/
theorem visited_and_accepted_calls (place : List Nat)
    (calls : List (Dialogue.Exchange HostCall.Answer)) :
    visited (calls.map (Event.ofCall place)) = []
      ∧ accepted (calls.map (Event.ofCall place)) = [] := by
  rw [visited, accepted, List.filterMap_eq_nil_iff, List.filterMap_eq_nil_iff]
  simp only [List.mem_map]
  constructor
  · rintro _ ⟨e, -, rfl⟩
    rfl
  · rintro _ ⟨e, -, rfl⟩
    rfl

/-- The calls of a block stand between its two announcements. -/
theorem block_eq_append : block place visit calls result = [⟨.invoked place visit, ()⟩]
    ++ calls.map (Event.ofCall place) ++ [⟨.returned place result, ()⟩] := rfl

/-- A block visits one node. -/
theorem visited_block : visited (block place visit calls result) = [(place, visit.node)] := by
  have hcalls := (visited_and_accepted_calls place calls).1
  rw [block_eq_append, visited_append, visited_append, hcalls]
  rfl

/-- The node of a block accepts if its deconstructor does. -/
theorem accepted_block {outputs : List Value} :
    accepted (block place visit calls (.ok ⟨true, outputs⟩)) = [place] := by
  have hcalls := (visited_and_accepted_calls place calls).2
  rw [block_eq_append, accepted_append, accepted_append, hcalls]
  rfl

end Trace

/-! ## Proceeding along a list of nodes -/

/-- How an evaluation may proceed along a list of nodes, and what has become of
it then: all nodes have accepted, or one of them was in the way, perhaps with a
fault. -/
inductive Proceeds (r : Registry) :
    List (List Nat × Plan.Node) → Trace → Except Fault Bool → Prop
  /-- There are no more nodes. -/
  | finished : Proceeds r [] [] (.ok true)
  /-- The subject of the first node is refused. -/
  | refused {place : List Nat} {node : Plan.Node} {subject : Value}
      {others : List (List Nat × Plan.Node)} :
      Proceeds r ((place, node) :: others) [⟨.refused place subject, ()⟩] (.ok false)
  /-- The first node declines, or comes to a fault. -/
  | stopped {place : List Nat} {node : Plan.Node} {subject : Value}
      {others : List (List Nat × Plan.Node)} {calls : List (Dialogue.Exchange HostCall.Answer)}
      {result : Except Fault Deconstruction} (notNull : subject ≠ .null)
      (course : (r.deconstruct node.deconstructor subject).Course calls result)
      (stops : result.map Deconstruction.accepted ≠ .ok true) :
      Proceeds r ((place, node) :: others) (Trace.block place ⟨node, subject⟩ calls result)
        (result.map Deconstruction.accepted)
  /-- The first node accepts, and it goes on with the others. -/
  | accepted {place : List Nat} {node : Plan.Node} {subject : Value}
      {others : List (List Nat × Plan.Node)} {calls : List (Dialogue.Exchange HostCall.Answer)}
      {outputs : List Value} {rest : Trace} {ending : Except Fault Bool}
      (notNull : subject ≠ .null)
      (course : (r.deconstruct node.deconstructor subject).Course calls (.ok ⟨true, outputs⟩))
      (afterwards : Proceeds r others rest ending) :
      Proceeds r ((place, node) :: others)
        (Trace.block place ⟨node, subject⟩ calls (.ok ⟨true, outputs⟩) ++ rest) ending

namespace Proceeds

variable {r : Registry} {first others nodes : List (List Nat × Plan.Node)} {trace rest : Trace}
  {ending : Except Fault Bool}

/-- Having proceeded along all of some nodes, an evaluation can proceed along
others. -/
theorem append (h : Proceeds r first trace (.ok true)) (hrest : Proceeds r others rest ending) :
    Proceeds r (first ++ others) (trace ++ rest) ending := by
  generalize hall : (Except.ok true : Except Fault Bool) = all at h
  induction h with
  | finished => exact hrest
  | refused => cases hall
  | stopped _ _ stops => exact absurd hall.symm stops
  | accepted notNull course _ ih =>
    rw [List.append_assoc]
    exact .accepted notNull course (ih hall)

/-- Having stopped at one of some nodes, an evaluation leaves out whatever
would come after them. -/
theorem of_stopped (h : Proceeds r first trace ending) (hstopped : ending ≠ .ok true) :
    Proceeds r (first ++ others) trace ending := by
  induction h with
  | finished => exact absurd rfl hstopped
  | refused => exact .refused
  | stopped notNull course stops => exact .stopped notNull course stops
  | accepted notNull course _ ih => exact .accepted notNull course (ih hstopped)

end Proceeds

/-! ## Traced evaluations proceed along their plans -/

namespace Traced

variable {r : Registry}

/-- A test that a subject passes is passed by something other than null. -/
theorem ne_null_of_passes {types : TypeTable} {test : TypeTest} {subject : Value}
    (h : test.passes types subject = true) : subject ≠ .null := by
  rintro rfl
  cases h

/-- **One node**, given that its arguments proceed along the nodes in them. -/
theorem proceeds_visit {place : List Nat} {node : Plan.Node} {args : List Argument}
    {subject : Value} {trace : Trace} {outcome : Except Fault (Option Bindings)}
    (hlength : args.length = node.deconstructor.yield)
    (hargs : ∀ {outputs rest}, args.length = outputs.length →
      (arguments r place 0 args outputs).Course rest outcome →
      Proceeds r (Argument.placesAll place 0 args) rest (outcome.map Option.isSome))
    (h : (visit r place node subject (arguments r place 0 args)).Course trace outcome) :
    Proceeds r ((place, node) :: Argument.placesAll place 0 args) trace
      (outcome.map Option.isSome) := by
  obtain ⟨-, rfl, rfl⟩ | ⟨calls, result, rest, hpasses, hcourse, rfl, hrest⟩ := course_visit h
  · exact .refused
  have hnull := ne_null_of_passes hpasses
  cases result with
  | error fault =>
    cases hrest
    rw [List.append_nil]
    exact .stopped hnull hcourse (by simp [Except.map])
  | ok result =>
    obtain ⟨accepted, outputs⟩ := result
    cases accepted with
    | false =>
      cases hrest
      rw [List.append_nil]
      exact .stopped hnull hcourse (by simp [Except.map])
    | true =>
      -- there is an output for each argument, so none of the nodes is passed over
      have houtputs := Registry.length_outputs_of_course hcourse
      exact .accepted hnull hcourse (hargs (hlength.trans houtputs.symm) hrest)

mutual

/-- **One argument.** -/
theorem proceeds_argument : ∀ (a : Argument) {place : List Nat} {index : Nat} {output : Value}
    {trace : Trace} {outcome : Except Fault (Option Bindings)}, a.Saturated →
      (argument r place index a output).Course trace outcome →
      Proceeds r (a.places place index) trace (outcome.map Option.isSome)
  | .bind .., _, _, _, _, _, _, h => by
    rw [argument] at h
    cases h
    exact .finished
  | .discard, _, _, _, _, _, _, h => by
    rw [argument] at h
    cases h
    exact .finished
  | .nested node args, _, _, _, _, _, hsaturated, h => by
    rw [Argument.Saturated] at hsaturated
    rw [argument] at h
    exact proceeds_visit hsaturated.1
      (fun hlength hrest => proceeds_arguments args hlength hsaturated.2 hrest) h

/-- **Several arguments**, one for each output. If one of them stops, the
nodes in those after it are cut off. -/
theorem proceeds_arguments : ∀ (args : List Argument) {place : List Nat} {index : Nat}
    {outputs : List Value} {trace : Trace} {outcome : Except Fault (Option Bindings)},
      args.length = outputs.length → Argument.SaturatedAll args →
      (arguments r place index args outputs).Course trace outcome →
      Proceeds r (Argument.placesAll place index args) trace (outcome.map Option.isSome)
  | [], _, _, _, _, _, _, _, h => by
    rw [arguments] at h
    cases h
    exact .finished
  | a :: args, place, index, outputs, trace, outcome, hlength, hsaturated, h => by
    cases outputs with
    | nil => cases hlength
    | cons output outputs =>
      rw [Argument.SaturatedAll] at hsaturated
      rw [Argument.placesAll]
      obtain ⟨hfirst, hstopped⟩ | ⟨b, first, rest, result, hfirst, hrest, rfl, rfl⟩ :=
        course_arguments_cons h
      · refine (proceeds_argument a hsaturated.1 hfirst).of_stopped fun htrue => ?_
        cases outcome with
        | error fault => cases htrue
        | ok result =>
          obtain ⟨b, rfl⟩ := Option.isSome_iff_exists.mp (Except.ok.inj htrue)
          exact hstopped b rfl
      · have hrest := proceeds_arguments args (Nat.succ.inj hlength) hsaturated.2 hrest
        have hending : (result.map (Option.map (b ++ ·))).map Option.isSome
            = result.map Option.isSome := by
          cases result with
          | error fault => rfl
          | ok found => cases found <;> rfl
        rw [hending]
        exact (proceeds_argument a hsaturated.1 hfirst).append hrest

end

end Traced

/-- **Every course of a traced evaluation proceeds along the nodes of its
plan**, if the plan is saturated. -/
theorem Plan.Saturated.proceeds {p : Plan} (hp : p.Saturated) {r : Registry} {v : Value}
    {trace : Trace} {outcome : Except Fault (Option Bindings)}
    (h : (p.trace r v).Course trace outcome) :
    Proceeds r p.places trace (outcome.map Option.isSome) :=
  Traced.proceeds_visit hp.1
    (fun hlength hrest => Traced.proceeds_arguments p.arguments hlength hp.2 hrest) h

/-! ## What may stand where in a trace -/

namespace Trace

variable {place place' : List Nat} {visit visit' : Visit} {first rest before after : Trace}
  {calls : List (Dialogue.Exchange HostCall.Answer)} {result : Except Fault Deconstruction}

/-- An event of two traces in sequence that is not one of the first trace is
one of the second. -/
theorem split_of_notMem {e : Dialogue.Exchange Event.Answer}
    (h : first ++ rest = before ++ e :: after) (he : e ∉ first) :
    ∃ more, before = first ++ more ∧ rest = more ++ e :: after := by
  obtain ⟨more, rfl, hrest⟩ | ⟨more, rfl, hmore⟩ := List.append_eq_append_iff.mp h
  · exact ⟨more, rfl, hrest⟩
  · cases more with
    | nil => exact ⟨[], by simp, hmore.symm⟩
    | cons x more =>
      obtain ⟨rfl, -⟩ := List.cons.inj hmore
      exact absurd (by simp) he

/-- A visit that is announced in a block or after it is that of the block, at
its beginning, or comes after it. -/
theorem split_at_invoked
    (h : block place visit calls result ++ rest
      = before ++ ⟨.invoked place' visit', ()⟩ :: after) :
    (before = [] ∧ place' = place ∧ visit' = visit)
      ∨ ∃ more, before = block place visit calls result ++ more
        ∧ rest = more ++ ⟨.invoked place' visit', ()⟩ :: after := by
  cases before with
  | nil =>
    have hhead := (List.cons.inj h).1
    cases hhead
    exact .inl ⟨rfl, rfl, rfl⟩
  | cons e before =>
    obtain ⟨rfl, htail⟩ := List.cons.inj h
    have hnot : (⟨.invoked place' visit', ()⟩ : Dialogue.Exchange Event.Answer)
        ∉ calls.map (Event.ofCall place) ++ [⟨.returned place result, ()⟩] := by
      simp only [List.mem_append, List.mem_map, List.mem_singleton, not_or]
      constructor
      · rintro ⟨e, -, he⟩
        cases he
      · intro he
        cases he
    obtain ⟨more, rfl, rfl⟩ := split_of_notMem htail hnot
    exact .inr ⟨more, rfl, rfl⟩

/-- A call that is announced in a block or after it is one of the calls of the
block, or comes after it. -/
theorem split_at_called {question : HostCall} {answer : question.Answer}
    (h : block place visit calls result ++ rest
      = before ++ ⟨.called place' question, answer⟩ :: after) :
    (∃ earlier later, calls = earlier ++ ⟨question, answer⟩ :: later ∧ place' = place
        ∧ after = later.map (Event.ofCall place) ++ ⟨.returned place result, ()⟩ :: rest)
      ∨ ∃ more, before = block place visit calls result ++ more
        ∧ rest = more ++ ⟨.called place' question, answer⟩ :: after := by
  cases before with
  | nil => cases (List.cons.inj h).1
  | cons e before =>
    obtain ⟨rfl, htail⟩ := List.cons.inj h
    have hcalls : calls.map (Event.ofCall place) ++ ⟨.returned place result, ()⟩ :: rest
        = before ++ ⟨.called place' question, answer⟩ :: after :=
      calc calls.map (Event.ofCall place) ++ ⟨.returned place result, ()⟩ :: rest
          = (calls.map (Event.ofCall place) ++ [⟨.returned place result, ()⟩]) ++ rest := by simp
        _ = before ++ ⟨.called place' question, answer⟩ :: after := htail
    obtain ⟨more, rfl, hmore⟩ | ⟨more, hbefore, hmore⟩ := List.append_eq_append_iff.mp hcalls
    · -- beyond the calls there is the result, which is not a call
      cases more with
      | nil => cases (List.cons.inj hmore).1
      | cons e more =>
        obtain ⟨rfl, rfl⟩ := List.cons.inj hmore
        exact .inr ⟨more, by simp [block], rfl⟩
    · cases more with
      | nil => cases (List.cons.inj hmore).1
      | cons e more =>
        obtain ⟨rfl, rfl⟩ := List.cons.inj hmore
        obtain ⟨earlier, found, rfl, -, hfound⟩ := List.map_eq_append_iff.mp hbefore
        obtain ⟨⟨asked, answered⟩, later, rfl, hcall, rfl⟩ := List.map_eq_cons_iff.mp hfound
        cases hcall
        exact .inl ⟨earlier, later, rfl, rfl, rfl⟩

/-- Nothing that a visit announces before its result is the last of anything. -/
theorem isLast_of_mem_calls {e : Dialogue.Exchange Event.Answer}
    (h : e ∈ (⟨.invoked place visit, ()⟩ : Dialogue.Exchange Event.Answer)
      :: calls.map (Event.ofCall place)) : e.question.isLast = false := by
  rcases List.mem_cons.mp h with rfl | h
  · rfl
  · obtain ⟨call, -, rfl⟩ := List.mem_map.mp h
    rfl

end Trace

/-! ## What proceeding guarantees -/

namespace Proceeds

variable {r : Registry} {nodes : List (List Nat × Plan.Node)} {trace : Trace}
  {ending : Except Fault Bool}

/-- What was visited is the beginning of the list. -/
theorem isPrefix_visited (h : Proceeds r nodes trace ending) : trace.visited <+: nodes := by
  induction h with
  | finished => exact List.prefix_rfl
  | refused => exact List.nil_prefix
  | stopped =>
    rw [Trace.visited_block]
    exact List.cons_prefix_cons.mpr ⟨rfl, List.nil_prefix⟩
  | accepted _ _ _ ih =>
    rw [Trace.visited_append, Trace.visited_block]
    exact List.cons_prefix_cons.mpr ⟨rfl, ih⟩

/-- An evaluation that was not stopped has visited all nodes. -/
theorem visited_eq (h : Proceeds r nodes trace ending) (hall : ending = .ok true) :
    trace.visited = nodes := by
  induction h with
  | finished => rfl
  | refused => cases hall
  | stopped _ _ stops => exact absurd hall stops
  | accepted _ _ _ ih =>
    rw [Trace.visited_append, Trace.visited_block, ih hall]
    rfl

/-- **The step to a node.** When a node is visited, its subject is not null,
the nodes visited before are the ones before it in the list, and all of them
have accepted. -/
theorem at_invoked (h : Proceeds r nodes trace ending) :
    ∀ {before after : Trace} {place : List Nat} {visit : Visit},
      trace = before ++ ⟨.invoked place visit, ()⟩ :: after →
      visit.subject ≠ .null ∧ (∃ later, nodes = before.visited ++ (place, visit.node) :: later)
        ∧ before.accepted = before.visited.map Prod.fst := by
  induction h with
  | finished =>
    intro before after place visit htrace
    simp at htrace
  | refused =>
    intro before after place visit htrace
    cases before with
    | nil => cases (List.cons.inj htrace).1
    | cons e before => simp at htrace
  | stopped notNull course stops =>
    intro before after place visit htrace
    rw [← List.append_nil (Trace.block ..)] at htrace
    obtain ⟨rfl, rfl, rfl⟩ | ⟨more, -, hmore⟩ := Trace.split_at_invoked htrace
    · exact ⟨notNull, ⟨_, rfl⟩, rfl⟩
    · simp at hmore
  | accepted notNull course afterwards ih =>
    intro before after place visit htrace
    obtain ⟨rfl, rfl, rfl⟩ | ⟨more, rfl, hmore⟩ := Trace.split_at_invoked htrace
    · exact ⟨notNull, ⟨_, rfl⟩, rfl⟩
    · obtain ⟨hnull, ⟨later, hlater⟩, haccepted⟩ := ih hmore
      rw [Trace.visited_append, Trace.visited_block, Trace.accepted_append, Trace.accepted_block,
        haccepted, hlater]
      exact ⟨hnull, ⟨later, rfl⟩, rfl⟩

/-- After a refusal, a decline or a fault nothing happens any more. -/
theorem at_last (h : Proceeds r nodes trace ending) :
    ∀ {before after : Trace} {e : Dialogue.Exchange Event.Answer},
      trace = before ++ e :: after → e.question.isLast = true → after = [] := by
  induction h with
  | finished =>
    intro before after e htrace
    simp at htrace
  | refused =>
    intro before after e htrace _
    have hlength := congrArg List.length htrace
    simp only [List.length_append, List.length_cons, List.length_nil] at hlength
    exact List.eq_nil_of_length_eq_zero (by omega)
  | @stopped place node subject others calls result _ _ _ =>
    intro before after e htrace hlast
    rw [Trace.block, ← List.cons_append] at htrace
    obtain ⟨more, -, hmore⟩ := Trace.split_of_notMem htrace fun hmem => by
      rw [Trace.isLast_of_mem_calls hmem] at hlast
      cases hlast
    have hlength := congrArg List.length hmore
    simp only [List.length_append, List.length_cons, List.length_nil] at hlength
    exact List.eq_nil_of_length_eq_zero (by omega)
  | @accepted place node subject others calls outputs rest ending _ _ _ ih =>
    intro before after e htrace hlast
    have hnot : e ∉ Trace.block place ⟨node, subject⟩ calls (.ok ⟨true, outputs⟩) := by
      intro hmem
      rw [Trace.block, ← List.cons_append, List.mem_append, List.mem_singleton] at hmem
      rcases hmem with hmem | rfl
      · rw [Trace.isLast_of_mem_calls hmem] at hlast
        cases hlast
      · cases hlast
    obtain ⟨more, -, hmore⟩ := Trace.split_of_notMem htrace hnot
    exact ih hmore hlast

/-- After a call that the host answers with a fault, all that happens is that
the deconstructor comes to this fault. -/
theorem at_fault (h : Proceeds r nodes trace ending) :
    ∀ {before after : Trace} {place : List Nat} {question : HostCall} {answer : question.Answer}
      {fault : Fault}, trace = before ++ ⟨.called place question, answer⟩ :: after →
      question.fault? answer = some fault →
      after = [⟨.returned place (.error fault), ()⟩] ∧ ending = .error fault := by
  induction h with
  | finished =>
    intro before after place question answer fault htrace
    simp at htrace
  | refused =>
    intro before after place question answer fault htrace
    cases before with
    | nil => cases (List.cons.inj htrace).1
    | cons e before => simp at htrace
  | stopped notNull course stops =>
    intro before after place question answer fault htrace hfault
    rw [← List.append_nil (Trace.block ..)] at htrace
    obtain ⟨earlier, later, rfl, rfl, rfl⟩ | ⟨more, -, hmore⟩ := Trace.split_at_called htrace
    · obtain ⟨rfl, rfl⟩ := (Registry.candid_deconstruct _ _).course course rfl hfault
      exact ⟨rfl, rfl⟩
    · simp at hmore
  | accepted notNull course afterwards ih =>
    intro before after place question answer fault htrace hfault
    obtain ⟨earlier, later, rfl, rfl, rfl⟩ | ⟨more, -, hmore⟩ := Trace.split_at_called htrace
    · -- the deconstructor would not have come to a result
      cases ((Registry.candid_deconstruct _ _).course course rfl hfault).2
    · exact ih hmore hfault

end Proceeds

/-! ## The protocol -/

/-- What the trace of an evaluation of a plan looks like, whatever the subject
and the host, and whatever it comes to. -/
structure Plan.Orderly (p : Plan) (trace : Trace) (outcome : Except Fault (Option Bindings)) :
    Prop where
  /-- The nodes that are visited are the first few in pre-order. -/
  preorder : trace.visited <+: p.places
  /-- Places only grow, so no node is visited twice. -/
  once : (trace.visited.map Prod.fst).Pairwise (· < ·)
  /-- Null is never taken apart. -/
  notNull : ∀ (before after : Trace) (place : List Nat) (visit : Visit),
    trace = before ++ ⟨.invoked place visit, ()⟩ :: after → visit.subject ≠ .null
  /-- When a node is visited, the nodes visited before are all that come before
  it, and all of them have accepted. -/
  accepted : ∀ (before after : Trace) (place : List Nat) (visit : Visit),
    trace = before ++ ⟨.invoked place visit, ()⟩ :: after →
      (∃ later, p.places = before.visited ++ (place, visit.node) :: later)
        ∧ before.accepted = before.visited.map Prod.fst
  /-- A match has visited all nodes. -/
  complete : ∀ b, outcome = .ok (some b) → trace.visited = p.places
  /-- After a subject was refused or declined, or a deconstructor has come to a
  fault, nothing happens any more. -/
  last : ∀ (before after : Trace) (e : Dialogue.Exchange Event.Answer),
    trace = before ++ e :: after → e.question.isLast = true → after = []
  /-- After the host has reported a fault, to a getter or to anything else, the
  deconstructor ends with it, and so does the evaluation. -/
  fault : ∀ (before after : Trace) (place : List Nat) (question : HostCall)
    (answer : question.Answer) (fault : Fault),
    trace = before ++ ⟨.called place question, answer⟩ :: after →
      question.fault? answer = some fault →
        after = [⟨.returned place (.error fault), ()⟩] ∧ outcome = .error fault

/-- **Evaluations go through their plan in order.** Take a plan that was
resolved with a reachable registry as the oracle, and evaluate it in any state
of the registry, against any value, with any host. Whatever course the
evaluation takes, it can be traced; and however it is traced, nodes are visited
in pre-order, each once at most and none on null, each only after all nodes
before it have accepted, and all of them if there is a match. The first subject
that is refused or declined ends it, and so does the first fault: no
deconstructor and no getter is run after it. -/
theorem Plan.trace_orderly {r : Registry} {s : Resolver} {subject : Subject} {target : TypeId}
    {patterns : List Pattern} {plan : Plan} (hreachable : r.Reachable)
    (horacle : s.oracle = r.select) (hplan : s.resolve subject target patterns = .ok plan)
    (now : Registry) (v : Value) :
    (∀ log outcome, (plan.evaluate now v).Course log outcome →
        ∃ trace, (plan.trace now v).Course trace outcome
          ∧ trace.filterMap Event.exchange? = log)
      ∧ ∀ trace outcome, (plan.trace now v).Course trace outcome → plan.Orderly trace outcome := by
  have hsaturated :=
    Resolver.saturated_of_resolve (Resolver.delivering_of_reachable hreachable horacle) hplan
  refine ⟨fun log outcome hcourse => exists_course_trace hcourse, fun trace outcome hcourse => ?_⟩
  have hproceeds := hsaturated.proceeds hcourse
  have hbegin := hproceeds.isPrefix_visited
  exact {
    preorder := hbegin
    once := plan.pairwise_places.sublist (hbegin.sublist.map _)
    notNull := fun before after place visit htrace => (hproceeds.at_invoked htrace).1
    accepted := fun before after place visit htrace => (hproceeds.at_invoked htrace).2
    complete := by
      rintro b rfl
      exact hproceeds.visited_eq rfl
    last := fun before after e htrace => hproceeds.at_last htrace
    fault := by
      intro before after place question answer fault htrace hfault
      obtain ⟨hafter, hending⟩ := hproceeds.at_fault htrace hfault
      refine ⟨hafter, ?_⟩
      cases outcome with
      | error e => exact congrArg _ (Except.error.inj hending)
      | ok result => cases hending }

/-- An evaluation in which the crate hands out null instead of a box. The box
is refused, and its getter is never run. -/
def emptyCrateTrace : Trace :=
  [ ⟨.invoked [] ⟨crateNode, .record (.nominal 1) []⟩, ()⟩,
    ⟨.called [] (.deconstruct ⟨1⟩ (.record (.nominal 1) []) 2 (.initial [.nominal 0, .int])),
      (⟨[.null, .int 2], rfl⟩, .ok true)⟩,
    ⟨.returned [] (.ok ⟨true, [.null, .int 2]⟩), ()⟩,
    ⟨.refused [0] .null, ()⟩ ]

/-- It goes through the plan in order, and leaves out the second node. -/
theorem trace_orderly_emptyCrate :
    (Resolver.ofRegistry boxes 64).resolve ⟨⟨0⟩, .object, .generated⟩ (.nominal 1)
        [.record (.nominal 0) [.bind ⟨7⟩ none .generated] .generated, .bind ⟨8⟩ none .generated]
          = .ok cratePlan
      ∧ cratePlan.Orderly emptyCrateTrace (.ok none)
      ∧ emptyCrateTrace.visited = [([], crateNode)]
      ∧ cratePlan.places = [([], crateNode), ([0], boxNode)] := by
  have hreachable : boxes.Reachable := ⟨_, rfl⟩
  have hplan : (Resolver.ofRegistry boxes 64).resolve ⟨⟨0⟩, .object, .generated⟩ (.nominal 1)
      [.record (.nominal 0) [.bind ⟨7⟩ none .generated] .generated, .bind ⟨8⟩ none .generated]
        = .ok cratePlan := rfl
  have hcourse : (cratePlan.trace boxes (.record (.nominal 1) [])).Course emptyCrateTrace
      (.ok none) := .ask _ (.ask _ (.ask _ (.ask _ (.done _))))
  obtain ⟨-, horderly⟩ := Plan.trace_orderly hreachable rfl hplan boxes (.record (.nominal 1) [])
  exact ⟨hplan, horderly _ _ hcourse, rfl, rfl⟩

end RecordPatterns
