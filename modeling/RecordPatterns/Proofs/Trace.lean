/-
What happens in an evaluation, and at which place of the plan.

The host sees the calls that are made on it, and `Plan.observe` adds the visits
to them. Neither tells which node of the plan a visit belongs to, since two
nodes may agree in every part and still stand at different places. Nor does
either show why an evaluation does not go on: a test that fails and a
deconstructor that declines leave no mark. `Plan.trace` is once more the same
evaluation, now with all of this announced as it happens. A node is told by its
place, the argument positions that lead to it from the root. At each node it is
either announced that the subject is refused, or that the deconstructor is
about to be run, then each call that it makes, and then what it came to, be it
a fault.

Announcements change nothing (`Plan.forget_trace`), so every course of an
evaluation is a course of the traced one with the announcements left out
(`Plan.exists_course_trace`), whatever host there is. What one node contributes
to a course is said once, in `Traced.course_visit`: a refusal, or a block of
events that begins with the deconstructor being run and ends with its result.
-/
import RecordPatterns.Matching
import RecordPatterns.Proofs.Course

set_option autoImplicit false

namespace RecordPatterns

/-! ## Events -/

/-- Something that happens in the course of an evaluation, at a node of the
plan that is given by the argument positions that lead to it. -/
inductive Event where
  /-- The subject of a node does not pass the node's test. -/
  | refused (place : List Nat) (subject : Value)
  /-- The deconstructor of a node is about to be run on a subject. -/
  | invoked (place : List Nat) (visit : Visit)
  /-- The deconstructor of a node calls on the host, or has a getter run. -/
  | called (place : List Nat) (question : HostCall)
  /-- The deconstructor of a node has come to its end. -/
  | returned (place : List Nat) (result : Except Fault Deconstruction)

namespace Event

/-- The host answers its calls. Everything else is only announced. -/
abbrev Answer : Event → Type
  | called _ question => question.Answer
  | _ => Unit

/-- What is left of an event for the host to see. -/
def forget : (e : Event) → Run e.Answer
  | called _ question => .inquire question
  | refused .. => .done ()
  | invoked .. => .done ()
  | returned .. => .done ()

/-- What the host sees of one exchange. -/
def exchange? : Dialogue.Exchange Answer → Option (Dialogue.Exchange HostCall.Answer)
  | ⟨called _ question, answer⟩ => some ⟨question, answer⟩
  | _ => none

/-- An exchange with the host, made for the node at a place. -/
def ofCall (place : List Nat) : Dialogue.Exchange HostCall.Answer → Dialogue.Exchange Answer
  | ⟨question, answer⟩ => ⟨called place question, answer⟩

end Event

/-- The events of one course, in order, with the answers of the host. -/
abbrev Trace := List (Dialogue.Exchange Event.Answer)

/-- What happens at a node whose deconstructor is run: that it is run, the
calls that it makes, and what it comes to. -/
def Trace.block (place : List Nat) (visit : Visit)
    (calls : List (Dialogue.Exchange HostCall.Answer)) (result : Except Fault Deconstruction) :
    Trace :=
  ⟨.invoked place visit, ()⟩ :: (calls.map (Event.ofCall place) ++ [⟨.returned place result, ()⟩])

/-! ## The traced evaluation -/

/-- A computation that announces events as they happen. -/
abbrev Traced := Dialogue Fault Event.Answer

namespace Traced

/-- Goes on with the outputs of a deconstructor, unless it has declined or come
to a fault. -/
def goOn (next : List Value → Traced (Option Bindings)) :
    Except Fault Deconstruction → Traced (Option Bindings)
  | .ok result => if result.accepted then next result.outputs else .done none
  | .error fault => .fail fault

/-- Visits the node at a place. -/
def visit (r : Registry) (place : List Nat) (node : Plan.Node) (subject : Value)
    (next : List Value → Traced (Option Bindings)) : Traced (Option Bindings) :=
  if node.test.passes r.types subject then
    .ask (.invoked place ⟨node, subject⟩) fun _ => do
      let result ← ((r.deconstruct node.deconstructor subject).handle fun question =>
        .inquire (Q := Event) (.called place question)).attempt
      .ask (.returned place result) fun _ => goOn next result
  else .ask (.refused place subject) fun _ => .done none

mutual

/-- Matches the argument at a position of the node at a place with the output
that it receives. -/
def argument (r : Registry) (place : List Nat) (index : Nat) :
    Argument → Value → Traced (Option Bindings)
  | .bind name _, output => .done (some [(name, output)])
  | .discard, _ => .done (some [])
  | .nested node args, output => visit r (place ++ [index]) node output fun outputs =>
    arguments r (place ++ [index]) 0 args outputs

/-- Matches the arguments from a position on with outputs one by one, from left
to right, as long as there are both. -/
def arguments (r : Registry) (place : List Nat) (index : Nat) :
    List Argument → List Value → Traced (Option Bindings)
  | [], _ => .done (some [])
  | arg :: args, outputs =>
    match outputs with
    | [] => .done (some [])
    | output :: outputs => do
      match ← argument r place index arg output with
      | none => return none
      | some first =>
        match ← arguments r place (index + 1) args outputs with
        | none => return none
        | some others => return some (first ++ others)

end

end Traced

/-- Matches a subject against a plan, everything that happens being
announced. The root is at the empty place. -/
def Plan.trace (p : Plan) (r : Registry) (subject : Value) : Traced (Option Bindings) :=
  Traced.visit r [] p.node subject (Traced.arguments r [] 0 p.arguments)

/-! ## Announcements change nothing -/

namespace Traced

variable {r : Registry}

/-- Of a run whose calls are announced, the run is what is left. -/
theorem forget_attempt {α : Type} (place : List Nat) (x : Run α) :
    (x.handle fun question => .inquire (Q := Event) (.called place question)).attempt.handle
      Event.forget = x.attempt := by
  induction x with
  | done result => rfl
  | fail fault => rfl
  | ask question resume ih =>
    have hrest : ∀ answer : question.Answer,
        ((resume answer).handle fun question =>
          Dialogue.inquire (Q := Event) (.called place question)).attempt.handle Event.forget
            = (resume answer).attempt := ih
    exact congrArg (Dialogue.ask question) (funext hrest)

/-- A visit without its announcements is a visit, if the same holds of what
follows it. -/
theorem forget_visit (place : List Nat) (node : Plan.Node) (subject : Value)
    {next : List Value → Traced (Option Bindings)} {walk : List Value → Walk (Option Bindings)}
    (hnext : ∀ outputs, (next outputs).handle Event.forget = (walk outputs).handle r.answer) :
    (visit r place node subject next).handle Event.forget
      = (Walk.visit r.types node subject walk).handle r.answer := by
  rw [visit, Walk.visit]
  by_cases hpasses : node.test.passes r.types subject = true
  · rw [if_pos hpasses, if_pos hpasses]
    -- both sides run the deconstructor; one of them has caught its fault and raises it again
    rw [Dialogue.handle, Event.forget, Dialogue.done_bind, Dialogue.handle_bind, forget_attempt,
      Dialogue.attempt_bind (fun fault => rfl), Dialogue.handle]
    refine congrArg _ (funext fun result => ?_)
    rw [Dialogue.handle, Event.forget, Dialogue.done_bind, goOn]
    by_cases haccepted : result.accepted = true
    · rw [if_pos haccepted, if_pos haccepted]
      exact hnext result.outputs
    · rw [if_neg haccepted, if_neg haccepted]
      rfl
  · rw [if_neg hpasses, if_neg hpasses]
    rfl

mutual

/-- An argument without the announcements. -/
theorem forget_argument : ∀ (a : Argument) (place : List Nat) (index : Nat) (output : Value),
    (argument r place index a output).handle Event.forget
      = (Walk.argument r.types a output).handle r.answer
  | .bind name type, place, index, output => by
    rw [argument, Walk.argument]
    rfl
  | .discard, place, index, output => by
    rw [argument, Walk.argument]
    rfl
  | .nested node args, place, index, output => by
    rw [argument, Walk.argument]
    exact forget_visit _ node output (forget_arguments args (place ++ [index]) 0)

/-- Several arguments without the announcements. -/
theorem forget_arguments : ∀ (args : List Argument) (place : List Nat) (index : Nat)
    (outputs : List Value), (arguments r place index args outputs).handle Event.forget
      = (Walk.arguments r.types args outputs).handle r.answer
  | [], place, index, outputs => by
    rw [arguments, Walk.arguments]
    rfl
  | a :: args, place, index, outputs => by
    cases outputs with
    | nil =>
      rw [arguments, Walk.arguments]
      rfl
    | cons output outputs =>
      rw [arguments, Walk.arguments, Dialogue.handle_bind, Dialogue.handle_bind,
        forget_argument a place index output]
      refine congrArg _ (funext fun first => ?_)
      cases first with
      | none => rfl
      | some b =>
        simp only
        rw [Dialogue.handle_bind, Dialogue.handle_bind,
          forget_arguments args place (index + 1) outputs]
        refine congrArg _ (funext fun others => ?_)
        cases others <;> rfl

end

end Traced

/-- **Tracing changes nothing.** A traced evaluation without its announcements
is the evaluation. -/
theorem Plan.forget_trace (p : Plan) (r : Registry) (subject : Value) :
    (p.trace r subject).handle Event.forget = p.evaluate r subject :=
  Traced.forget_visit [] p.node subject (Traced.forget_arguments p.arguments [] 0)

/-- **Every course of an evaluation can be traced**, with the same calls on the
host. -/
theorem Plan.exists_course_trace {p : Plan} {r : Registry} {subject : Value}
    {log : List (Dialogue.Exchange HostCall.Answer)} {outcome : Except Fault (Option Bindings)}
    (h : (p.evaluate r subject).Course log outcome) :
    ∃ trace, (p.trace r subject).Course trace outcome ∧ trace.filterMap Event.exchange? = log := by
  rw [← p.forget_trace] at h
  refine Dialogue.Course.of_handle (fun e log outcome he => ?_) h
  cases e with
  | called place question => exact Dialogue.course_inquire he
  | _ =>
    cases he
    exact ⟨(), rfl, rfl⟩

/-! ## Courses of the traced evaluation -/

namespace Traced

variable {r : Registry} {place : List Nat} {trace : Trace}

/-- **What one node contributes to a course.** Either its subject is refused,
and that is all there is; or the deconstructor takes a course of its own, whose
calls stand between its being run and its result, and after that the course
goes on as the result demands. -/
theorem course_visit {node : Plan.Node} {subject : Value}
    {next : List Value → Traced (Option Bindings)} {outcome : Except Fault (Option Bindings)}
    (h : (visit r place node subject next).Course trace outcome) :
    (node.test.passes r.types subject = false ∧ trace = [⟨.refused place subject, ()⟩]
        ∧ outcome = .ok none)
      ∨ ∃ calls result rest, node.test.passes r.types subject = true
        ∧ (r.deconstruct node.deconstructor subject).Course calls result
        ∧ trace = Trace.block place ⟨node, subject⟩ calls result ++ rest
        ∧ (goOn next result).Course rest outcome := by
  rw [visit] at h
  by_cases hpasses : node.test.passes r.types subject = true
  · rw [if_pos hpasses, Dialogue.course_ask_iff] at h
    obtain ⟨-, afterwards, h, rfl⟩ := h
    obtain ⟨result, first, others, hresult, hothers, rfl⟩ | ⟨fault, hfault, -⟩ :=
      Dialogue.course_bind_iff.mp h
    · obtain ⟨_, ⟨⟩, hcourse⟩ := Dialogue.course_attempt hresult
      have hcall : ∀ question log outcome,
          (Dialogue.inquire (Q := Event) (.called place question) :
            Traced question.Answer).Course log outcome →
          ∃ a, outcome = .ok a ∧ log = ((some ∘ Event.ofCall place) ⟨question, a⟩).toList :=
        fun _ _ _ hq => Dialogue.course_inquire hq
      obtain ⟨calls, hcalls, rfl⟩ := Dialogue.Course.of_handle hcall hcourse
      obtain ⟨-, rest, hrest, rfl⟩ := Dialogue.course_ask_iff.mp hothers
      refine .inr ⟨calls, result, rest, hpasses, hcalls, ?_, hrest⟩
      rw [List.filterMap_eq_map, Trace.block, List.cons_append, List.append_assoc]
      rfl
    · -- an attempt does not fail
      obtain ⟨_, ⟨⟩, -⟩ := Dialogue.course_attempt hfault
  · rw [if_neg hpasses, Dialogue.course_ask_iff] at h
    obtain ⟨-, _, ⟨⟩, rfl⟩ := h
    exact .inl ⟨Bool.not_eq_true _ ▸ hpasses, rfl, rfl⟩

/-- A course of several arguments, the first one and the others: either the
first one ends it, by not matching or by a fault, or all its variables are
bound and the others take their course. -/
theorem course_arguments_cons {index : Nat} {a : Argument} {args : List Argument} {output : Value}
    {outputs : List Value} {outcome : Except Fault (Option Bindings)}
    (h : (arguments r place index (a :: args) (output :: outputs)).Course trace outcome) :
    ((argument r place index a output).Course trace outcome ∧ ∀ b, outcome ≠ .ok (some b))
      ∨ ∃ b first rest result, (argument r place index a output).Course first (.ok (some b))
        ∧ (arguments r place (index + 1) args outputs).Course rest result ∧ trace = first ++ rest
        ∧ outcome = result.map (Option.map (b ++ ·)) := by
  rw [arguments] at h
  obtain ⟨result, first, rest, hfirst, hrest, rfl⟩ | ⟨fault, hfault, rfl⟩ :=
    Dialogue.course_bind_iff.mp h
  · cases result with
    | none =>
      cases hrest
      rw [List.append_nil]
      exact .inl ⟨hfirst, by simp⟩
    | some b =>
      obtain ⟨result, others, last, hothers, hlast, rfl⟩ | ⟨fault, hfault, rfl⟩ :=
        Dialogue.course_bind_iff.mp hrest
      · refine .inr ⟨b, first, others, _, hfirst, hothers, ?_⟩
        cases result <;> cases hlast <;> exact ⟨by rw [List.append_nil], rfl⟩
      · exact .inr ⟨b, first, rest, _, hfirst, hfault, rfl, rfl⟩
  · exact .inl ⟨hfault, by simp⟩

/-- If several arguments match, the first one does and the others do, and the
variables of the first come first. -/
theorem course_arguments_cons_of_match {index : Nat} {a : Argument} {args : List Argument}
    {output : Value} {outputs : List Value} {b : Bindings}
    (h : (arguments r place index (a :: args) (output :: outputs)).Course trace (.ok (some b))) :
    ∃ b₁ b₂ first rest, (argument r place index a output).Course first (.ok (some b₁))
      ∧ (arguments r place (index + 1) args outputs).Course rest (.ok (some b₂))
      ∧ trace = first ++ rest ∧ b = b₁ ++ b₂ := by
  obtain ⟨-, hnot⟩ | ⟨b₁, first, rest, result, hfirst, hrest, htrace, hboth⟩ :=
    course_arguments_cons h
  · exact absurd rfl (hnot b)
  · cases result with
    | error fault => cases hboth
    | ok found =>
      cases found with
      | none => cases hboth
      | some b₂ =>
        have hb : b = b₁ ++ b₂ := Option.some.inj (Except.ok.inj hboth)
        exact ⟨b₁, b₂, first, rest, hfirst, hrest, htrace, hb⟩

end Traced

end RecordPatterns
