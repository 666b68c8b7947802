/-
What is written into the slots of a declined subject is never seen.

A deconstructor that declines, or breaks off with a fault, may have written to
its slots before, and the slots come back to the walk along with its answer.
That nobody looks at them is a statement about two hosts at once. Let the two
answer alike, whatever they have been asked before, and differ in nothing but
such slots (`HostCall.Alike`). Then a plan cannot tell them apart: the outcome
is the same under both, and so is every call on them, with its arguments
(`Plan.declined_outputs_unseen`).

Runs are compared as trees first. Two of them are in step if they ask the same
questions and stay in step after any two answers that are alike
(`Dialogue.InStep`). Taking a subject apart is in step with itself only up to
the outputs of a declined subject, and the walk, for which visits are answered
up to just that, is in step with itself without any proviso. Handling the one
by the other (`InStep.handle`) gives the evaluation. Hosts come last. They may
have a memory, which two hosts need not share, so what is compared is their
answers after the same calls, and in-step runs never let the calls differ.
-/
import RecordPatterns.Proofs.Candor

set_option autoImplicit false

namespace RecordPatterns

/-! ## Dialogues in step -/

namespace Dialogue

variable {ε : Type} {Q : Type} {A : Q → Type} {α β γ : Type}

/-- Two dialogues ask the same questions, as long as the answers they are given
are alike, and come to the same failure or to results that are the same in
some sense. -/
inductive InStep (alike : (q : Q) → A q → A q → Prop) (same : α → α → Prop) :
    Dialogue ε A α → Dialogue ε A α → Prop
  | done {a b : α} (h : same a b) : InStep alike same (done a) (done b)
  | fail (failure : ε) : InStep alike same (fail failure) (fail failure)
  | ask {question : Q} {resume resume' : A question → Dialogue ε A α}
      (h : ∀ answer answer', alike question answer answer' →
        InStep alike same (resume answer) (resume' answer')) :
      InStep alike same (ask question resume) (ask question resume')

variable {alike : (q : Q) → A q → A q → Prop} {same : α → α → Prop} {same' : β → β → Prop}

/-- A result or a failure that is already there is in step with itself. -/
theorem inStep_ofExcept (x : Except ε α) :
    InStep alike (· = ·) (ofExcept x : Dialogue ε A α) (ofExcept x) := by
  cases x with
  | ok a => exact .done rfl
  | error e => exact .fail e

/-- A question whose answers are alike only if they are equal. -/
theorem inStep_ask {question : Q} {resume : A question → Dialogue ε A α}
    (heq : ∀ answer answer', alike question answer answer' → answer = answer')
    (h : ∀ answer, InStep alike same (resume answer) (resume answer)) :
    InStep alike same (ask question resume) (ask question resume) := by
  refine .ask fun answer answer' halike => ?_
  rw [heq answer answer' halike]
  exact h answer'

/-- Going on in step after results that are the same. -/
theorem InStep.bind {x y : Dialogue ε A α} {next next' : α → Dialogue ε A β}
    (h : InStep alike same x y)
    (hnext : ∀ a b, same a b → InStep alike same' (next a) (next' b)) :
    InStep alike same' (x >>= next) (y >>= next') := by
  induction h with
  | done hab => exact hnext _ _ hab
  | fail failure => exact .fail failure
  | ask _ ih => exact .ask ih

/-- One dialogue after the other for the items of a list, each in step with
itself. -/
theorem inStep_mapM {f : γ → Dialogue ε A α} (items : List γ)
    (h : ∀ item, InStep alike (· = ·) (f item) (f item)) :
    InStep alike (· = ·) (items.mapM f) (items.mapM f) := by
  induction items with
  | nil => exact .done rfl
  | cons item rest ih =>
    rw [List.mapM_cons]
    refine (h item).bind fun a b hab => ?_
    refine ih.bind fun as bs habs => ?_
    rw [hab, habs]
    exact .done rfl

/-- Dialogues in step stay so when their questions are handled by others, if
these end in answers that are alike. -/
theorem InStep.handle {R : Type} {B : R → Type} {alike' : (q : R) → B q → B q → Prop}
    {answer : (q : Q) → Dialogue ε B (A q)} {x y : Dialogue ε A α} (h : InStep alike same x y)
    (hanswer : ∀ q, InStep alike' (alike q) (answer q) (answer q)) :
    InStep alike' same (x.handle answer) (y.handle answer) := by
  induction h with
  | done hab => exact .done hab
  | fail failure => exact .fail failure
  | @ask question _ _ _ ih => exact (hanswer question).bind ih

end Dialogue

/-! ## Runs that look at no declined slots -/

/-- Two answers to a call that differ at most in the slots of a subject that
was declined, or with which a deconstructor has broken off. -/
def HostCall.Alike : (call : HostCall) → call.Answer → call.Answer → Prop
  | .deconstruct .. => fun (slots, answer) (slots', answer') =>
    answer = answer' ∧ (answer = .ok true → slots = slots')
  | .evaluate _ => (· = ·)
  | .equals .. => (· = ·)
  | .hash .. => (· = ·)
  | .property .. => (· = ·)

/-- Two ways for a subject to come apart that differ at most in the outputs of
a declined one. -/
def Deconstruction.Alike (a b : Deconstruction) : Prop :=
  a.accepted = b.accepted ∧ (a.accepted = true → a.outputs = b.outputs)

namespace Registry

variable {r : Registry}

/-- Reading a member looks at no slots. -/
theorem inStep_read (v : Value) (name : Symbol) :
    Dialogue.InStep HostCall.Alike (· = ·) (r.read v name) (r.read v name) := by
  obtain ⟨w, hread⟩ | ⟨fault, hread, -⟩ | ⟨body, hread⟩ := r.read_cases v name
  · rw [hread]
    exact .done rfl
  · rw [hread]
    exact .fail fault
  · rw [hread]
    exact Dialogue.inStep_ask (fun _ _ halike => halike) Dialogue.inStep_ofExcept

/-- **Taking a subject apart** hands the slots on, and with them all that two
hosts may differ in, but only with the word that the subject was declined. -/
theorem inStep_deconstruct (d : Deconstructor) (v : Value) :
    Dialogue.InStep HostCall.Alike Deconstruction.Alike (r.deconstruct d v)
      (r.deconstruct d v) := by
  rw [deconstruct]
  cases d.origin with
  | synthesized members =>
    refine (Dialogue.inStep_mapM members (inStep_read v)).bind fun outputs outputs' heq => ?_
    exact .done ⟨rfl, fun _ => heq⟩
  | written body =>
    cases body with
    | none => exact .fail _
    | some body =>
      refine .ask ?_
      rintro ⟨slots, answer⟩ ⟨slots', answer'⟩ ⟨heq, hslots⟩
      subst heq
      cases answer with
      | error fault => exact .fail fault
      | ok accepted =>
        refine .done ⟨rfl, fun haccepted => ?_⟩
        rw [hslots (congrArg Except.ok haccepted)]

end Registry

/-! ## The walk -/

namespace Walk

/-- How the answers to visits may differ. -/
abbrev Alike (_ : Visit) : Deconstruction → Deconstruction → Prop := Deconstruction.Alike

variable (types : TypeTable)

/-- **A visit** drops the outputs of a declined subject. So it is enough that
the walk goes on in step from the outputs of accepted ones, which are the
same. -/
theorem inStep_visit (node : Plan.Node) (subject : Value)
    {next : List Value → Walk (Option Bindings)}
    (hnext : ∀ outputs, Dialogue.InStep Alike (· = ·) (next outputs) (next outputs)) :
    Dialogue.InStep Alike (· = ·) (visit types node subject next)
      (visit types node subject next) := by
  rw [visit]
  by_cases hpasses : node.test.passes types subject = true
  · rw [if_pos hpasses]
    refine .ask ?_
    rintro ⟨accepted, outputs⟩ ⟨accepted', outputs'⟩ ⟨hflag, houtputs⟩
    simp only at hflag houtputs ⊢
    rw [← hflag]
    by_cases haccepted : accepted = true
    · rw [if_pos haccepted, if_pos haccepted, houtputs haccepted]
      exact hnext outputs'
    · rw [if_neg haccepted, if_neg haccepted]
      exact .done rfl
  · rw [if_neg hpasses]
    exact .done rfl

mutual

/-- **One argument.** -/
theorem inStep_argument : ∀ (a : Argument) (output : Value),
    Dialogue.InStep Alike (· = ·) (argument types a output) (argument types a output)
  | .bind name type, output => by
    rw [argument]
    exact .done rfl
  | .discard, output => by
    rw [argument]
    exact .done rfl
  | .nested node args, output => by
    rw [argument]
    exact inStep_visit types node output fun outputs => inStep_arguments args outputs

/-- **Several arguments.** What was bound by the first ones is the same on both
sides, and is dropped on both sides if a later one fails. -/
theorem inStep_arguments : ∀ (args : List Argument) (outputs : List Value),
    Dialogue.InStep Alike (· = ·) (arguments types args outputs) (arguments types args outputs)
  | [], outputs => by
    rw [arguments]
    exact .done rfl
  | a :: args, [] => by
    rw [arguments]
    exact .done rfl
  | a :: args, output :: outputs => by
    rw [arguments]
    refine (inStep_argument a output).bind ?_
    rintro first _ rfl
    cases first with
    | none => exact .done rfl
    | some bound =>
      refine (inStep_arguments args outputs).bind ?_
      rintro others _ rfl
      cases others with
      | none => exact .done rfl
      | some more => exact .done rfl

end

end Walk

namespace Plan

/-- Evaluating a plan looks at no declined slots. -/
theorem inStep_evaluate (p : Plan) (r : Registry) (subject : Value) :
    Dialogue.InStep HostCall.Alike (· = ·) (p.evaluate r subject) (p.evaluate r subject) := by
  have hwalk : Dialogue.InStep Walk.Alike (· = ·) (p.walk r.types subject)
      (p.walk r.types subject) :=
    Walk.inStep_visit r.types p.node subject fun outputs =>
      Walk.inStep_arguments r.types p.arguments outputs
  exact hwalk.handle fun visit => Registry.inStep_deconstruct visit.node.deconstructor visit.subject

/-- Nor does evaluating it at its site, where there is one call more. -/
theorem inStep_evaluateSite (p : Plan) (r : Registry) :
    Dialogue.InStep HostCall.Alike (· = ·) (p.evaluateSite r) (p.evaluateSite r) := by
  rw [evaluateSite]
  cases p.node.source with
  | output index => exact .fail _
  | expression e =>
    have hsubject : Dialogue.InStep HostCall.Alike (· = ·) (Run.evaluate e) (Run.evaluate e) :=
      Dialogue.inStep_ask (fun _ _ halike => halike) Dialogue.inStep_ofExcept
    refine hsubject.bind ?_
    rintro subject _ rfl
    exact p.inStep_evaluate r subject

end Plan

/-! ## Hosts with a memory -/

/-- A host that may change its state with every call. -/
abbrev StatefulHost (σ : Type) := (call : HostCall) → StateM σ call.Answer

namespace StatefulHost

variable {σ σ' : Type}

/-- The state of a host after some calls. -/
def after (host : StatefulHost σ) (state : σ) (calls : List HostCall) : σ :=
  calls.foldl (fun state call => (host call state).2) state

/-- One call more at the beginning. -/
theorem after_cons (host : StatefulHost σ) (state : σ) (call : HostCall) (calls : List HostCall) :
    host.after state (call :: calls) = host.after (host call state).2 calls := rfl

/-- One call more at the end. -/
theorem after_concat (host : StatefulHost σ) (state : σ) (calls : List HostCall)
    (call : HostCall) :
    host.after state (calls ++ [call]) = (host call (host.after state calls)).2 := by
  rw [after, List.foldl_append]
  rfl

/-- The host with a list of what it was called for, in order. -/
def logging (host : StatefulHost σ) : StatefulHost (σ × List HostCall) :=
  fun call (state, calls) => ((host call state).1, (host call state).2, calls ++ [call])

/-- Two hosts, each in some state, answer alike from there on: whatever they
are called for, and whatever else they have been called for before. -/
def AnswersAlike (host : StatefulHost σ) (state : σ) (host' : StatefulHost σ') (state' : σ') :
    Prop :=
  ∀ (calls : List HostCall) (call : HostCall),
    call.Alike (host call (host.after state calls)).1 (host' call (host'.after state' calls)).1

end StatefulHost

namespace Run

variable {α : Type} {σ σ' : Type} {host : StatefulHost σ} {host' : StatefulHost σ'} {state : σ}
  {state' : σ'}

/-- What a run comes to, and what it calls on the host for, in order. -/
def transcript (x : Run α) (host : StatefulHost σ) (state : σ) :
    Except Fault α × List HostCall :=
  let (outcome, _, calls) := x.interpret host.logging (state, [])
  (outcome, calls)

/-- Runs in step come to the same outcome under hosts that answer alike, and
call for the same things. The induction is on the runs, after any calls that
both hosts have had. -/
theorem interpret_eq_of_inStep {x y : Run α}
    (h : Dialogue.InStep HostCall.Alike (· = ·) x y)
    (halike : host.AnswersAlike state host' state') : ∀ calls : List HostCall,
      (x.interpret host.logging (host.after state calls, calls)).1
          = (y.interpret host'.logging (host'.after state' calls, calls)).1
        ∧ (x.interpret host.logging (host.after state calls, calls)).2.2
          = (y.interpret host'.logging (host'.after state' calls, calls)).2.2 := by
  induction h with
  | done hab =>
    rw [hab]
    exact fun calls => ⟨rfl, rfl⟩
  | fail failure => exact fun calls => ⟨rfl, rfl⟩
  | @ask call _ _ _ ih =>
    intro calls
    -- both hosts now have had this call as well
    have hnext := ih _ _ (halike calls call) (calls ++ [call])
    rw [StatefulHost.after_concat, StatefulHost.after_concat] at hnext
    exact hnext

/-- Runs in step have the same transcripts. -/
theorem transcript_eq_of_inStep {x y : Run α} (h : Dialogue.InStep HostCall.Alike (· = ·) x y)
    (halike : host.AnswersAlike state host' state') :
    x.transcript host state = y.transcript host' state' := by
  obtain ⟨houtcome, hcalls⟩ := interpret_eq_of_inStep h halike []
  exact Prod.ext houtcome hcalls

end Run

/-- **Declined outputs are unseen.** Two hosts that answer alike, up to what is
in the slots of subjects that are declined or broken off with, are one host to
a plan. Evaluated for any subject, or at its site, it comes to the same match,
the same failure to match or the same fault under both, and calls on both for
the same things in the same order. -/
theorem Plan.declined_outputs_unseen (p : Plan) (r : Registry) {σ σ' : Type}
    {host : StatefulHost σ} {state : σ} {host' : StatefulHost σ'} {state' : σ'}
    (halike : host.AnswersAlike state host' state') :
    (∀ subject, (p.evaluate r subject).transcript host state
        = (p.evaluate r subject).transcript host' state')
      ∧ (p.evaluateSite r).transcript host state = (p.evaluateSite r).transcript host' state' :=
  ⟨fun subject => Run.transcript_eq_of_inStep (p.inStep_evaluate r subject) halike,
    Run.transcript_eq_of_inStep (p.inStep_evaluateSite r) halike⟩

/-! ## Two hosts that differ -/

/-- A host that accepts with one body and declines with all others, but not
without leaving something behind. It counts its calls, and hands the count
out where it accepts. -/
def furtive (left : Value) : StatefulHost Nat
  | .evaluate _ => fun count => (.ok (.int 5), count + 1)
  | .deconstruct body _ slots _ => fun count =>
    let accepts := decide (body = ⟨0⟩)
    let written := if accepts then .int (.ofNat count) else left
    ((⟨.replicate slots written, List.length_replicate⟩, .ok accepts), count + 1)
  | call => fun count => (call.refuse, count + 1)

/-- A plan that binds one output of the first body and hands the other one on
to the second. -/
def furtivePlan : Plan where
  node :=
    { source := .expression ⟨0⟩, static := .object, target := .object,
      deconstructor := ⟨.object, .object, [.int, .object], .written (some ⟨0⟩), .generated⟩,
      test := .nonNull, span := .generated }
  arguments :=
    [.bind ⟨4⟩ .int,
      .nested
        { source := .output 1, static := .object, target := .object,
          deconstructor := ⟨.object, .object, [.object], .written (some ⟨1⟩), .generated⟩,
          test := .nonNull, span := .generated }
        [.bind ⟨5⟩ .object]]

/-- What the host counts is what it was called for. -/
theorem after_furtive (left : Value) (calls : List HostCall) : ∀ count : Nat,
    (furtive left).after count calls = count + calls.length := by
  induction calls with
  | nil => exact fun count => rfl
  | cons call rest ih =>
    intro count
    have hcount : (furtive left call count).2 = count + 1 := by cases call <;> rfl
    rw [StatefulHost.after_cons, hcount, ih, List.length_cons]
    omega

/-- Whatever it leaves behind, it answers alike. -/
theorem answersAlike_furtive (left left' : Value) :
    (furtive left).AnswersAlike 0 (furtive left') 0 := by
  intro calls call
  rw [after_furtive, after_furtive]
  cases call with
  | deconstruct body subject slots initial =>
    refine ⟨rfl, fun haccepts => ?_⟩
    have hbody : body = ⟨0⟩ := by simpa [furtive] using haccepts
    rw [hbody]
    rfl
  | _ => rfl

/-- Two such hosts leave different things behind when they decline. The plan
is evaluated to the end under both, what was bound first is given up, and the
transcripts are one and the same. -/
theorem declined_outputs_unseen_furtive :
    (furtive (.int 7)).AnswersAlike 0 (furtive (.text "secret")) 0
      ∧ (furtive (.int 7) (.deconstruct ⟨1⟩ (.int 1) 1 (.initial [.object])) 2).1
          ≠ (furtive (.text "secret") (.deconstruct ⟨1⟩ (.int 1) 1 (.initial [.object])) 2).1
      ∧ (furtivePlan.evaluateSite .empty).transcript (furtive (.text "secret")) 0
          = (.ok none,
            [ .evaluate ⟨0⟩, .deconstruct ⟨0⟩ (.int 5) 2 (.initial [.int, .object]),
              .deconstruct ⟨1⟩ (.int 1) 1 (.initial [.object]) ])
      ∧ (furtivePlan.evaluateSite .empty).transcript (furtive (.int 7)) 0
          = (furtivePlan.evaluateSite .empty).transcript (furtive (.text "secret")) 0 := by
  have halike := answersAlike_furtive (.int 7) (.text "secret")
  refine ⟨halike, by decide, rfl, ?_⟩
  exact (furtivePlan.declined_outputs_unseen .empty halike).2

end RecordPatterns
