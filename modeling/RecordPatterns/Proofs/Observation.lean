/-
Watching an evaluation.

Evaluating a plan is a dialogue with the host, and which nodes were visited
does not show in it: a synthesized deconstructor calls on nobody. The walk, on
the other hand, asks for visits and knows no host. To speak of both at once,
`Plan.observe` is the same evaluation with every visit announced before it is
made, and every call on the host labelled with the visit that it is made for.
Announcements are answered by nothing at all, so leaving them out, and the
labels off, gives the evaluation back (`forget_observe`). So every course that
an evaluation takes is one of the observed evaluation with the announcements
left out (`exists_course_observe`), and nothing is lost by speaking of the
latter only.
-/
import RecordPatterns.Matching
import RecordPatterns.Proofs.Course

set_option autoImplicit false

namespace RecordPatterns

/-- What can be seen of an evaluation while it goes on. -/
inductive Observation where
  /-- The deconstructor of a node is about to be run on a subject. -/
  | visit (visit : Visit)
  /-- The host is called, on behalf of a visit. -/
  | call (visit : Visit) (question : HostCall)

namespace Observation

/-- A visit is only announced; a call is answered by the host. -/
abbrev Answer : Observation → Type
  | visit _ => Unit
  | call _ question => question.Answer

/-- What is left of an observation for the host to see. -/
def forget : (o : Observation) → Run o.Answer
  | visit _ => .done ()
  | call _ question => .inquire question

/-- What the host sees of one exchange. -/
def exchange? : Dialogue.Exchange Answer → Option (Dialogue.Exchange HostCall.Answer)
  | ⟨.visit _, _⟩ => none
  | ⟨.call _ question, answer⟩ => some ⟨question, answer⟩

/-- A course of what is left for the host is a course of the whole with the
announcements left out. -/
theorem exists_course_of_forget {α : Type} {x : Dialogue Fault Answer α} :
    ∀ {log : List (Dialogue.Exchange HostCall.Answer)} {outcome : Except Fault α},
      (x.handle forget).Course log outcome →
        ∃ seen, x.Course seen outcome ∧ seen.filterMap exchange? = log := by
  intro log outcome h
  refine Dialogue.Course.of_handle (fun o log outcome ho => ?_) h
  cases o with
  | visit visit =>
    -- the host does not see it, so the log stays as it is
    cases ho
    exact ⟨(), rfl, rfl⟩
  | call visit question => exact Dialogue.course_inquire ho

end Observation

/-- Makes one visit, announcing it first. -/
def Registry.observeVisit (r : Registry) (visit : Visit) :
    Dialogue Fault Observation.Answer Deconstruction :=
  .ask (.visit visit) fun _ =>
    (r.answer visit).handle fun question =>
      .inquire (Q := Observation) (.call visit question)

/-- Evaluates a plan with everything announced. -/
def Plan.observe (p : Plan) (r : Registry) (subject : Value) :
    Dialogue Fault Observation.Answer (Option Bindings) :=
  (p.walk r.types subject).handle r.observeVisit

/-- A visit of which nothing is announced is a visit. -/
theorem Registry.forget_observeVisit (r : Registry) (visit : Visit) :
    (r.observeVisit visit).handle Observation.forget = r.answer visit := by
  calc (r.observeVisit visit).handle Observation.forget
      = ((r.answer visit).handle fun question =>
          Dialogue.inquire (Q := Observation) (.call visit question)).handle
            Observation.forget := rfl
    _ = (r.answer visit).handle Dialogue.inquire := by
        rw [Dialogue.handle_handle]
        exact Dialogue.handle_congr (fun question => Dialogue.bind_done _) _
    _ = r.answer visit := Dialogue.handle_inquire _

/-- **Watching changes nothing.** An observed evaluation of which nothing is
announced is the evaluation. -/
theorem Plan.forget_observe (p : Plan) (r : Registry) (subject : Value) :
    (p.observe r subject).handle Observation.forget = p.evaluate r subject := by
  rw [observe, Dialogue.handle_handle, evaluate]
  exact Dialogue.handle_congr r.forget_observeVisit _

/-- **Every course of an evaluation can be watched.** It is a course of the
observed evaluation, in which the host is called in the same way. -/
theorem Plan.exists_course_observe {p : Plan} {r : Registry} {subject : Value}
    {log : List (Dialogue.Exchange HostCall.Answer)} {outcome : Except Fault (Option Bindings)}
    (h : (p.evaluate r subject).Course log outcome) :
    ∃ seen, (p.observe r subject).Course seen outcome
      ∧ seen.filterMap Observation.exchange? = log := by
  rw [← p.forget_observe] at h
  exact Observation.exists_course_of_forget h

/-- What holds along an observed evaluation, from what holds along the walk
and along each visit that the walk may ask for. The walk itself never fails. -/
theorem Plan.along_observe {p : Plan} {r : Registry} {subject : Value}
    {allowed : (o : Observation) → o.Answer → Prop} {asked : Observation → Prop}
    {delivered : Visit → Deconstruction → Prop} {visited : Visit → Prop}
    {result : Option Bindings → Prop} {failure : Fault → Prop}
    (hwalk : (p.walk r.types subject).Along delivered visited result fun _ => False)
    (hvisit : ∀ visit, visited visit → asked (.visit visit)
      ∧ (r.answer visit).Along
          (fun question answer => allowed (.call visit question) answer)
          (fun question => asked (.call visit question)) (delivered visit) failure) :
    (p.observe r subject).Along allowed asked result failure := by
  refine hwalk.handle (fun visit hvisited => ?_) fun _ he => he.elim
  obtain ⟨hasked, halong⟩ := hvisit visit hvisited
  refine ⟨hasked, fun _ _ => halong.handle (fun question hquestion => ?_) fun _ he => he⟩
  exact ⟨hquestion, fun answer hanswer => hanswer⟩

end RecordPatterns
