/-
What a dialogue does, whoever answers.

A dialogue is a tree, and one conversation is one path through it. `Course`
says so: it relates a dialogue to what was asked and answered, in order, and
to how it ended. What happens between a dialogue and a host is a course of it,
whatever state the host keeps (`course_exchanges`), so a statement about all
courses is a statement about all hosts, and a statement about the courses whose
answers have some property is one about the hosts that have it.

Courses are what theorems speak of, but not what they are proved by. For that
there is `Along`: a dialogue asks, fails and ends in certain ways only, as long
as the answers are allowed ones. It is a predicate on the tree and computes
with it: along a sequence it is a matter of the two parts (`along_bind`), and
if one dialogue is handled by others, of the outer one with those answers
allowed that the inner ones can end in (`Along.handle`). `Along.course` is
where the two meet.
-/
import Mathlib.Data.List.Forall2
import RecordPatterns.Dialogue

set_option autoImplicit false

namespace RecordPatterns.Dialogue

variable {ε : Type} {Q : Type} {A : Q → Type} {α β γ : Type}

/-! ## Courses -/

/-- A question and the answer it was given. -/
structure Exchange {Q : Type} (A : Q → Type) where
  question : Q
  answer : A question

/-- One conversation from beginning to end: what was asked and answered, and
what it came to. -/
inductive Course : Dialogue ε A α → List (Exchange A) → Except ε α → Prop
  | done (result : α) : Course (done result) [] (.ok result)
  | fail (failure : ε) : Course (fail failure) [] (.error failure)
  | ask {question : Q} {resume : A question → Dialogue ε A α} (answer : A question)
      {log : List (Exchange A)} {outcome : Except ε α} (rest : Course (resume answer) log outcome) :
      Course (ask question resume) (⟨question, answer⟩ :: log) outcome

/-- What a host is asked and what it answers, in order, each answer given in the
state that the one before has left the host in. -/
def exchanges {σ : Type} (host : (q : Q) → StateM σ (A q)) :
    Dialogue ε A α → σ → List (Exchange A)
  | done _, _ => []
  | fail _, _ => []
  | ask question resume, state =>
    let (answer, state) := host question state
    ⟨question, answer⟩ :: exchanges host (resume answer) state

/-- **Every host takes a course**, also one that keeps a state of its own: that
of its exchanges. It ends as the host's run does. -/
theorem course_exchanges {σ : Type} (host : (q : Q) → StateM σ (A q)) (x : Dialogue ε A α) :
    ∀ state : σ, x.Course (x.exchanges host state) (x.interpret host state).1 := by
  induction x with
  | done result => exact fun _ => .done result
  | fail failure => exact fun _ => .fail failure
  | ask question resume ih =>
    -- the host goes on in the state that its answer has left it in
    exact fun state => .ask _ (ih (host question state).1 (host question state).2)

/-! ## Courses of dialogues that are put together -/

/-- A course of a dialogue that asks: an answer, and a course of what the
dialogue goes on with. -/
theorem course_ask_iff {question : Q} {resume : A question → Dialogue ε A α}
    {log : List (Exchange A)} {outcome : Except ε α} :
    (ask question resume).Course log outcome ↔
      ∃ answer rest, (resume answer).Course rest outcome ∧ log = ⟨question, answer⟩ :: rest := by
  constructor
  · rintro (_ | _ | ⟨answer, rest⟩)
    exact ⟨answer, _, rest, rfl⟩
  · rintro ⟨answer, rest, hrest, rfl⟩
    exact .ask answer hrest

/-- The courses of a sequence: those of the first dialogue that come to a
result, continued by one of the second, and those that end in a failure. -/
theorem course_bind_iff {x : Dialogue ε A β} {next : β → Dialogue ε A α} {outcome : Except ε α} :
    ∀ {log : List (Exchange A)}, (x >>= next).Course log outcome ↔
      (∃ b first others, x.Course first (.ok b) ∧ (next b).Course others outcome
        ∧ log = first ++ others)
      ∨ ∃ failure, x.Course log (.error failure) ∧ outcome = .error failure := by
  induction x with
  | done b =>
    intro log
    rw [done_bind]
    constructor
    · intro h
      exact .inl ⟨b, [], log, .done b, h, rfl⟩
    · rintro (⟨_, _, _, ⟨⟩, h, rfl⟩ | ⟨_, ⟨⟩, _⟩)
      exact h
  | fail failure =>
    intro log
    rw [fail_bind]
    constructor
    · rintro ⟨⟩
      exact .inr ⟨failure, .fail failure, rfl⟩
    · rintro (⟨_, _, _, ⟨⟩, _, _⟩ | ⟨_, ⟨⟩, rfl⟩)
      exact .fail failure
  | ask question resume ih =>
    intro log
    -- the question belongs to the first dialogue, whatever comes after it
    simp only [ask_bind, course_ask_iff, ih]
    constructor
    · rintro ⟨answer, rest, ⟨b, first, others, hfirst, hothers, rfl⟩ | ⟨failure, hrest, rfl⟩, rfl⟩
      · exact .inl ⟨b, _, others, ⟨answer, first, hfirst, rfl⟩, hothers, rfl⟩
      · exact .inr ⟨failure, ⟨answer, rest, hrest, rfl⟩, rfl⟩
    · rintro (⟨b, _, others, ⟨answer, first, hfirst, rfl⟩, hothers, rfl⟩
        | ⟨failure, ⟨answer, rest, hrest, rfl⟩, rfl⟩)
      · exact ⟨answer, _, .inl ⟨b, first, others, hfirst, hothers, rfl⟩, rfl⟩
      · exact ⟨answer, rest, .inr ⟨failure, hrest, rfl⟩, rfl⟩

/-- A course of a dialogue that is handled by others comes from a course of
that dialogue, if the others never fail and what they ask for a question and
its answer is known: at most one exchange. -/
theorem Course.of_handle {R : Type} {B : R → Type} {answer : (q : Q) → Dialogue ε B (A q)}
    {inner? : Exchange A → Option (Exchange B)}
    (hinner : ∀ question log outcome, (answer question).Course log outcome →
      ∃ a, outcome = .ok a ∧ log = (inner? ⟨question, a⟩).toList)
    {x : Dialogue ε A α} {outcome : Except ε α} :
    ∀ {log : List (Exchange B)}, (x.handle answer).Course log outcome →
      ∃ seen, x.Course seen outcome ∧ seen.filterMap inner? = log := by
  induction x with
  | done result =>
    rintro log ⟨⟩
    exact ⟨[], .done result, rfl⟩
  | fail failure =>
    rintro log ⟨⟩
    exact ⟨[], .fail failure, rfl⟩
  | ask question resume ih =>
    intro log h
    rw [handle] at h
    obtain ⟨a, first, others, hfirst, hothers, rfl⟩ | ⟨failure, hfailure, -⟩ :=
      course_bind_iff.mp h
    · obtain ⟨_, ⟨⟩, rfl⟩ := hinner question first _ hfirst
      obtain ⟨seen, hseen, rfl⟩ := ih a hothers
      refine ⟨⟨question, a⟩ :: seen, .ask a hseen, ?_⟩
      rw [List.filterMap_cons]
      cases inner? ⟨question, a⟩ <;> rfl
    · obtain ⟨_, ⟨⟩, _⟩ := hinner question log _ hfailure

/-- A question that is passed on as it is has one exchange, with whatever
answer it is given. -/
theorem course_inquire {question : Q} {log : List (Exchange A)} {outcome : Except ε (A question)}
    (h : (inquire question : Dialogue ε A (A question)).Course log outcome) :
    ∃ a, outcome = .ok a ∧ log = [⟨question, a⟩] := by
  obtain ⟨answer, _, ⟨⟩, rfl⟩ := course_ask_iff.mp h
  exact ⟨answer, rfl, rfl⟩

/-! ## Failures as results -/

/-- The same dialogue with its failure, if it comes to one, as a result. -/
def attempt : Dialogue ε A α → Dialogue ε A (Except ε α)
  | done result => done (.ok result)
  | fail failure => done (.error failure)
  | ask question resume => ask question fun answer => (resume answer).attempt

/-- An attempt takes the same courses and always comes to a result. -/
theorem course_attempt {x : Dialogue ε A α} {outcome : Except ε (Except ε α)} :
    ∀ {log : List (Exchange A)}, x.attempt.Course log outcome →
      ∃ result, outcome = .ok result ∧ x.Course log result := by
  induction x with
  | done result =>
    rintro log ⟨⟩
    exact ⟨_, rfl, .done result⟩
  | fail failure =>
    rintro log ⟨⟩
    exact ⟨_, rfl, .fail failure⟩
  | ask question resume ih =>
    intro log h
    obtain ⟨answer, rest, hrest, rfl⟩ := course_ask_iff.mp h
    obtain ⟨result, rfl, hresult⟩ := ih answer hrest
    exact ⟨result, rfl, .ask answer hresult⟩

/-- Whoever fails with the failures of an attempt might as well not have made
one. -/
theorem attempt_bind {x : Dialogue ε A β} {next : Except ε β → Dialogue ε A α}
    (hnext : ∀ failure, next (.error failure) = fail failure) :
    x.attempt >>= next = x >>= fun b => next (.ok b) := by
  induction x with
  | done b => rfl
  | fail failure => exact hnext failure
  | ask question resume ih => exact congrArg (ask question) (funext ih)

/-! ## What holds along every course -/

/-- However the questions are answered, as long as each answer is an allowed
one: only certain questions are asked, and the end is a certain kind of result
or a certain kind of failure. -/
def Along (allowed : (q : Q) → A q → Prop) (asked : Q → Prop) (result : α → Prop)
    (failure : ε → Prop) : Dialogue ε A α → Prop
  | done a => result a
  | fail e => failure e
  | ask question resume => asked question
    ∧ ∀ answer, allowed question answer → Along allowed asked result failure (resume answer)

variable {allowed : (q : Q) → A q → Prop} {asked : Q → Prop} {result : α → Prop}
  {failure : ε → Prop}

/-- What holds along all courses holds along each one whose answers are
allowed. -/
theorem Along.course {x : Dialogue ε A α} {log : List (Exchange A)} {outcome : Except ε α}
    (h : x.Along allowed asked result failure) (hx : Course x log outcome)
    (hlog : ∀ e ∈ log, allowed e.question e.answer) :
    (∀ e ∈ log, asked e.question) ∧ (∀ a, outcome = .ok a → result a)
      ∧ ∀ e, outcome = .error e → failure e := by
  induction hx with
  | done a => exact ⟨by simp, fun _ h' => by cases h'; exact h, by simp⟩
  | fail e => exact ⟨by simp, by simp, fun _ h' => by cases h'; exact h⟩
  | ask answer rest ih =>
    obtain ⟨hallowed, hrest⟩ := List.forall_mem_cons.mp hlog
    obtain ⟨hasked, hends⟩ := ih (h.2 answer hallowed) hrest
    exact ⟨List.forall_mem_cons.mpr ⟨h.1, hasked⟩, hends⟩

/-- Where no question may be asked and no failure may occur, there is nothing
left but a result. -/
theorem Along.eq_done {x : Dialogue ε A α}
    (h : x.Along allowed (fun _ => False) result fun _ => False) :
    ∃ a, x = done a ∧ result a := by
  cases x with
  | done a => exact ⟨a, rfl, h⟩
  | fail e => exact h.elim
  | ask question resume => exact h.1.elim

/-- Asking for less, and expecting less of the ends. -/
theorem Along.mono {result' : α → Prop} {failure' : ε → Prop} {x : Dialogue ε A α}
    (h : x.Along allowed asked result failure) (hresult : ∀ a, result a → result' a)
    (hfailure : ∀ e, failure e → failure' e) : x.Along allowed asked result' failure' := by
  induction x with
  | done a => exact hresult a h
  | fail e => exact hfailure e h
  | ask question resume ih => exact ⟨h.1, fun answer hans => ih answer (h.2 answer hans)⟩

/-- Along a sequence: the first dialogue has to end in results from which the
second goes on as wanted. -/
theorem along_bind {x : Dialogue ε A β} {next : β → Dialogue ε A α} :
    (x >>= next).Along allowed asked result failure
      ↔ x.Along allowed asked (fun b => (next b).Along allowed asked result failure) failure := by
  induction x with
  | done b => rfl
  | fail e => rfl
  | ask question resume ih =>
    simp only [ask_bind, Along]
    exact and_congr_right fun _ => forall_congr' fun answer => imp_congr_right fun _ => ih answer

/-- A result or a failure that is already there. -/
theorem along_ofExcept {x : Except ε α} :
    (ofExcept x : Dialogue ε A α).Along allowed asked result failure
      ↔ (∀ a, x = .ok a → result a) ∧ ∀ e, x = .error e → failure e := by
  cases x with
  | ok a => simp [ofExcept, Along]
  | error e => simp [ofExcept, Along]

/-- A dialogue that is handled by others: the others may end only in answers
that are allowed in the first, and may fail only where the whole may. -/
theorem Along.handle {R : Type} {B : R → Type} {allowed' : (q : R) → B q → Prop}
    {asked' : R → Prop} {failure' : ε → Prop} {answer : (q : Q) → Dialogue ε B (A q)}
    {x : Dialogue ε A α} (h : x.Along allowed asked result failure)
    (hanswer : ∀ q, asked q → (answer q).Along allowed' asked' (allowed q) failure')
    (hfailure : ∀ e, failure e → failure' e) :
    (x.handle answer).Along allowed' asked' result failure' := by
  induction x with
  | done a => exact h
  | fail e => exact hfailure e h
  | ask question resume ih =>
    rw [Dialogue.handle, along_bind]
    -- the inner dialogue can only end in an answer that is allowed outside
    exact (hanswer question h.1).mono (fun a ha => ih a (h.2 a ha)) fun _ he => he

/-- One dialogue after the other for the items of a list, each ending as
wanted for its own item. -/
theorem along_mapM {R : γ → β → Prop} {f : γ → Dialogue ε A β} (items : List γ)
    (h : ∀ item ∈ items, (f item).Along allowed asked (R item) failure) :
    (items.mapM f).Along allowed asked (List.Forall₂ R items) failure := by
  induction items with
  | nil => exact .nil
  | cons item rest ih =>
    obtain ⟨hitem, hrest⟩ := List.forall_mem_cons.mp h
    rw [List.mapM_cons, along_bind]
    refine hitem.mono (fun b hb => ?_) fun _ he => he
    rw [along_bind]
    exact (ih hrest).mono (fun bs hbs => .cons hb hbs) fun _ he => he

/-- The other way round: where each item has a course to a given result, all
items together have one to the list of results, and whatever can be said of
each exchange in the parts can be said of each in the whole. -/
theorem exists_course_mapM {f : γ → Dialogue ε A β} {good : Exchange A → Prop} {items : List γ}
    {results : List β}
    (h : List.Forall₂ (fun item b => ∃ log, (f item).Course log (.ok b) ∧ ∀ e ∈ log, good e)
      items results) :
    ∃ log, (items.mapM f).Course log (.ok results) ∧ ∀ e ∈ log, good e := by
  induction h with
  | nil => exact ⟨[], .done [], by simp⟩
  | cons hitem _ ih =>
    obtain ⟨first, hfirst, hgood⟩ := hitem
    obtain ⟨others, hothers, hgoods⟩ := ih
    refine ⟨first ++ others, ?_, List.forall_mem_append.mpr ⟨hgood, hgoods⟩⟩
    rw [List.mapM_cons]
    refine course_bind_iff.mpr (.inl ⟨_, first, others, hfirst, ?_, rfl⟩)
    exact course_bind_iff.mpr
      (.inl ⟨_, others, [], hothers, .done _, (List.append_nil others).symm⟩)

/-! ## Handling twice -/

/-- Handlers that do the same with every question do the same. -/
theorem handle_congr {R : Type} {B : R → Type} {first second : (q : Q) → Dialogue ε B (A q)}
    (h : ∀ q, first q = second q) (x : Dialogue ε A α) : x.handle first = x.handle second := by
  rw [show first = second from funext h]

/-- Passing every question on as it is changes nothing. -/
theorem handle_inquire (x : Dialogue ε A α) : x.handle inquire = x := by
  induction x with
  | done a => rfl
  | fail e => rfl
  | ask question resume ih => exact congrArg (ask question) (funext ih)

/-- Two handlers, one after the other, are one handler. -/
theorem handle_handle {R S : Type} {B : R → Type} {C : S → Type}
    (inner : (q : Q) → Dialogue ε B (A q)) (outer : (q : R) → Dialogue ε C (B q))
    (x : Dialogue ε A α) :
    (x.handle inner).handle outer = x.handle fun q => (inner q).handle outer := by
  induction x with
  | done a => rfl
  | fail e => rfl
  | ask question resume ih =>
    rw [handle, handle_bind, handle]
    exact congrArg _ (funext ih)

/-! ## Dialogues without questions -/

/-- A sequence that is done at once consists of parts that are. -/
theorem bind_eq_done_iff {x : Dialogue ε A β} {next : β → Dialogue ε A α} {a : α} :
    x >>= next = done a ↔ ∃ b, x = done b ∧ next b = done a := by
  cases x with
  | done b => simp
  | fail e => simp
  | ask question resume => simp

/-- One dialogue after the other is done at once exactly if each of them is. -/
theorem mapM_eq_done_iff {f : γ → Dialogue ε A β} (items : List γ) : ∀ results : List β,
    items.mapM f = done results ↔ List.Forall₂ (fun item b => f item = done b) items results := by
  induction items with
  | nil =>
    intro results
    cases results with
    | nil => exact iff_of_true rfl .nil
    | cons b rest => exact iff_of_false (by simp) nofun
  | cons item rest ih =>
    intro results
    rw [List.mapM_cons]
    simp only [bind_eq_done_iff, ih, pure_eq_done, done.injEq]
    constructor
    · rintro ⟨b, hb, bs, hbs, rfl⟩
      exact .cons hb hbs
    · rintro (_ | ⟨hb, hbs⟩)
      exact ⟨_, hb, _, hbs, rfl⟩

end RecordPatterns.Dialogue
