/-
Faults of the host stop everything, and come out in the host's own words.

Whatever is done with plans, values and members, the first fault that the host
answers with ends it and is its outcome, and no other fault ever comes out as
one that user code has raised. Runs of this kind are verbatim, and reading
members and taking subjects apart are known to be. What is left is what they
are parts of: the recursions of equality and hashing, which look at values that
getters return, so that the induction is on the depth; and the walk over a
plan, which has no faults of its own at all, and is verbatim because the runs
are that answer its visits (`Run.verbatim_handle`).

No induction looks at hosts. Only the last section does: the exchanges of a run
with a host are a course of the run, and what becomes of faults is read off it.
-/
import RecordPatterns.Proofs.Comparison
import RecordPatterns.Proofs.Noninterference

set_option autoImplicit false

namespace RecordPatterns

/-! ## Loops over members -/

namespace Run

/-- Comparing members one by one, up to the first difference. -/
theorem verbatim_allEqual {compare : Symbol → Run (Option Bool)} (names : List Symbol)
    (h : ∀ name, (compare name).Verbatim) : Verbatim (allEqual compare names) := by
  induction names with
  | nil => exact verbatim_done _
  | cons name rest ih =>
    refine (h name).bind fun answer => ?_
    match answer with
    | some true => exact ih
    | some false => exact verbatim_done _
    | none => exact verbatim_done _

/-- Folding the hashes of members. -/
theorem verbatim_foldHash {hash : Symbol → Run (Option UInt64)} (names : List Symbol)
    (h : ∀ name, (hash name).Verbatim) : ∀ running : UInt64,
      Verbatim (foldHash hash running names) := by
  induction names with
  | nil => exact fun running => verbatim_done _
  | cons name rest ih =>
    refine fun running => (h name).bind fun answer => ?_
    match answer with
    | some member => exact ih _
    | none => exact verbatim_done _

end Run

/-! ## Comparing and hashing -/

namespace Registry

/-- **Comparing two values.** -/
theorem verbatim_equals (r : Registry) (depth : Nat) (a b : Value) :
    (r.equals depth a b).Verbatim := by
  induction depth using Nat.strongRecOn generalizing a b with
  | _ depth ih =>
    rw [equals_eq]
    by_cases htype : a.recordType? = b.recordType?
    · rw [if_neg (not_not_intro htype)]
      rcases r.equality? a with _ | names | ⟨_ | body, other⟩
      · exact Run.verbatim_done _
      · cases depth with
        | zero => exact Run.verbatim_done _
        | succ depth =>
          refine Run.verbatim_allEqual names fun name => ?_
          refine (verbatim_read a name).bind fun left => ?_
          refine (verbatim_read b name).bind fun right => ?_
          exact ih depth (Nat.lt_succ_self depth) left right
      · exact Run.verbatim_fail rfl
      · exact (Run.verbatim_equals body a b).bind fun answer => Run.verbatim_done _
    · rw [if_pos htype]
      exact Run.verbatim_done _

/-- **Hashing a value**, in the same way. -/
theorem verbatim_hash (r : Registry) (depth : Nat) (v : Value) : (r.hash depth v).Verbatim := by
  induction depth using Nat.strongRecOn generalizing v with
  | _ depth ih =>
    rw [hash_eq]
    rcases r.equality? v with _ | names | ⟨other, _ | body⟩
    · exact Run.verbatim_done _
    · cases depth with
      | zero => exact Run.verbatim_done _
      | succ depth =>
        refine Run.verbatim_foldHash names (fun name => ?_) _
        refine (verbatim_read v name).bind fun member => ?_
        exact ih depth (Nat.lt_succ_self depth) member
    · exact Run.verbatim_fail rfl
    · exact (Run.verbatim_hash body v).bind fun code => Run.verbatim_done _

end Registry

/-! ## The walk -/

/-- However its questions are answered, the dialogue does not fail. -/
abbrev Dialogue.Unfailing {ε Q α : Type} {A : Q → Type} (x : Dialogue ε A α) : Prop :=
  x.Along (fun _ _ => True) (fun _ => True) (fun _ => True) fun _ => False

/-- A dialogue without failures of its own, whose questions are answered by
verbatim runs. -/
theorem Run.verbatim_handle {α : Type} {Q : Type} {A : Q → Type} {answer : (q : Q) → Run (A q)}
    {x : Dialogue Fault A α} (hx : x.Unfailing) (hanswer : ∀ q, (answer q).Verbatim) :
    Verbatim (x.handle answer) := by
  induction x with
  | done a => exact verbatim_done a
  | fail fault => exact hx.elim
  | ask question resume ih => exact (hanswer question).bind fun a => ih a (hx.2 a trivial)

namespace Walk

variable (types : TypeTable)

/-- A visit whose outputs are gone on with without failing. -/
theorem unfailing_visit (node : Plan.Node) (subject : Value)
    {next : List Value → Walk (Option Bindings)} (hnext : ∀ outputs, (next outputs).Unfailing) :
    (visit types node subject next).Unfailing := by
  rw [visit]
  by_cases hpasses : node.test.passes types subject = true
  · rw [if_pos hpasses]
    refine ⟨trivial, ?_⟩
    rintro ⟨accepted, outputs⟩ -
    cases accepted with
    | true => exact hnext outputs
    | false => trivial
  · rw [if_neg hpasses]
    trivial

mutual

/-- One argument. -/
theorem unfailing_argument : ∀ (a : Argument) (output : Value),
    (argument types a output).Unfailing
  | .bind name type, output => by
    rw [argument]
    trivial
  | .discard, output => by
    rw [argument]
    trivial
  | .nested node args, output => by
    rw [argument]
    exact unfailing_visit types node output (unfailing_arguments args)

/-- Several arguments. -/
theorem unfailing_arguments : ∀ (args : List Argument) (outputs : List Value),
    (arguments types args outputs).Unfailing
  | [], outputs => by
    rw [arguments]
    trivial
  | a :: args, [] => by
    rw [arguments]
    trivial
  | a :: args, output :: outputs => by
    rw [arguments, Dialogue.Unfailing, Dialogue.along_bind]
    refine (unfailing_argument a output).mono (fun first _ => ?_) fun _ h => h
    cases first with
    | none => trivial
    | some bound =>
      refine Dialogue.along_bind.mpr ?_
      refine (unfailing_arguments args outputs).mono (fun others _ => ?_) fun _ h => h
      cases others with
      | none => trivial
      | some more => trivial

end

end Walk

namespace Plan

/-- Evaluating a plan. -/
theorem verbatim_evaluate (p : Plan) (r : Registry) (subject : Value) :
    (p.evaluate r subject).Verbatim := by
  have hwalk : (p.walk r.types subject).Unfailing :=
    Walk.unfailing_visit r.types p.node subject (Walk.unfailing_arguments r.types p.arguments)
  exact Run.verbatim_handle hwalk fun visit =>
    Registry.verbatim_deconstruct visit.node.deconstructor visit.subject

/-- Evaluating a plan at its site. -/
theorem verbatim_evaluateSite (p : Plan) (r : Registry) : (p.evaluateSite r).Verbatim := by
  rw [evaluateSite]
  cases p.node.source with
  | expression e => exact (Run.verbatim_evaluate e).bind (p.verbatim_evaluate r)
  | output index => exact Run.verbatim_fail rfl

end Plan

/-! ## Hosts -/

namespace Run

variable {α σ : Type} {x : Run α}

/-- What becomes of the faults of a host in a run. -/
structure PassesFaultsOn (x : Run α) (host : StatefulHost σ) (state : σ) : Prop where
  /-- The first fault that is reported is the last thing that is heard of the
  host, and the outcome. -/
  stops : ∀ {before after : List (Dialogue.Exchange HostCall.Answer)}
    {e : Dialogue.Exchange HostCall.Answer} {fault : Fault},
    x.exchanges host state = before ++ e :: after → e.question.fault? e.answer = some fault →
      after = [] ∧ (x.interpret host state).1 = .error fault
  /-- A raised fault that is the outcome has been reported in the last answer. -/
  raised : ∀ {fault : Fault}, (x.interpret host state).1 = .error fault → fault.isRaised = true →
    ∃ before e, x.exchanges host state = before ++ [e] ∧ e.question.fault? e.answer = some fault

/-- **Verbatim runs pass the faults of any host on.** For a raised outcome, some
answer has to report a fault, since none that is raised comes out otherwise. By
the first half that answer is the last one, and what it reports is the
outcome. -/
theorem Verbatim.passesFaultsOn (h : x.Verbatim) (host : StatefulHost σ) (state : σ) :
    x.PassesFaultsOn host state := by
  have hcourse := x.course_exchanges host state
  refine ⟨h.candid.course hcourse, fun {fault} houtcome hraised => ?_⟩
  by_cases hfaultless : ∀ e ∈ x.exchanges host state, Faultless e.question e.answer
  · obtain ⟨-, -, hown⟩ := h.silent.course hcourse hfaultless
    have hnot := hown fault houtcome
    rw [hraised] at hnot
    cases hnot
  · push Not at hfaultless
    obtain ⟨e, he, hreports⟩ := hfaultless
    obtain ⟨reported, hreported⟩ := Option.ne_none_iff_exists'.mp hreports
    obtain ⟨before, after, hsplit⟩ := List.append_of_mem he
    obtain ⟨rfl, hends⟩ := h.candid.course hcourse hsplit hreported
    rw [houtcome] at hends
    cases hends
    exact ⟨before, e, hsplit, hreported⟩

end Run

/-- **Faults come out verbatim.** Whatever is done with plans, values and
members, and whatever host there is: the first fault that it reports in an
answer ends the operation, which asks nothing more and comes to this very fault;
and a raised fault that an operation comes to is the one in the host's last
answer. Plans need not have been resolved, and values need not make sense. -/
theorem Registry.faults_come_out_verbatim (r : Registry) {σ : Type} (host : StatefulHost σ)
    (state : σ) :
    (∀ (p : Plan) subject, (p.evaluate r subject).PassesFaultsOn host state)
      ∧ (∀ p : Plan, (p.evaluateSite r).PassesFaultsOn host state)
      ∧ (∀ depth a b, (r.equals depth a b).PassesFaultsOn host state)
      ∧ (∀ depth v, (r.hash depth v).PassesFaultsOn host state)
      ∧ (∀ v name, (r.read v name).PassesFaultsOn host state)
      ∧ ∀ d v, (r.deconstruct d v).PassesFaultsOn host state :=
  ⟨fun p subject => (p.verbatim_evaluate r subject).passesFaultsOn host state,
    fun p => (p.verbatim_evaluateSite r).passesFaultsOn host state,
    fun depth a b => (r.verbatim_equals depth a b).passesFaultsOn host state,
    fun depth v => (r.verbatim_hash depth v).passesFaultsOn host state,
    fun v name => (verbatim_read v name).passesFaultsOn host state,
    fun d v => (verbatim_deconstruct d v).passesFaultsOn host state⟩

end RecordPatterns
