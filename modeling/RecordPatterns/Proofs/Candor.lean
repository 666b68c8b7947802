/-
Faults of the host are passed on as they are.

A run is candid if, whatever it asks of the host, a fault that is answered is
what it ends with, there and then. Nothing is asked after such an answer, and
the fault is neither swallowed nor put into other words. In a course of a
candid run, an answer that reports a fault can only be the last one, and the
fault is the outcome (`Candid.course`).

The other side of it is that nobody puts words into the host's mouth. As long
as the host reports no fault, a run that ends with one ends with a fault of the
registry's own, which is never a raised one (`KeepsSilent`).

Both are properties of the tree of a run, and ones that sequences inherit from
their parts, so `Verbatim` carries them along together, and it is enough to
look at the places at which the host is called at all.
-/
import RecordPatterns.Proofs.TypeSoundness

set_option autoImplicit false

namespace RecordPatterns.Run

/-- Every answer that reports a fault ends the run, with this very fault. -/
def Candid {α : Type} : Run α → Prop
  | .done _ => True
  | .fail _ => True
  | .ask question resume => ∀ answer,
    (∀ fault, question.fault? answer = some fault → resume answer = .fail fault)
      ∧ Candid (resume answer)

variable {α β : Type}

/-- **In a course of a candid run** a fault that the host reports comes last,
and is the outcome. -/
theorem Candid.course {x : Run α} {log : List (Dialogue.Exchange HostCall.Answer)}
    {outcome : Except Fault α} (h : x.Candid) (hx : x.Course log outcome) :
    ∀ {before after : List (Dialogue.Exchange HostCall.Answer)}
      {e : Dialogue.Exchange HostCall.Answer} {fault : Fault}, log = before ++ e :: after →
      e.question.fault? e.answer = some fault → after = [] ∧ outcome = .error fault := by
  induction hx with
  | done result =>
    intro before after e fault hlog
    simp at hlog
  | fail failure =>
    intro before after e fault hlog
    simp at hlog
  | @ask question resume answer log outcome rest ih =>
    intro before after e fault hlog hfault
    obtain ⟨hpassed, hrest⟩ := h answer
    cases before with
    | nil =>
      obtain ⟨rfl, rfl⟩ := List.cons.inj hlog
      -- the run has nothing left but this fault, and so no further exchange
      rw [hpassed fault hfault] at rest
      cases rest
      exact ⟨rfl, rfl⟩
    | cons first before => exact ih hrest (List.cons.inj hlog).2 hfault

/-- A sequence is candid if its parts are. -/
theorem candid_bind {x : Run α} {next : α → Run β} (hx : x.Candid)
    (hnext : ∀ a, (next a).Candid) : Candid (x >>= next) := by
  induction x with
  | done a => exact hnext a
  | fail fault => trivial
  | ask question resume ih =>
    intro answer
    obtain ⟨hpassed, hrest⟩ := hx answer
    refine ⟨fun fault hfault => ?_, ih answer hrest⟩
    show resume answer >>= next = .fail fault
    rw [hpassed fault hfault, Dialogue.fail_bind]

/-! ## Runs that keep to the words of the host -/

/-- An answer that reports no fault. -/
abbrev Faultless (question : HostCall) (answer : question.Answer) : Prop :=
  question.fault? answer = none

/-- As long as no answer reports a fault, the run does not end with a fault that
user code raises. -/
abbrev KeepsSilent (x : Run α) : Prop :=
  x.Along Faultless (fun _ => True) (fun _ => True) fun fault => fault.isRaised = false

/-- A fault that an answer reports ends the run as it is, and no other fault is
given out as one that user code has raised. -/
structure Verbatim (x : Run α) : Prop where
  candid : x.Candid
  silent : x.KeepsSilent

/-- What is done is done. -/
theorem verbatim_done (a : α) : Verbatim (.done a) := ⟨trivial, trivial⟩

/-- A fault of the registry's own. -/
theorem verbatim_fail {fault : Fault} (hown : fault.isRaised = false) :
    Verbatim (.fail fault : Run α) := ⟨trivial, hown⟩

/-- One call on the host. A fault is passed on as it is, and any other answer
is made something of. -/
theorem verbatim_ask {question : HostCall} {resume : question.Answer → Run α}
    (h : ∀ answer,
      (∃ fault, question.fault? answer = some fault ∧ resume answer = .fail fault)
        ∨ question.fault? answer = none ∧ ∃ a, resume answer = .done a) :
    Verbatim (.ask question resume) := by
  refine ⟨fun answer => ?_, trivial, fun answer hanswer => ?_⟩
  · obtain ⟨reported, hreported, hfail⟩ | ⟨hnone, a, hdone⟩ := h answer
    · rw [hfail, hreported]
      exact ⟨fun fault hfault => by rw [Option.some.inj hfault], trivial⟩
    · rw [hdone, hnone]
      exact ⟨nofun, trivial⟩
  · obtain ⟨reported, hreported, -⟩ | ⟨-, a, hdone⟩ := h answer
    · -- no fault is reported, as long as the answers are faultless
      rw [Faultless, hreported] at hanswer
      cases hanswer
    · rw [hdone]
      trivial

/-- Sequences are verbatim if their parts are. -/
theorem Verbatim.bind {x : Run α} {next : α → Run β} (hx : x.Verbatim)
    (hnext : ∀ a, (next a).Verbatim) : Verbatim (x >>= next) where
  candid := candid_bind hx.candid fun a => (hnext a).candid
  silent := by
    rw [KeepsSilent, Dialogue.along_bind]
    exact hx.silent.mono (fun a _ => (hnext a).silent) fun _ hown => hown

/-- One verbatim run after the other. -/
theorem verbatim_mapM {f : α → Run β} (items : List α) (hf : ∀ item, (f item).Verbatim) :
    Verbatim (items.mapM f) := by
  induction items with
  | nil => exact verbatim_done []
  | cons item rest ih =>
    rw [List.mapM_cons]
    exact (hf item).bind fun b => ih.bind fun bs => verbatim_done (b :: bs)

/-! ## The calls on the host -/

/-- Evaluating a subject expression. -/
theorem verbatim_evaluate (expression : ExprHandle) : (evaluate expression).Verbatim := by
  refine verbatim_ask ?_
  rintro (fault | v)
  · exact .inl ⟨fault, rfl, rfl⟩
  · exact .inr ⟨rfl, v, rfl⟩

/-- Running a deconstructor. What it has left in its slots is lost if it breaks
off with a fault. -/
theorem verbatim_deconstruct (body : BodyHandle) (subject : Value) (outputs : List TypeId) :
    (deconstruct body subject outputs).Verbatim := by
  refine verbatim_ask ?_
  rintro ⟨slots, fault | accepted⟩
  · exact .inl ⟨fault, rfl, rfl⟩
  · exact .inr ⟨rfl, ⟨accepted, slots.values⟩, rfl⟩

/-- Running an override of equality. -/
theorem verbatim_equals (body : BodyHandle) (left right : Value) :
    (equals body left right).Verbatim := by
  refine verbatim_ask ?_
  rintro (fault | answer)
  · exact .inl ⟨fault, rfl, rfl⟩
  · exact .inr ⟨rfl, answer, rfl⟩

/-- Running an override of hashing. -/
theorem verbatim_hash (body : BodyHandle) (v : Value) : (hash body v).Verbatim := by
  refine verbatim_ask ?_
  rintro (fault | code)
  · exact .inl ⟨fault, rfl, rfl⟩
  · exact .inr ⟨rfl, code, rfl⟩

/-- Running a getter. -/
theorem verbatim_property (body : BodyHandle) (receiver : Value) :
    (property body receiver).Verbatim := by
  refine verbatim_ask ?_
  rintro (fault | v)
  · exact .inl ⟨fault, rfl, rfl⟩
  · exact .inr ⟨rfl, v, rfl⟩

end RecordPatterns.Run

namespace RecordPatterns.Registry

variable {r : Registry}

/-- Getting at a stored value asks nothing, and a fault of it is the registry's
own. -/
theorem stored_cases (ty : TypeId) (fields : List Value) (name : Symbol) (position : Nat) :
    (∃ w, r.stored ty fields name position = .done w)
      ∨ ∃ fault, r.stored ty fields name position = .fail fault ∧ fault.isRaised = false := by
  unfold stored
  split
  · exact .inl ⟨_, rfl⟩
  · exact .inr ⟨_, rfl, rfl⟩

/-- **Reading a member asks for one thing at most.** There is a value at once,
or a fault of the registry's own at once, or a getter is run on the value that
is read. -/
theorem read_cases (r : Registry) (v : Value) (name : Symbol) :
    (∃ w, r.read v name = .done w)
      ∨ (∃ fault, r.read v name = .fail fault ∧ fault.isRaised = false)
      ∨ ∃ body, r.read v name = Run.property body v := by
  have hstored : ∀ ty fields position, (∃ w, r.stored ty fields name position = .done w)
      ∨ (∃ fault, r.stored ty fields name position = .fail fault ∧ fault.isRaised = false)
      ∨ ∃ body, r.stored ty fields name position = Run.property body v :=
    fun ty fields position => (stored_cases ty fields name position).imp_right .inl
  have hfault : ∀ fault : Fault, fault.isRaised = false →
      (∃ w, (.fail fault : Run Value) = .done w)
      ∨ (∃ fault', (.fail fault : Run Value) = .fail fault' ∧ fault'.isRaised = false)
      ∨ ∃ body, (.fail fault : Run Value) = Run.property body v :=
    fun fault hown => .inr (.inl ⟨fault, rfl, hown⟩)
  unfold read
  split
  · split
    · exact hfault _ rfl
    · split
      · exact hfault _ rfl
      · exact hstored _ _ _
      · split
        · exact .inr (.inr ⟨_, rfl⟩)
        · -- nothing to run under this name, so it is the stored value if it is any
          split
          · exact hstored _ _ _
          · exact hfault _ rfl
  · exact hfault _ rfl

/-- Reading a member, whatever stands under the name. -/
theorem verbatim_read (v : Value) (name : Symbol) : (r.read v name).Verbatim := by
  obtain ⟨w, hread⟩ | ⟨fault, hread, hown⟩ | ⟨body, hread⟩ := r.read_cases v name
  · rw [hread]
    exact Run.verbatim_done w
  · rw [hread]
    exact Run.verbatim_fail hown
  · rw [hread]
    exact Run.verbatim_property body v

/-- Taking a subject apart, with members or with user code. -/
theorem verbatim_deconstruct (d : Deconstructor) (v : Value) : (r.deconstruct d v).Verbatim := by
  rw [deconstruct]
  cases d.origin with
  | synthesized members =>
    exact (Run.verbatim_mapM members (verbatim_read v)).bind fun outputs => Run.verbatim_done _
  | written body =>
    cases body with
    | some body => exact Run.verbatim_deconstruct body v d.outputs
    | none => exact Run.verbatim_fail rfl

/-- So it is candid. -/
theorem candid_deconstruct (d : Deconstructor) (v : Value) : (r.deconstruct d v).Candid :=
  (verbatim_deconstruct d v).candid

end RecordPatterns.Registry
