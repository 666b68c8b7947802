/-
Dialogues: computations that ask questions.

A dialogue is done with a result, has failed, or asks a question and goes on
in a way that depends on the answer. The type of an answer depends on the
question. A dialogue says nothing about who answers; it is a finite tree of
everything that could be asked, and statements about "every host", about what
was asked and in which order, or about two hosts at once are statements about
one tree.

Two operations read a dialogue off. `interpret` lets some monad answer the
questions, and so covers hosts with a state, hosts that keep a log, and the
outside world. `handle` answers the questions of one dialogue by holding
another one, which is how a walk over a plan becomes a conversation with the
host.
-/

set_option autoImplicit false

namespace RecordPatterns

/-- A computation that may ask questions, each with answers of its own type,
and ends with a result or a failure. -/
inductive Dialogue (ε : Type) {Q : Type} (A : Q → Type) (α : Type) : Type where
  | done (result : α)
  | fail (failure : ε)
  | ask (question : Q) (resume : A question → Dialogue ε A α)

namespace Dialogue

variable {ε : Type} {Q : Type} {A : Q → Type} {α β : Type}

/-- Goes on with another dialogue after the result of the first. A failure
ends both. -/
def bind : Dialogue ε A α → (α → Dialogue ε A β) → Dialogue ε A β
  | done result, next => next result
  | fail failure, _ => fail failure
  | ask question resume, next => ask question fun answer => (resume answer).bind next

instance : Monad (Dialogue ε A) where
  pure := done
  bind := bind

@[simp] theorem pure_eq_done (a : α) : (pure a : Dialogue ε A α) = done a := rfl

@[simp] theorem done_bind (a : α) (next : α → Dialogue ε A β) : done a >>= next = next a := rfl

@[simp] theorem fail_bind (e : ε) (next : α → Dialogue ε A β) :
    (fail e : Dialogue ε A α) >>= next = fail e := rfl

@[simp] theorem ask_bind (q : Q) (resume : A q → Dialogue ε A α) (next : α → Dialogue ε A β) :
    ask q resume >>= next = ask q fun a => resume a >>= next := rfl

/-- Going on by doing nothing changes nothing. -/
theorem bind_done (x : Dialogue ε A α) : x >>= done = x := by
  induction x with
  | done a => rfl
  | fail e => rfl
  | ask q resume ih => exact congrArg (ask q) (funext ih)

/-- The grouping of three dialogues in sequence does not matter. -/
theorem bind_grouping {γ : Type} (x : Dialogue ε A α) (f : α → Dialogue ε A β)
    (g : β → Dialogue ε A γ) : x >>= f >>= g = x >>= fun a => f a >>= g := by
  induction x with
  | done a => rfl
  | fail e => rfl
  | ask q resume ih => exact congrArg (ask q) (funext ih)

instance : LawfulMonad (Dialogue ε A) :=
  LawfulMonad.mk' (Dialogue ε A) bind_done (fun _ _ => rfl) bind_grouping

/-- A result or a failure that is already there, without a question. -/
def ofExcept : Except ε α → Dialogue ε A α
  | .ok a => done a
  | .error e => fail e

/-- Asks one question and is done with its answer. -/
def inquire (q : Q) : Dialogue ε A (A q) := ask q done

/-- Lets a monad answer the questions. -/
def interpret {m : Type → Type} [Monad m] (answer : (q : Q) → m (A q)) :
    Dialogue ε A α → m (Except ε α)
  | done a => pure (.ok a)
  | fail e => pure (.error e)
  | ask q resume => do interpret answer (resume (← answer q))

/-- Answers every question by holding another dialogue, which may ask
questions of another kind, and may fail. -/
def handle {R : Type} {B : R → Type} (answer : (q : Q) → Dialogue ε B (A q)) :
    Dialogue ε A α → Dialogue ε B α
  | done a => done a
  | fail e => fail e
  | ask q resume => answer q >>= fun a => (resume a).handle answer

/-- Handling a sequence is handling its parts in sequence. -/
theorem handle_bind {R : Type} {B : R → Type} (answer : (q : Q) → Dialogue ε B (A q))
    (x : Dialogue ε A α) (next : α → Dialogue ε A β) :
    (x >>= next).handle answer = x.handle answer >>= fun a => (next a).handle answer := by
  induction x with
  | done a => rfl
  | fail e => rfl
  | ask q resume ih =>
    simp only [ask_bind, handle, bind_assoc]
    exact congrArg _ (funext ih)

end Dialogue

end RecordPatterns
