import GuardianRelay.Error

/-!
# Programs and their surroundings

Nodes, clocks and other collaborators are not part of this library, and what they answer is not known to it. A
program is therefore a tree: it has a value, or it has failed, or it asks for something and goes on with whatever the
answer is. What can be asked is an `Interface`. One tree is run by a command line, by tests with scripted answers,
and step by step among the steps of other programs.

## Main results

* `Program.instLawfulMonad`: sequencing programs is associative, and a program that is done adds nothing to it.
* `Program.run_bind`: running two programs in sequence is running one and then the other.
-/

namespace GuardianRelay

/-- What can be asked, and what kind of answer each question has. -/
structure Interface where
  /-- The questions. -/
  Request : Type
  /-- The answers to a question. -/
  Reply : Request → Type

/-- A computation that asks its surroundings. -/
inductive Program (I : Interface) (α : Type) where
  /-- The computation has a value. -/
  | done (value : α)
  /-- The computation has failed. -/
  | fail (error : RelayError)
  /-- The computation goes on with the answer to a question. -/
  | ask (request : I.Request) (next : I.Reply request → Program I α)

namespace Program

variable {I : Interface} {α β : Type}

/-- Goes on with the value of a program, unless it fails. -/
def bind : Program I α → (α → Program I β) → Program I β
  | done value, f => f value
  | fail error, _ => fail error
  | ask request next, f => ask request fun reply => bind (next reply) f

instance : Monad (Program I) where
  pure := done
  bind := bind

@[simp] theorem pure_eq (value : α) : (pure value : Program I α) = done value := rfl

@[simp] theorem bind_done (value : α) (f : α → Program I β) : (done value >>= f) = f value := rfl

@[simp] theorem bind_fail (error : RelayError) (f : α → Program I β) : (fail error >>= f) = fail error := rfl

@[simp] theorem bind_ask (request : I.Request) (next : I.Reply request → Program I α) (f : α → Program I β) :
    (ask request next >>= f) = ask request fun reply => next reply >>= f := rfl

/-- A program followed by nothing is the program. -/
theorem bind_pure_self (p : Program I α) : p >>= done = p := by
  induction p with
  | done | fail => rfl
  | ask request next ih => simp only [bind_ask, ih]

/-- The order in which programs are put together does not matter. -/
theorem bind_bind {γ : Type} (p : Program I α) (f : α → Program I β) (g : β → Program I γ) :
    p >>= f >>= g = p >>= fun value => f value >>= g := by
  induction p with
  | done | fail => rfl
  | ask request next ih => simp only [bind_ask, ih]

instance instLawfulMonad : LawfulMonad (Program I) :=
  LawfulMonad.mk' _ (fun p => bind_pure_self p) (fun _ _ => rfl) bind_bind

/-- Asks a question. -/
def request (r : I.Request) : Program I (I.Reply r) := ask r done

/-- The value of an outcome, or its failure. -/
def ofOutcome : Outcome α → Program I α
  | .ok value => done value
  | .error error => fail error

/-- What becomes of a program, as a value. -/
def attempt : Program I α → Program I (Outcome α)
  | done value => done (.ok value)
  | fail error => done (.error error)
  | ask request next => ask request fun reply => attempt (next reply)

instance : MonadExcept RelayError (Program I) where
  throw := fail
  tryCatch p recover := p.attempt >>= fun
    | .ok value => done value
    | .error error => recover error

/-- A program that asks other surroundings, where each of its questions is answered by a program for those. -/
def via {J : Interface} (answer : (r : I.Request) → Program J (I.Reply r)) : Program I α → Program J α
  | done value => done value
  | fail error => fail error
  | ask request next => answer request >>= fun reply => via answer (next reply)

/-- Runs a program where something answers its questions. -/
def run {m : Type → Type} [Monad m] (answer : (r : I.Request) → m (I.Reply r)) : Program I α → m (Outcome α)
  | done value => pure (.ok value)
  | fail error => pure (.error error)
  | ask request next => do
    let reply ← answer request
    run answer (next reply)

/-- A sequence of programs runs as one after the other. -/
theorem run_bind {m : Type → Type} [Monad m] [LawfulMonad m] (answer : (r : I.Request) → m (I.Reply r))
    (p : Program I α) (f : α → Program I β) :
    (p >>= f).run answer = p.run answer >>= fun
      | .ok value => (f value).run answer
      | .error error => pure (.error error) := by
  induction p with
  | done value => simp [run]
  | fail error => simp [run]
  | ask request next ih => simp [run, ih]

end Program

end GuardianRelay
