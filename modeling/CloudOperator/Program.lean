/-!
# Programs

A program asks its surroundings questions, one after the other, and ends with a
result; it may also end without one, where a date leaves the calendar.  What is
asked and what may be answered is given by `Answer`.  `Program.run` runs a program
in surroundings given by a monad.
-/

namespace CloudOperator

/-- A computation that asks questions and ends with a result. -/
inductive Program {Question : Type} (Answer : Question → Type) (α : Type) : Type where
  /-- The end, with a result. -/
  | done (result : α)
  /-- The end without a result: a date left the calendar. -/
  | overflow
  /-- A question, and what follows each answer to it. -/
  | ask (question : Question) (next : Answer question → Program Answer α)

namespace Program

variable {Question : Type} {Answer : Question → Type} {α β γ : Type}

/-- A program followed by another one that depends on its result. -/
protected def bind : Program Answer α → (α → Program Answer β) → Program Answer β
  | done result, f => f result
  | overflow, _ => overflow
  | ask question next, f => ask question fun answer => (next answer).bind f

instance : Monad (Program Answer) where
  pure := done
  bind := Program.bind

/-- The program that asks one question and ends with the answer. -/
def question (question : Question) : Program Answer (Answer question) :=
  ask question done

/-- The program that ends with a value, unless the calendar has none. -/
def ofOption : Option α → Program Answer α
  | some value => done value
  | none => overflow

/-- A program run in surroundings that answer its questions. -/
def run {m : Type → Type} [Monad m] (answer : (question : Question) → m (Answer question)) :
    Program Answer α → m (Option α)
  | done result => pure (some result)
  | overflow => pure none
  | ask question next => do (next (← answer question)).run answer

@[simp]
theorem pure_bind (result : α) (f : α → Program Answer β) :
  (done result).bind f = f result
  := rfl

@[simp]
theorem overflow_bind (f : α → Program Answer β) :
  (overflow : Program Answer α).bind f = overflow
  := rfl

@[simp]
theorem ask_bind
    (question : Question) (next : Answer question → Program Answer α)
    (f : α → Program Answer β) :
  (ask question next).bind f = ask question fun answer => (next answer).bind f
  := rfl

theorem bind_done (program : Program Answer α) :
  program.bind done = program
  := by
  induction program with
  | done result => rfl
  | overflow => rfl
  | ask question next ih => simp [ih]

theorem bind_assoc
    (program : Program Answer α) (f : α → Program Answer β) (g : β → Program Answer γ) :
  (program.bind f).bind g = program.bind fun result => (f result).bind g
  := by
  induction program with
  | done result => rfl
  | overflow => rfl
  | ask question next ih => simp [ih]

instance : LawfulMonad (Program Answer) :=
  LawfulMonad.mk' (Program Answer) bind_done pure_bind bind_assoc

/-- A program followed by another one runs the two one after the other; without a
result of the first there is none. -/
theorem run_bind
    {m : Type → Type} [Monad m] [LawfulMonad m]
    (answer : (question : Question) → m (Answer question))
    (program : Program Answer α) (f : α → Program Answer β) :
  (program.bind f).run answer =
    (program.run answer >>= fun
      | some result => (f result).run answer
      | none => pure none)
  := by
  induction program with
  | done result => simp [run]
  | overflow => simp [run]
  | ask question next ih => simp [run, ih]

end Program

end CloudOperator
