import CloudOperator.Proofs.Course

/-!
# Programs side by side

Two programs go side by side if one asks something whenever the other does, as long as their
answers correspond to each other.  Which questions and which answers correspond is told by a
`Coupling`; that the programs go side by side, and that their results correspond then, is told by
`Program.Coupled`.

* Programs that are composed of such programs go side by side (`Program.Coupled.bind`).
* A program goes side by side with itself if it asks only what both may ask, and what is then
  answered alike (`Program.coupled_self`).
* Programs that go side by side are run side by side, in surroundings of their own that answer
  alike (`Program.Coupled.run`).
-/

namespace CloudOperator

/-- Which questions two programs may ask at a time, and how they may be answered then. -/
structure Coupling {Question : Type} (Answer : Question → Type) where
  asks : Question → Question → Prop
  answers : (question question' : Question) → Answer question → Answer question' → Prop

/-- Both programs may ask a question at a time, and they get the same answer to it. -/
structure Coupling.Shares {Question : Type} {Answer : Question → Type} (c : Coupling Answer)
    (question : Question) : Prop where
  asks : c.asks question question
  answers : ∀ answer answer', c.answers question question answer answer' → answer = answer'

namespace Program

variable {Question : Type} {Answer : Question → Type} {α α' β β' ε : Type}

/-- Two programs go side by side: they ask at a time, whatever they were answered, and their
results correspond. -/
inductive Coupled (c : Coupling Answer) (post : α → α' → Prop) :
    Program Answer α → Program Answer α' → Prop
  | done {result : α} {result' : α'} (holds : post result result') :
      Coupled c post (done result) (done result')
  | overflow : Coupled c post overflow overflow
  | ask {question question' : Question} {next : Answer question → Program Answer α}
      {next' : Answer question' → Program Answer α'} (asks : c.asks question question')
      (goes : ∀ answer answer', c.answers question question' answer answer' →
        Coupled c post (next answer) (next' answer')) :
      Coupled c post (ask question next) (ask question' next')

variable {c : Coupling Answer} {post : α → α' → Prop} {post' : β → β' → Prop}

theorem Coupled.bind {program : Program Answer α} {program' : Program Answer α'}
    {f : α → Program Answer β} {f' : α' → Program Answer β'}
    (first : program.Coupled c post program')
    (second : ∀ result result', post result result' →
      (f result).Coupled c post' (f' result')) :
  (program.bind f).Coupled c post' (program'.bind f')
  := by
  induction first with
  | done holds => exact second _ _ holds
  | overflow => exact .overflow
  | ask asks _ ih => exact .ask asks ih

/-- Programs that may fail go on side by side where both come to a value, and else fail for the
same cause. -/
theorem Coupled.attempt_bind {program program' : ExceptT ε (Program Answer) α}
    {f f' : α → ExceptT ε (Program Answer) β} (first : Coupled c Eq program program')
    (second : ∀ result, Coupled c Eq (f result) (f' result)) :
  Coupled c Eq (program >>= f : ExceptT ε (Program Answer) β)
    (program' >>= f' : ExceptT ε (Program Answer) β)
  := by
  apply Coupled.bind first
  rintro (cause | result) _ rfl
  · exact .done rfl
  · exact second result

theorem coupled_question_bind {question question' : Question}
    {next : Answer question → Program Answer α} {next' : Answer question' → Program Answer α'}
    (asks : c.asks question question')
    (goes : ∀ answer answer', c.answers question question' answer answer' →
      (next answer).Coupled c post (next' answer')) :
  ((Program.question question).bind next).Coupled c post
    ((Program.question question').bind next')
  := .ask asks goes

/-- Where both programs get the same answer, they go on with it. -/
theorem coupled_question_bind_of_shares {question : Question} (shares : c.Shares question)
    {next : Answer question → Program Answer α} {next' : Answer question → Program Answer α'}
    (goes : ∀ answer, (next answer).Coupled c post (next' answer)) :
  ((Program.question question).bind next).Coupled c post ((Program.question question).bind next')
  := by
  apply coupled_question_bind shares.asks
  intro answer answer' alike
  rw [shares.answers answer answer' alike]
  apply goes

theorem coupled_attempt_ask {question question' : Question}
    {next : Answer question → ExceptT ε (Program Answer) α}
    {next' : Answer question' → ExceptT ε (Program Answer) α} (asks : c.asks question question')
    (goes : ∀ answer answer', c.answers question question' answer answer' →
      Coupled c Eq (next answer) (next' answer')) :
  Coupled c Eq (liftM (Program.question question) >>= next : ExceptT ε (Program Answer) α)
    (liftM (Program.question question') >>= next' : ExceptT ε (Program Answer) α)
  := .ask asks goes

theorem coupled_self {program : Program Answer α} (shared : program.Asks c.Shares) :
  program.Coupled c Eq program
  := by
  induction program with
  | done result => exact .done rfl
  | overflow => exact .overflow
  | ask question next ih =>
    apply Coupled.ask shared.1.asks
    intro answer answer' alike
    rw [shared.1.answers answer answer' alike]
    exact ih answer' (shared.2 answer')

/-- What holds of all results of a program holds of its results beside another one. -/
theorem Coupled.of_takes {program : Program Answer α} {program' : Program Answer α'}
    (h : program.Coupled c post program') {holds : α → Prop}
    (takes : ∀ course result, program.Takes course (some result) → holds result) :
  program.Coupled c (fun result result' => post result result' ∧ holds result) program'
  := by
  induction h with
  | done corresponds => exact .done ⟨corresponds, takes [] _ (.done _)⟩
  | overflow => exact .overflow
  | ask asks _ ih =>
    apply Coupled.ask asks
    intro answer answer' alike
    exact ih answer answer' alike fun course result goes => takes _ result (.answered goes)

/-- Programs that go side by side come to results that correspond, or to none, in surroundings
that answer alike and that stay alike. -/
theorem Coupled.run {σ τ : Type} {answer : (question : Question) → StateM σ (Answer question)}
    {answer' : (question : Question) → StateM τ (Answer question)} {alike : σ → τ → Prop}
    (serves : ∀ question question' s s', c.asks question question' → alike s s' →
      c.answers question question' (answer question s).1 (answer' question' s').1 ∧
        alike (answer question s).2 (answer' question' s').2)
    {program : Program Answer α} {program' : Program Answer α'}
    (h : program.Coupled c post program') {s : σ} {s' : τ} (initially : alike s s') :
  Option.Rel post (program.run answer s).1 (program'.run answer' s').1 ∧
    alike (program.run answer s).2 (program'.run answer' s').2
  := by
  induction h generalizing s s' with
  | done holds => exact ⟨.some holds, initially⟩
  | overflow => exact ⟨.none, initially⟩
  | ask asks _ ih =>
    obtain ⟨answered, finally'⟩ := serves _ _ s s' asks initially
    exact ih _ _ answered finally'

end Program

end CloudOperator
