import CloudOperator.Program

/-!
# Courses of programs

A course lists what a program asked and what it was answered, in order.  The relation
`Program.Takes` holds of a program, of a course that it can take, and of the result that
it comes to on it.  There is no result where the program leaves the calendar, and none
where it is given up while it waits for an answer, so the courses of a program are
those of passes that are cut short, too.

* `Program.takes_bind` splits a course of a program followed by another one.
* `Program.takes_attempt_bind` does so for programs that may fail.
* `Program.Takes.asked` says that a program asks nothing but what it may ask.
* `Program.Takes.unique` says that the answers determine the course and the result.
* `Program.Awaits` tells that a program is left where it waits for an answer, and `Program.Pends`
  with which question; `Program.Leaves` tells that it leaves the calendar, and `Program.Stays`
  that it does not do so on any course.
* `Program.Ends` tells what holds of the results that a program can come to, and `Program.Returns`
  that it comes to one of them, whatever it is answered.
* `Program.Poses` tells what a program asks along a course, the question included that is not
  answered there.
* `Program.takes_courseIn` says that a program takes a course wherever it is run.
-/

namespace CloudOperator

/-- A question with the answer to it. -/
structure Exchange {Question : Type} (Answer : Question → Type) where
  question : Question
  answer : Answer question

namespace Program

variable {Question : Type} {Answer : Question → Type} {α β ε : Type}

/-- A program takes a course, and comes to a result on it or is left without one. -/
inductive Takes : Program Answer α → List (Exchange Answer) → Option α → Prop
  | done (result : α) : Takes (done result) [] (some result)
  | overflow : Takes overflow [] none
  | givenUp (question : Question) (next : Answer question → Program Answer α) :
      Takes (ask question next) [] none
  | answered {question : Question} {next : Answer question → Program Answer α}
      {answer : Answer question} {course : List (Exchange Answer)} {result? : Option α}
      (rest : Takes (next answer) course result?) :
      Takes (ask question next) (⟨question, answer⟩ :: course) result?

variable {course : List (Exchange Answer)} {result? : Option α}

/-! ## Courses of composed programs -/

@[simp]
theorem takes_done {result : α} :
  (done result : Program Answer α).Takes course result? ↔ course = [] ∧ result? = some result
  := by
  constructor
  · rintro ⟨⟩
    exact ⟨rfl, rfl⟩
  · rintro ⟨rfl, rfl⟩
    apply Takes.done

@[simp]
theorem takes_overflow :
  (overflow : Program Answer α).Takes course result? ↔ course = [] ∧ result? = none
  := by
  constructor
  · rintro ⟨⟩
    exact ⟨rfl, rfl⟩
  · rintro ⟨rfl, rfl⟩
    apply Takes.overflow

/-- A program that asks is given up at once, or it goes on with the answer. -/
theorem takes_ask {question : Question} {next : Answer question → Program Answer α} :
  (ask question next).Takes course result? ↔
    course = [] ∧ result? = none ∨
    ∃ answer rest, course = ⟨question, answer⟩ :: rest ∧ (next answer).Takes rest result?
  := by
  constructor
  · rintro (_ | _ | _ | h)
    · exact .inl ⟨rfl, rfl⟩
    · exact .inr ⟨_, _, rfl, h⟩
  · rintro (⟨rfl, rfl⟩ | ⟨answer, rest, rfl, h⟩)
    · apply Takes.givenUp
    · apply Takes.answered h

/-- A program with a course that begins with an exchange asks the question of it. -/
theorem Takes.of_cons {program : Program Answer α} {exchange : Exchange Answer}
    (h : program.Takes (exchange :: course) result?) :
  ∃ next, program = ask exchange.question next ∧ (next exchange.answer).Takes course result?
  := by
  cases h with
  | answered rest => exact ⟨_, rfl, rest⟩

theorem takes_question_bind {question : Question} {next : Answer question → Program Answer α} :
  ((Program.question question).bind next).Takes course result? ↔
    course = [] ∧ result? = none ∨
    ∃ answer rest, course = ⟨question, answer⟩ :: rest ∧ (next answer).Takes rest result?
  := takes_ask

/-- A date that is not in the calendar is no result. -/
theorem takes_ofOption {value? : Option α} :
  (ofOption value? : Program Answer α).Takes course result? ↔ course = [] ∧ result? = value?
  := by
  cases value? <;> simp [ofOption]

/-- A program followed by another one takes a course of the first, and after it a course
of the second if the first comes to a result. -/
theorem takes_bind {program : Program Answer α} {f : α → Program Answer β}
    {result? : Option β} :
  (program.bind f).Takes course result? ↔
    program.Takes course none ∧ result? = none ∨
    ∃ result first second, course = first ++ second ∧
      program.Takes first (some result) ∧ (f result).Takes second result?
  := by
  induction program generalizing course with
  | done result =>
    rw [pure_bind]
    constructor
    · intro h
      exact .inr ⟨result, [], course, rfl, .done result, h⟩
    · rintro (⟨⟨⟩, -⟩ | ⟨_, _, second, rfl, ⟨⟩, h⟩)
      apply h
  | overflow => simp
  | ask question next ih =>
    rw [ask_bind, takes_ask, takes_ask]
    constructor
    · rintro (⟨rfl, rfl⟩ | ⟨answer, rest, rfl, h⟩)
      · exact .inl ⟨.inl ⟨rfl, rfl⟩, rfl⟩
      · obtain ⟨ends, rfl⟩ | ⟨result, first, second, rfl, ends, goes⟩ := (ih answer).mp h
        · exact .inl ⟨.inr ⟨answer, rest, rfl, ends⟩, rfl⟩
        · exact .inr ⟨result, _, second, rfl, .answered ends, goes⟩
    · rintro (⟨⟨rfl, -⟩ | ⟨answer, rest, rfl, h⟩, rfl⟩ | ⟨result, first, second, rfl, h, h'⟩)
      · exact .inl ⟨rfl, rfl⟩
      · have goes := (ih answer).mpr (.inl ⟨h, rfl⟩)
        exact .inr ⟨answer, rest, rfl, goes⟩
      · obtain ⟨-, ⟨⟩⟩ | ⟨answer, rest, rfl, ends⟩ := takes_ask.mp h
        have goes := (ih answer).mpr (.inr ⟨result, rest, second, rfl, ends, h'⟩)
        exact .inr ⟨answer, rest ++ second, rfl, goes⟩

/-- A program that may fail followed by another one: where the first fails, the whole
fails at once. -/
theorem takes_attempt_bind
    {program : ExceptT ε (Program Answer) α} {f : α → ExceptT ε (Program Answer) β}
    {result? : Option (Except ε β)} :
  Takes (program >>= f : ExceptT ε (Program Answer) β) course result? ↔
    Takes program course none ∧ result? = none ∨
    (∃ cause, Takes program course (some (.error cause)) ∧ result? = some (.error cause)) ∨
    ∃ result first second, course = first ++ second ∧
      Takes program first (some (.ok result)) ∧ Takes (f result) second result?
  := by
  refine takes_bind.trans (or_congr_right ?_)
  constructor
  · rintro ⟨cause | result, first, second, rfl, h, h'⟩
    · obtain ⟨rfl, rfl⟩ := takes_done.mp h'
      rw [List.append_nil]
      exact .inl ⟨cause, h, rfl⟩
    · exact .inr ⟨result, first, second, rfl, h, h'⟩
  · rintro (⟨cause, h, rfl⟩ | ⟨result, first, second, rfl, h, h'⟩)
    · exact ⟨.error cause, course, [], (List.append_nil _).symm, h, takes_done.mpr ⟨rfl, rfl⟩⟩
    · exact ⟨.ok result, first, second, rfl, h, h'⟩

/-- Where the whole comes to a value, the first comes to one, too. -/
theorem takes_attempt_bind_ok
    {program : ExceptT ε (Program Answer) α} {f : α → ExceptT ε (Program Answer) β} {b : β}
    (h : Takes (program >>= f : ExceptT ε (Program Answer) β) course (some (.ok b))) :
  ∃ a first second, course = first ++ second ∧
    Takes program first (some (.ok a)) ∧ Takes (f a) second (some (.ok b))
  := by
  obtain ⟨-, ⟨⟩⟩ | ⟨cause, -, ⟨⟩⟩ | ends := takes_attempt_bind.mp h
  exact ends

theorem takes_attempt_pure {result : α} {result? : Option (Except ε α)} :
  Takes (pure result : ExceptT ε (Program Answer) α) course result? ↔
    course = [] ∧ result? = some (.ok result)
  := takes_done

theorem takes_attempt_throw {cause : ε} {result? : Option (Except ε α)} :
  Takes (throw cause : ExceptT ε (Program Answer) α) course result? ↔
    course = [] ∧ result? = some (.error cause)
  := takes_done

theorem takes_attempt_ask {question : Question}
    {next : Answer question → ExceptT ε (Program Answer) α} {result? : Option (Except ε α)} :
  Takes (liftM (Program.question question) >>= next : ExceptT ε (Program Answer) α) course result? ↔
    course = [] ∧ result? = none ∨
    ∃ answer rest, course = ⟨question, answer⟩ :: rest ∧ Takes (next answer) rest result?
  := takes_ask

/-- A program whose value is changed at the end comes to the value that is changed, or fails as
it does. -/
theorem takes_attempt_map {program : ExceptT ε (Program Answer) α} {f : α → β}
    {result : Except ε β}
    (h : Takes (program >>= fun a => pure (f a) : ExceptT ε (Program Answer) β) course
      (some result)) :
  ∃ first, Takes program course (some first) ∧ result = first.map f
  := by
  obtain ⟨-, ⟨⟩⟩ | ⟨cause, fails, ⟨⟩⟩ | ⟨a, first, second, rfl, ends, returns⟩ :=
    takes_attempt_bind.mp h
  · exact ⟨_, fails, rfl⟩
  · obtain ⟨rfl, ⟨⟩⟩ := takes_attempt_pure.mp returns
    rw [List.append_nil]
    exact ⟨_, ends, rfl⟩

/-- The answers decide how a program goes on: of two courses that begin alike, and on
which the program comes to a result, neither goes on where the other ends. -/
theorem Takes.unique
    {program : Program Answer α} {first first' second second' : List (Exchange Answer)}
    {result result' : α} (h : program.Takes first (some result))
    (h' : program.Takes first' (some result')) (same : first ++ second = first' ++ second') :
  first = first' ∧ result = result' ∧ second = second'
  := by
  induction program generalizing first first' with
  | done _ =>
    obtain ⟨rfl, ⟨⟩⟩ := takes_done.mp h
    obtain ⟨rfl, ⟨⟩⟩ := takes_done.mp h'
    exact ⟨rfl, rfl, same⟩
  | overflow => cases h
  | ask question next ih =>
    obtain ⟨-, ⟨⟩⟩ | ⟨answer, rest, rfl, next_takes⟩ := takes_ask.mp h
    obtain ⟨-, ⟨⟩⟩ | ⟨answer', rest', rfl, next_takes'⟩ := takes_ask.mp h'
    obtain ⟨⟨⟩, rest_same⟩ := List.cons.inj same
    obtain ⟨rfl, rfl, rfl⟩ := ih answer next_takes next_takes' rest_same
    exact ⟨rfl, rfl, rfl⟩

/-- A program followed by another one goes on as the other one once the first has come to a
result. -/
theorem Takes.rest {program : Program Answer α} {f : α → Program Answer β}
    {first second : List (Exchange Answer)} {result : α} {result? : Option β}
    (h : (program.bind f).Takes (first ++ second) result?)
    (ends : program.Takes first (some result)) :
  (f result).Takes second result?
  := by
  induction program generalizing first with
  | done _ =>
    obtain ⟨rfl, ⟨⟩⟩ := takes_done.mp ends
    apply h
  | overflow => cases ends
  | ask question next ih =>
    obtain ⟨-, ⟨⟩⟩ | ⟨answer, rest, rfl, next_ends⟩ := takes_ask.mp ends
    obtain ⟨⟨⟩, -⟩ | ⟨_, _, ⟨⟩, goes⟩ := takes_ask.mp h
    apply ih answer goes next_ends

/-- A program that came to a result is not without one later. -/
theorem Takes.not_takes_none {program : Program Answer α}
    {first second : List (Exchange Answer)} {result : α}
    (h : program.Takes first (some result)) :
  ¬ program.Takes (first ++ second) none
  := by
  intro stops
  rw [← program.bind_done] at stops
  obtain ⟨-, ⟨⟩⟩ := takes_done.mp (stops.rest h)

/-! ## Programs that are given up -/

/-- A program is left with a question at the end of a course. -/
inductive Pends : Program Answer α → List (Exchange Answer) → Question → Prop
  | asked (question : Question) (next : Answer question → Program Answer α) :
      Pends (ask question next) [] question
  | answered {question posed : Question} {next : Answer question → Program Answer α}
      {answer : Answer question} {course : List (Exchange Answer)}
      (rest : Pends (next answer) course posed) :
      Pends (ask question next) (⟨question, answer⟩ :: course) posed

theorem Pends.bind {program : Program Answer α} {f : α → Program Answer β} {posed : Question}
    (h : program.Pends course posed) :
  (program.bind f).Pends course posed
  := by
  induction h with
  | asked question next => apply Pends.asked
  | answered _ ih => apply Pends.answered ih

/-- A program is left with a question if the one that follows another one is left with it after
that came to a result. -/
theorem Takes.pends_bind {program : Program Answer α} {f : α → Program Answer β}
    {first second : List (Exchange Answer)} {result : α} {posed : Question}
    (h : program.Takes first (some result)) (pends : (f result).Pends second posed) :
  (program.bind f).Pends (first ++ second) posed
  := by
  induction program generalizing first with
  | done _ =>
    obtain ⟨rfl, ⟨⟩⟩ := takes_done.mp h
    apply pends
  | overflow => cases h
  | ask question next ih =>
    obtain ⟨-, ⟨⟩⟩ | ⟨answer, rest, rfl, ends⟩ := takes_ask.mp h
    apply Pends.answered (ih answer ends)

/-- A program begins somehow. -/
theorem exists_takes_nil (program : Program Answer α) :
  ∃ result?, program.Takes [] result?
  := by
  cases program with
  | done result => exact ⟨_, .done result⟩
  | overflow => exact ⟨_, .overflow⟩
  | ask question next => exact ⟨_, .givenUp question next⟩

/-- Whatever is answered to the question that a program is left with, the program goes on. -/
theorem Pends.goesOn {program : Program Answer α} {posed : Question}
    (h : program.Pends course posed) (answer : Answer posed) :
  ∃ result?, program.Takes (course ++ [⟨posed, answer⟩]) result?
  := by
  induction h with
  | asked question next =>
    obtain ⟨result?, takes⟩ := (next answer).exists_takes_nil
    exact ⟨result?, takes.answered⟩
  | answered rest ih =>
    obtain ⟨result?, takes⟩ := ih answer
    exact ⟨result?, takes.answered⟩

/-- A program waits for an answer at the end of a course. -/
inductive Awaits : Program Answer α → List (Exchange Answer) → Prop
  | asked (question : Question) (next : Answer question → Program Answer α) :
      Awaits (ask question next) []
  | answered {question : Question} {next : Answer question → Program Answer α}
      {answer : Answer question} {course : List (Exchange Answer)}
      (rest : Awaits (next answer) course) :
      Awaits (ask question next) (⟨question, answer⟩ :: course)

theorem awaits_question (question : Question) (next : Answer question → Program Answer α) :
  ((Program.question question).bind next).Awaits []
  := .asked question next

/-- A program that was answered waits if what follows the answer does. -/
theorem Awaits.question_bind {question : Question} {next : Answer question → Program Answer α}
    {answer : Answer question} (rest : (next answer).Awaits course) :
  ((Program.question question).bind next).Awaits (⟨question, answer⟩ :: course)
  := .answered rest

/-- A program waits where it is left with a question. -/
theorem awaits_iff_exists_pends {program : Program Answer α} :
  program.Awaits course ↔ ∃ posed, program.Pends course posed
  := by
  constructor
  · intro h
    induction h with
    | asked question next => exact ⟨question, .asked question next⟩
    | answered _ ih =>
      obtain ⟨posed, pends⟩ := ih
      exact ⟨posed, pends.answered⟩
  · rintro ⟨posed, h⟩
    induction h with
    | asked question next => apply Awaits.asked
    | answered _ ih => apply Awaits.answered ih

/-- A program waits if the one that follows another one waits after that came to a result. -/
theorem Takes.awaits_bind {program : Program Answer α} {f : α → Program Answer β}
    {first second : List (Exchange Answer)} {result : α}
    (h : program.Takes first (some result)) (waits : (f result).Awaits second) :
  (program.bind f).Awaits (first ++ second)
  := by
  obtain ⟨posed, pends⟩ := awaits_iff_exists_pends.mp waits
  exact awaits_iff_exists_pends.mpr ⟨posed, h.pends_bind pends⟩

/-- A program that waits is followed by none yet. -/
theorem Awaits.bind {program : Program Answer α} {f : α → Program Answer β}
    (h : program.Awaits course) :
  (program.bind f).Awaits course
  := by
  obtain ⟨posed, pends⟩ := awaits_iff_exists_pends.mp h
  exact awaits_iff_exists_pends.mpr ⟨posed, pends.bind⟩

/-- A program that came to a result does not wait. -/
theorem Takes.not_awaits {program : Program Answer α} {result : α}
    (h : program.Takes course (some result)) :
  ¬ program.Awaits course
  := by
  intro awaits
  induction awaits with
  | asked question next => cases h
  | answered _ ih =>
    cases h with
    | answered rest => exact ih rest

/-- A program leaves the calendar at the end of a course. -/
inductive Leaves : Program Answer α → List (Exchange Answer) → Prop
  | overflow : Leaves overflow []
  | answered {question : Question} {next : Answer question → Program Answer α}
      {answer : Answer question} {course : List (Exchange Answer)}
      (rest : Leaves (next answer) course) :
      Leaves (ask question next) (⟨question, answer⟩ :: course)

theorem not_leaves_done {result : α} :
  ¬ (done result : Program Answer α).Leaves course
  := by
  rintro ⟨⟩

theorem leaves_overflow :
  (overflow : Program Answer α).Leaves course ↔ course = []
  := by
  constructor
  · rintro ⟨⟩
    rfl
  · rintro rfl
    apply Leaves.overflow

/-- A date that is not in the calendar is where a program leaves it. -/
theorem leaves_ofOption {value? : Option α} :
  (ofOption value? : Program Answer α).Leaves course ↔ course = [] ∧ value? = none
  := by
  cases value? with
  | none => exact leaves_overflow.trans (and_iff_left rfl).symm
  | some value => exact iff_of_false nofun nofun

/-- A program followed by another one leaves the calendar where the first does, and where the
second does once the first came to a result. -/
theorem leaves_bind {program : Program Answer α} {f : α → Program Answer β} :
  (program.bind f).Leaves course ↔
    program.Leaves course ∨
      ∃ result first second, course = first ++ second ∧ program.Takes first (some result) ∧
        (f result).Leaves second
  := by
  induction program generalizing course with
  | done result =>
    constructor
    · exact fun leaves => .inr ⟨result, [], course, rfl, .done result, leaves⟩
    · rintro (⟨⟨⟩⟩ | ⟨_, _, second, rfl, ⟨⟩, leaves⟩)
      apply leaves
  | overflow =>
    constructor
    · exact fun leaves => .inl (leaves_overflow.mpr (leaves_overflow.mp leaves))
    · rintro (⟨⟨⟩⟩ | ⟨_, _, _, _, ⟨⟩, _⟩)
      exact .overflow
  | ask question next ih =>
    constructor
    · rintro (_ | leaves)
      obtain leaves | ⟨result, first, second, rfl, ends, leaves⟩ := (ih _).mp leaves
      · exact .inl (.answered leaves)
      · exact .inr ⟨result, _, second, rfl, .answered ends, leaves⟩
    · rintro ((_ | leaves) | ⟨result, first, second, rfl, ends, leaves⟩)
      · exact .answered ((ih _).mpr (.inl leaves))
      · obtain ⟨-, ⟨⟩⟩ | ⟨answer, rest, rfl, goes⟩ := takes_ask.mp ends
        exact .answered ((ih answer).mpr (.inr ⟨result, rest, second, rfl, goes, leaves⟩))

/-- A program followed by another one that leaves the calendar after the first came to a result
does so in the other one. -/
theorem Leaves.rest {program : Program Answer α} {f : α → Program Answer β}
    {first second : List (Exchange Answer)} {result : α}
    (h : (program.bind f).Leaves (first ++ second)) (ends : program.Takes first (some result)) :
  (f result).Leaves second
  := by
  induction program generalizing first with
  | done _ =>
    obtain ⟨rfl, ⟨⟩⟩ := takes_done.mp ends
    exact h
  | overflow => cases ends
  | ask question next ih =>
    obtain ⟨-, ⟨⟩⟩ | ⟨answer, rest, rfl, next_ends⟩ := takes_ask.mp ends
    cases h with
    | answered leaves => exact ih answer leaves next_ends

/-- A program comes to a result, whatever it is answered. -/
def Stays : Program Answer α → Prop
  | done _ => True
  | overflow => False
  | ask _ next => ∀ answer, (next answer).Stays

/-- Programs that stay in the calendar one after the other stay in it together. -/
theorem Stays.bind {program : Program Answer α} {f : α → Program Answer β}
    (first : program.Stays) (second : ∀ result, (f result).Stays) :
  (program.bind f).Stays
  := by
  induction program with
  | done result => apply second
  | overflow => cases first
  | ask question next ih => exact fun answer => ih answer (first answer)

theorem stays_attempt_bind {program : ExceptT ε (Program Answer) α}
    {f : α → ExceptT ε (Program Answer) β} (first : Stays program)
    (second : ∀ result, Stays (f result)) :
  Stays (program >>= f : ExceptT ε (Program Answer) β)
  := by
  apply Stays.bind first
  rintro (_ | result)
  · trivial
  · apply second

/-- A program that is carried out over a list stays in the calendar if it does for each member. -/
theorem stays_attempt_mapM {f : α → ExceptT ε (Program Answer) β} (h : ∀ a, Stays (f a))
    (list : List α) :
  Stays (list.mapM f : ExceptT ε (Program Answer) (List β))
  := by
  induction list with
  | nil =>
    rw [List.mapM_nil]
    trivial
  | cons a list ih =>
    rw [List.mapM_cons]
    apply stays_attempt_bind (h a)
    intro b
    apply stays_attempt_bind ih
    intro bs
    trivial

/-- A program that stays in the calendar leaves it on no course. -/
theorem Stays.not_leaves {program : Program Answer α} (stays : program.Stays) :
  ¬ program.Leaves course
  := by
  intro leaves
  induction leaves with
  | overflow => exact stays
  | answered _ ih => exact ih (stays _)

/-- Only an answer that is due keeps such a program from its result. -/
theorem Stays.awaits {program : Program Answer α} (stays : program.Stays)
    (h : program.Takes course none) :
  program.Awaits course
  := by
  induction program generalizing course with
  | done _ => cases h
  | overflow => cases stays
  | ask question next ih =>
    obtain ⟨rfl, -⟩ | ⟨answer, rest, rfl, goes⟩ := takes_ask.mp h
    · apply Awaits.asked
    · apply Awaits.answered (ih answer (stays answer) goes)

/-! ## What a program may ask -/

/-- A program asks no questions but those that it may ask. -/
def Asks (may : Question → Prop) : Program Answer α → Prop
  | done _ | overflow => True
  | ask question next => may question ∧ ∀ answer, (next answer).Asks may

theorem asks_question_bind {may : Question → Prop} {question : Question}
    {next : Answer question → Program Answer α} (first : may question)
    (second : ∀ answer, (next answer).Asks may) :
  ((Program.question question).bind next).Asks may
  := ⟨first, second⟩

theorem asks_ofOption {may : Question → Prop} {value? : Option α} :
  (ofOption value? : Program Answer α).Asks may
  := by
  cases value? <;> trivial

/-- A program followed by another one asks what it may ask if both do. -/
theorem asks_bind {may : Question → Prop} {program : Program Answer α}
    {f : α → Program Answer β} (first : program.Asks may) (second : ∀ result, (f result).Asks may) :
  (program.bind f).Asks may
  := by
  induction program with
  | done result => apply second
  | overflow => trivial
  | ask question next ih => exact ⟨first.1, fun answer => ih answer (first.2 answer)⟩

/-- Where the first fails the other one is not asked for anything. -/
theorem asks_attempt_bind {may : Question → Prop} {program : ExceptT ε (Program Answer) α}
    {f : α → ExceptT ε (Program Answer) β} (first : Asks may program)
    (second : ∀ result, Asks may (f result)) :
  Asks may (program >>= f : ExceptT ε (Program Answer) β)
  := by
  apply asks_bind first
  rintro (_ | result)
  · trivial
  · apply second

/-- What may be asked under one condition may be asked under a weaker one. -/
theorem Asks.mono {may may' : Question → Prop} (weaker : ∀ question, may question → may' question)
    {program : Program Answer α} (h : program.Asks may) :
  program.Asks may'
  := by
  induction program with
  | done _ => trivial
  | overflow => trivial
  | ask question next ih => exact ⟨weaker _ h.1, fun answer => ih answer (h.2 answer)⟩

/-- What is asked on a course of a program is what the program may ask. -/
theorem Takes.asked {may : Question → Prop} {program : Program Answer α}
    (h : program.Takes course result?) (asks : program.Asks may) :
  ∀ exchange ∈ course, may exchange.question
  := by
  induction h with
  | done _ => simp
  | overflow => simp
  | givenUp _ _ => simp
  | answered _ ih =>
    rintro exchange (_ | ⟨_, found⟩)
    · apply asks.1
    · apply ih (asks.2 _) exchange found

theorem asks_attempt_ask {may : Question → Prop} {question : Question}
    {next : Answer question → ExceptT ε (Program Answer) α} (first : may question)
    (second : ∀ answer, Asks may (next answer)) :
  Asks may (liftM (Program.question question) >>= next : ExceptT ε (Program Answer) α)
  := ⟨first, second⟩

/-- A program that is carried out over a list asks what it may ask if it does so for each member. -/
theorem asks_attempt_mapM {may : Question → Prop} {f : α → ExceptT ε (Program Answer) β}
    {list : List α} (h : ∀ a ∈ list, Asks may (f a)) :
  Asks may (list.mapM f : ExceptT ε (Program Answer) (List β))
  := by
  induction list with
  | nil =>
    rw [List.mapM_nil]
    trivial
  | cons a list ih =>
    obtain ⟨first, others⟩ := List.forall_mem_cons.mp h
    rw [List.mapM_cons]
    apply asks_attempt_bind first
    intro b
    apply asks_attempt_bind (ih others)
    intro bs
    trivial

/-! ## What a program comes to -/

/-- A program comes to no results but those that satisfy a condition. -/
def Ends (post : α → Prop) : Program Answer α → Prop
  | done result => post result
  | overflow => True
  | ask _ next => ∀ answer, (next answer).Ends post

/-- A program followed by another one comes to what the other one comes to after each result of the
first. -/
theorem ends_bind {post : β → Prop} {program : Program Answer α} {f : α → Program Answer β}
    (h : program.Ends fun result => (f result).Ends post) :
  (program.bind f).Ends post
  := by
  induction program with
  | done result => exact h
  | overflow => trivial
  | ask question next ih => exact fun answer => ih answer (h answer)

/-- Results that satisfy a condition satisfy a weaker one. -/
theorem Ends.mono {post post' : α → Prop} (weaker : ∀ result, post result → post' result)
    {program : Program Answer α} (h : program.Ends post) :
  program.Ends post'
  := by
  induction program with
  | done result => exact weaker result h
  | overflow => trivial
  | ask question next ih => exact fun answer => ih answer (h answer)

theorem ends_of_forall {post : α → Prop} (h : ∀ result, post result) (program : Program Answer α) :
  program.Ends post
  := by
  induction program with
  | done result => apply h
  | overflow => trivial
  | ask question next ih => exact ih

/-- The result on a course of a program is one that the program can come to. -/
theorem Takes.ends {post : α → Prop} {program : Program Answer α} {result : α}
    (h : program.Takes course (some result)) (ends : program.Ends post) :
  post result
  := by
  induction program generalizing course with
  | done _ =>
    obtain ⟨-, ⟨⟩⟩ := takes_done.mp h
    apply ends
  | overflow => cases h
  | ask question next ih =>
    obtain ⟨-, ⟨⟩⟩ | ⟨answer, rest, rfl, goes⟩ := takes_ask.mp h
    apply ih answer goes (ends answer)

/-- What holds of the result on every course holds of all results. -/
theorem ends_of_takes {post : α → Prop} {program : Program Answer α}
    (h : ∀ course result, program.Takes course (some result) → post result) :
  program.Ends post
  := by
  induction program with
  | done result => exact h [] result (.done result)
  | overflow => trivial
  | ask question next ih =>
    exact fun answer => ih answer fun course result ends => h _ result (.answered ends)

/-- What follows a program has to ask only what it may on the results that the program comes
to. -/
theorem asks_bind_of_ends {may : Question → Prop} {program : Program Answer α}
    {f : α → Program Answer β} (first : program.Asks may)
    (second : program.Ends fun result => (f result).Asks may) :
  (program.bind f).Asks may
  := by
  induction program with
  | done result => exact second
  | overflow => trivial
  | ask question next ih =>
    exact ⟨first.1, fun answer => ih answer (first.2 answer) (second answer)⟩

/-- A program comes to a result that satisfies a condition, whatever it is answered. -/
def Returns (post : α → Prop) : Program Answer α → Prop
  | done result => post result
  | overflow => False
  | ask _ next => ∀ answer, (next answer).Returns post

/-- A program returns results that satisfy a condition exactly if it stays in the calendar and comes
to no other results. -/
theorem returns_iff {post : α → Prop} {program : Program Answer α} :
  program.Returns post ↔ program.Stays ∧ program.Ends post
  := by
  induction program with
  | done result => exact (iff_of_eq (true_and _)).symm
  | overflow => exact iff_of_false id And.left
  | ask question next ih => exact (forall_congr' ih).trans forall_and

/-- Total correctness of a program followed by another one, from that of the two. -/
theorem Returns.bind {post : β → Prop} {program : Program Answer α} {f : α → Program Answer β}
    (h : program.Returns fun result => (f result).Returns post) :
  (program.bind f).Returns post
  := by
  induction program with
  | done result => exact h
  | overflow => cases h
  | ask question next ih => exact fun answer => ih answer (h answer)

theorem Returns.mono {post post' : α → Prop} (weaker : ∀ result, post result → post' result)
    {program : Program Answer α} (h : program.Returns post) :
  program.Returns post'
  := by
  obtain ⟨stays, ends⟩ := returns_iff.mp h
  exact returns_iff.mpr ⟨stays, ends.mono weaker⟩

/-- A program that may fail either fails with a cause, or ends with a value. -/
def Meets (value : α → Prop) (cause : ε → Prop) : Except ε α → Prop
  | .ok a => value a
  | .error e => cause e

/-- A program that may fail ends in its own failures, or as the one that follows it. -/
theorem ends_attempt_bind {value : β → Prop} {cause : ε → Prop}
    {program : ExceptT ε (Program Answer) α} {f : α → ExceptT ε (Program Answer) β}
    (h : Ends (Meets (fun a => Ends (Meets value cause) (f a)) cause) program) :
  Ends (Meets value cause) (program >>= f : ExceptT ε (Program Answer) β)
  := by
  apply ends_bind
  apply h.mono
  rintro (e | a) holds
  · apply holds
  · apply holds

theorem ends_attempt_ask {post : Except ε α → Prop} {question : Question}
    {next : Answer question → ExceptT ε (Program Answer) α}
    (h : ∀ answer, Ends post (next answer)) :
  Ends post (liftM (Program.question question) >>= next : ExceptT ε (Program Answer) α)
  := h

theorem ends_attempt_mapM {cause : ε → Prop} {f : α → ExceptT ε (Program Answer) β}
    (h : ∀ a, Ends (Meets (fun _ => True) cause) (f a)) (list : List α) :
  Ends (Meets (fun _ => True) cause) (list.mapM f : ExceptT ε (Program Answer) (List β))
  := by
  induction list with
  | nil =>
    rw [List.mapM_nil]
    trivial
  | cons a list ih =>
    rw [List.mapM_cons]
    apply ends_attempt_bind
    apply (h a).mono
    rintro (e | b) holds
    · apply holds
    apply ends_attempt_bind
    apply ih.mono
    rintro (e | bs) holds
    · apply holds
    · trivial

/-! ## Questions with and without an answer -/

/-- A program asks a question along a course, whether it is answered there or not. -/
inductive Poses : Program Answer α → List (Exchange Answer) → Question → Prop
  | now (question : Question) (next : Answer question → Program Answer α)
      (course : List (Exchange Answer)) :
      Poses (ask question next) course question
  | later {question posed : Question} {next : Answer question → Program Answer α}
      {answer : Answer question} {course : List (Exchange Answer)}
      (rest : Poses (next answer) course posed) :
      Poses (ask question next) (⟨question, answer⟩ :: course) posed

variable {posed : Question}

@[simp]
theorem not_poses_done {result : α} :
  ¬ (done result : Program Answer α).Poses course posed
  := nofun

/-- A program that asks poses its question first, and then what follows the answer. -/
theorem poses_ask {question : Question} {next : Answer question → Program Answer α} :
  (ask question next).Poses course posed ↔
    posed = question ∨
      ∃ answer rest, course = ⟨question, answer⟩ :: rest ∧ (next answer).Poses rest posed
  := by
  constructor
  · rintro (_ | rest)
    · exact .inl rfl
    · exact .inr ⟨_, _, rfl, rest⟩
  · rintro (rfl | ⟨answer, rest, rfl, poses⟩)
    · apply Poses.now
    · apply Poses.later poses

/-- A program followed by another one asks what the first asks, and what the second asks once
the first came to a result. -/
theorem poses_question_bind {question : Question} {next : Answer question → Program Answer α} :
  ((Program.question question).bind next).Poses course posed ↔
    posed = question ∨
      ∃ answer rest, course = ⟨question, answer⟩ :: rest ∧ (next answer).Poses rest posed
  := poses_ask

theorem poses_bind {program : Program Answer α} {f : α → Program Answer β} :
  (program.bind f).Poses course posed ↔
    program.Poses course posed ∨
      ∃ result first second, course = first ++ second ∧ program.Takes first (some result) ∧
        (f result).Poses second posed
  := by
  induction program generalizing course with
  | done result =>
    constructor
    · exact fun poses => .inr ⟨result, [], course, rfl, .done result, poses⟩
    · rintro (⟨⟨⟩⟩ | ⟨_, _, second, rfl, ⟨⟩, poses⟩)
      apply poses
  | overflow =>
    constructor
    · nofun
    · rintro (⟨⟨⟩⟩ | ⟨_, _, _, _, ⟨⟩, _⟩)
  | ask question next ih =>
    constructor
    · rintro (_ | poses)
      · exact .inl (.now ..)
      · obtain poses | ⟨result, first, second, rfl, ends, poses⟩ := (ih _).mp poses
        · exact .inl (.later poses)
        · exact .inr ⟨result, _, second, rfl, .answered ends, poses⟩
    · rintro ((_ | poses) | ⟨result, first, second, rfl, ends, poses⟩)
      · apply Poses.now
      · exact .later ((ih _).mpr (.inl poses))
      · obtain ⟨-, ⟨⟩⟩ | ⟨answer, rest, rfl, goes⟩ := takes_ask.mp ends
        exact .later ((ih answer).mpr (.inr ⟨result, rest, second, rfl, goes, poses⟩))

/-- What is answered along a course is asked. -/
theorem Takes.poses {program : Program Answer α} (h : program.Takes course result?)
    {exchange : Exchange Answer} (found : exchange ∈ course) :
  program.Poses course exchange.question
  := by
  induction h with
  | done | overflow | givenUp => cases found
  | answered rest ih =>
    obtain _ | ⟨_, found⟩ := found
    · apply Poses.now
    · apply Poses.later (ih found)

/-- A program that came to a result was answered whatever it asked. -/
theorem Poses.answered {program : Program Answer α} (h : program.Poses course posed) {result : α}
    (ends : program.Takes course (some result)) :
  ∃ exchange ∈ course, exchange.question = posed
  := by
  induction h with
  | now question next course =>
    obtain ⟨-, ⟨⟩⟩ | ⟨answer, rest, rfl, -⟩ := takes_ask.mp ends
    exact ⟨_, List.mem_cons_self, rfl⟩
  | later rest ih =>
    obtain ⟨-, ⟨⟩⟩ | ⟨answer, rest, ⟨⟩, goes⟩ := takes_ask.mp ends
    obtain ⟨exchange, found, same⟩ := ih goes
    exact ⟨exchange, List.mem_cons_of_mem _ found, same⟩

/-- A program poses no question that it may not ask. -/
theorem Poses.asked {may : Question → Prop} {program : Program Answer α}
    (h : program.Poses course posed) (asks : program.Asks may) :
  may posed
  := by
  induction h with
  | now question next course => exact asks.1
  | later rest ih => exact ih (asks.2 _)

/-! ## Courses in given surroundings -/

section

variable {σ : Type} (answer : (question : Question) → StateM σ (Answer question))

/-- The course of a program that is run in surroundings with a state. -/
def courseIn : Program Answer α → σ → List (Exchange Answer)
  | done _, _ | overflow, _ => []
  | ask question next, s =>
    let (given, s) := answer question s
    ⟨question, given⟩ :: (next given).courseIn s

/-- A program followed by another one is run to its end, and then the other one is run from
there. -/
theorem runIn_bind (program : Program Answer α) (f : α → Program Answer β) (s : σ) :
  (program.bind f).run answer s =
    match program.run answer s with
    | (some result, s) => (f result).run answer s
    | (none, s) => (none, s)
  := by
  simp only [run_bind, bind, StateT.bind]
  rcases program.run answer s with ⟨_ | result, s⟩
  · rfl
  · rfl

/-- The course of two programs one after the other is that of the first and then that of the second.
-/
theorem courseIn_bind (program : Program Answer α) (f : α → Program Answer β) (s : σ) :
  (program.bind f).courseIn answer s =
    program.courseIn answer s ++
      match program.run answer s with
      | (some result, s) => (f result).courseIn answer s
      | (none, _) => []
  := by
  induction program generalizing s with
  | done result => rfl
  | overflow => rfl
  | ask question next ih => exact congrArg (_ :: ·) (ih _ _)

/-- A program takes the course of its run, and comes to the result of the run. -/
theorem takes_courseIn (program : Program Answer α) (s : σ) :
  program.Takes (program.courseIn answer s) (program.run answer s).1
  := by
  induction program generalizing s with
  | done result => apply Takes.done
  | overflow => apply Takes.overflow
  | ask question next ih => apply Takes.answered (ih _ _)

/-- On the course of a run the surroundings answer, in whatever state they are then. -/
theorem exists_state_of_mem_courseIn {program : Program Answer α} {s : σ} {question : Question}
    {given : Answer question} (found : ⟨question, given⟩ ∈ program.courseIn answer s) :
  ∃ s', given = (answer question s').1
  := by
  induction program generalizing s with
  | done result => cases found
  | overflow => cases found
  | ask question' next ih =>
    obtain ⟨⟩ | ⟨_, found⟩ := found
    · exact ⟨s, rfl⟩
    · apply ih _ found

/-- A program that is run is answered whatever it asks. -/
theorem not_pends_courseIn (program : Program Answer α) (s : σ) (posed : Question) :
  ¬ program.Pends (program.courseIn answer s) posed
  := by
  induction program generalizing s with
  | done | overflow => nofun
  | ask question next ih =>
    rintro (_ | pends)
    exact ih _ _ pends

end

end Program

end CloudOperator
