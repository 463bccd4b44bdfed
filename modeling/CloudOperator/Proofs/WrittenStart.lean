import CloudOperator.Proofs.Debounce
import CloudOperator.Proofs.Moves
import CloudOperator.Proofs.Timestamp
import CloudOperator.Proofs.Turn

/-!
# Starts of phases that are written

A move that enters a phase writes the time as the start of the phase, and so does one of an object
that tells no start.  The text that is written is a timestamp in seconds
(`Task.writesStart_iff`), so whoever reads it in a status later finds the time cut to the second,
and times in different seconds are told apart (`Task.written_start_reads_back`).
-/

namespace CloudOperator

open Program

namespace Timestamp

/-- Readings of a clock have the same text just if they lie in the same second. -/
theorem seconds_inj {t u : Instant} (reading : t.IsReading) (reading' : u.IsReading) :
  seconds t = seconds u ↔ t.startOfSecond = u.startOfSecond
  := by
  constructor
  · intro same
    apply Option.some.inj
    rw [← read_seconds reading, same, read_seconds reading']
  · intro same
    rw [← seconds_startOfSecond t, same, seconds_startOfSecond]

end Timestamp

namespace Task

variable {K : Kind} {t : Task K} {settings : PassSettings} {move : Move} {now : Instant}
  {course : Course} {o : Object K} {text : String}

/-- A move writes the status of the moved object, and no other. -/
theorem eq_moved_of_poses (poses : (t.move settings move now).Poses course (.writeStatus K o)) :
  o = t.object.moved move now
  := by
  have asks : (t.move settings move now).Asks fun operation =>
      operation.isQuiet ∨ operation = .writeStatus K (t.object.moved move now) := by
    apply asks_bind asks_ofOption
    rintro (_ | duration)
    · apply asks_question_bind (.inr rfl)
      rintro (cause | stored)
      · trivial
      · dsimp only
        split
        · apply asks_question_bind (.inl (Operation.isQuiet_count _))
          intro _
          trivial
        · trivial
    · apply asks_question_bind (.inl (Operation.isQuiet_count _))
      intro _
      trivial
  obtain ⟨-, ⟨⟩⟩ | same := poses.asked asks
  injection same

/-- A move that does not have to wait writes the status of the moved object. -/
theorem poses_writeStatus
    (due : t.object.debounce? t.history settings.requeueInterval move now = some none) :
  (t.move settings move now).Poses [] (.writeStatus K (t.object.moved move now))
  := by
  rw [Task.move]
  apply poses_bind.mpr
  refine .inr ⟨none, [], [], rfl, takes_ofOption.mpr ⟨rfl, due.symm⟩, ?_⟩
  apply Poses.now

/-- At the time `now` a move writes a text as the start of its phase.  It enters the phase, or the
object told no start of it. -/
inductive WritesStart (now : Instant) (text : String) : Prop
  | written {K : Kind} {t : Task K} {settings : PassSettings} {move : Move} {course : Course}
      {o : Object K} (poses : (t.move settings move now).Poses course (.writeStatus K o))
      (starts : t.object.phase ≠ some move.phase ∨ t.object.phaseStartTime = none)
      (tells : o.phaseStartTime = some text)

/-- At every time just one text is written as a start. -/
theorem writesStart_iff :
  WritesStart now text ↔ text = Timestamp.seconds now
  := by
  constructor
  · rintro ⟨poses, starts, tells⟩
    rw [eq_moved_of_poses poses, Object.phaseStartTime_moved, if_pos starts] at tells
    exact (Option.some.inj tells).symm
  · rintro rfl
    have enters : Object.payments.phase ≠ some Move.initialized.phase := by decide
    have due : Object.payments.debounce? [] 0 .initialized now = some none :=
      Object.debounce?_of_leaving enters
    have poses : (Task.move ⟨.payments, []⟩ ⟨0, 0, ""⟩ .initialized now).Poses [] _ :=
      poses_writeStatus due
    refine .written poses (.inl enters) ?_
    rw [Object.phaseStartTime_moved, if_pos (.inl enters)]

/-- The text that is written as a start at what a clock reads is read back from every status as the
time cut to the second, and it is written in that second only. -/
theorem written_start_reads_back (reading : now.IsReading) :
  ∃ text, (∀ text', WritesStart now text' ↔ text' = text) ∧
    (∀ s : CommonStatus, s.phaseStartTime = some text →
      s.phaseStartedAt = some now.startOfSecond) ∧
    ∀ now', now'.IsReading →
      (WritesStart now' text ↔ now'.startOfSecond = now.startOfSecond)
  := by
  refine ⟨Timestamp.seconds now, fun _ => writesStart_iff, fun s told => ?_,
    fun now' reading' => ?_⟩
  · rw [CommonStatus.phaseStartedAt, told, Option.bind_some, Timestamp.read_seconds reading]
  · rw [writesStart_iff, Timestamp.seconds_inj reading reading']
    exact eq_comm

/-- The last nanosecond of a 29 February. -/
theorem written_start_reads_back_leap_day :
  WritesStart ⟨1709251199, 999_999_999⟩ "2024-02-29T23:59:59Z" ∧
    ∀ s : CommonStatus, s.phaseStartTime = some "2024-02-29T23:59:59Z" →
      s.phaseStartedAt = some ⟨1709251199, 0⟩
  := by
  have reading : Instant.IsReading ⟨1709251199, 999_999_999⟩ :=
    ⟨by decide, by decide, fun leap => absurd leap (by decide)⟩
  obtain ⟨text, unique, reads, -⟩ := written_start_reads_back reading
  have written : WritesStart ⟨1709251199, 999_999_999⟩ "2024-02-29T23:59:59Z" :=
    writesStart_iff.mpr (by decide +kernel)
  obtain rfl := (unique _).mp written
  exact ⟨written, reads⟩

end Task

end CloudOperator
