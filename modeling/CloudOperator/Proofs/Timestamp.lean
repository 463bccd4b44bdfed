import CloudOperator.Proofs.Calendar
import CloudOperator.Proofs.Elapsed
import CloudOperator.Time.Timestamp

/-!
# Timestamps that are read back

What a clock reads in the years 0 to 9999 is written with a year of four digits, so it is
read back from its timestamp in seconds, up to the decimals of the second
(`Timestamp.read_seconds`).
-/

namespace CloudOperator

/-- What a clock can read in the years 0 to 9999.  Only the last second of a minute is
followed by a leap second. -/
structure Instant.IsReading (t : Instant) : Prop where
  year : 0 ≤ (Date.ofNumber t.day).year ∧ (Date.ofNumber t.day).year ≤ 9999
  nano : t.nano < 2_000_000_000
  minute : t.inLeapSecond → t.clock % 60 = 59

namespace Instant

variable {t u : Instant}

/-- A clock can read a whole second of those years. -/
theorem IsReading.ofSecond {second : Int}
    (year : 0 ≤ (Date.ofNumber (second / 86400)).year ∧
      (Date.ofNumber (second / 86400)).year ≤ 9999) :
  IsReading ⟨second, 0⟩
  := ⟨year, by simp, by simp [inLeapSecond]⟩

theorem IsReading.startOfSecond (h : t.IsReading) :
  t.startOfSecond.IsReading
  where
  year := h.year
  nano := by
    rw [Instant.startOfSecond]
    dsimp only
    split
    · decide
    · decide
  minute leap := by
    apply h.minute
    rw [inLeapSecond, Instant.startOfSecond] at leap
    dsimp only at leap
    split at leap
    · assumption
    · contradiction

theorem second_eq (t : Instant) :
  t.second = 86400 * t.day + t.clock
  := (Int.mul_ediv_add_emod t.second secondsPerDay).symm

theorem clock_nonneg (t : Instant) :
  0 ≤ t.clock
  := Int.emod_nonneg t.second (by decide)

theorem clock_lt (t : Instant) :
  t.clock < 86400
  := Int.emod_lt_of_pos t.second (by decide)

/-- The years 0 to 9999 lie well within the calendar. -/
theorem IsReading.second (reading : t.IsReading) :
  -62_167_219_200 ≤ t.second ∧ t.second < 253_402_387_200
  := by
  obtain ⟨first, last⟩ := reading.year
  obtain ⟨least, most⟩ := Date.year_ofNumber t.day
  have second := t.second_eq
  have least' := t.clock_nonneg
  have most' := t.clock_lt
  simp only [Date.yearOne, Date.daysBeforeYear] at *
  omega

theorem IsReading.isNear (reading : t.IsReading) :
  t.IsNear
  where
  second := by
    have bounds := reading.second
    omega
  nano := reading.nano

end Instant

namespace Timestamp

theorem digit?_digit (n : Nat) :
  digit? (digit n) = some (n % 10)
  := by
  have each : ∀ d < 10, digit? (Char.ofNat ('0'.toNat + d)) = some d := by
    decide
  exact each (n % 10) (Nat.mod_lt n (by decide))

theorem pair?_digits {n : Nat} (two : n < 100) :
  pair? (digit (n / 10)) (digit n) = some n
  := by
  have tens : 10 * (n / 10 % 10) + n % 10 = n := by omega
  simp [pair?, digit?_digit, tens]

/-- A year of four digits is read as a century and a year of the century. -/
theorem pairs?_year {n : Nat} (four : n < 10000) :
  pair? (digit (n / 1000)) (digit (n / 100)) = some (n / 100) ∧
    pair? (digit (n / 10)) (digit n) = some (n % 100)
  := by
  constructor
  · have centuries := pair?_digits (n := n / 100) (by omega)
    rwa [Nat.div_div_eq_div_mul] at centuries
  · have years := pair?_digits (n := n % 100) (by omega)
    have tens : digit (n % 100 / 10) = digit (n / 10) := by
      rw [digit, digit]
      congr 2
      omega
    have ones : digit (n % 100) = digit n := by
      rw [digit, digit]
      congr 2
      omega
    rwa [tens, ones] at years

/-- The digits of a date and a time of day are read as the numbers that they denote. -/
theorem readChars_digits {year month day hour minute second : Nat} (years : year < 10000)
    (months : month < 100) (days : day < 100) (hours : hour < 100) (minutes : minute < 100)
    (seconds : second < 100) :
  readChars (digits 4 year ++ '-' :: digits 2 month ++ '-' :: digits 2 day ++ 'T' ::
      digits 2 hour ++ ':' :: digits 2 minute ++ ':' :: digits 2 second ++ ['Z']) =
    instant? ⟨year, month, day⟩ hour minute second 0 0
  := by
  obtain ⟨centuries, years⟩ := pairs?_year years
  have whole : 100 * ((year : Int) / 100) + (year : Int) % 100 = year := by omega
  simp only [digits, List.nil_append, List.cons_append, Nat.div_div_eq_div_mul, Nat.reduceMul,
    readChars, centuries, years, pair?_digits, months, days, hours, minutes,
    seconds, readDecimals, readOffset, isSeparator]
  simp [whole]

/-- The date and the time of day of what a clock reads denote the beginning of its second. -/
theorem instant?_reading {t : Instant} (reading : t.IsReading) :
  instant? (Date.ofNumber t.day) (t.clock.toNat / 3600) (t.clock.toNat / 60 % 60)
      (t.clock.toNat % 60 + if t.inLeapSecond then 1 else 0) 0 0
    = some t.startOfSecond
  := by
  have dated := t.second_eq
  have first := t.clock_nonneg
  have last := t.clock_lt
  have bounds := reading.second
  have leap := reading.minute
  have year := reading.year
  have time : 86400 * t.day + (3600 * (t.clock.toNat / 3600 : Nat)
      + 60 * (t.clock.toNat / 60 % 60 : Nat)
      + min (t.clock.toNat % 60 + if t.inLeapSecond then 1 else 0 : Nat) 59 - 0) = t.second := by
    split
    · have minute := leap ‹_›
      omega
    · omega
  have sixty : t.clock.toNat % 60 + (if t.inLeapSecond then 1 else 0) = 60 ↔ t.inLeapSecond := by
    split
    · have minute := leap ‹_›
      simp only [*, iff_true]
      omega
    · simp only [*, iff_false]
      omega
  simp only [instant?, Date.number_ofNumber, secondsPerDay, time, sixty, Nat.zero_add]
  rw [if_pos, Instant.startOfSecond]
  refine ⟨Date.isValid_ofNumber _, ?_, ?_, ?_, ?_, ?_⟩
  · rw [Date.IsInCalendar]
    omega
  · omega
  · omega
  · split
    · omega
    · omega
  · constructor
    · dsimp only [Instant.firstSecond]
      omega
    · dsimp only [Instant.lastSecond]
      omega

/-- What a clock reads is read back from its timestamp in seconds, without the decimals. -/
theorem read_seconds {t : Instant} (reading : t.IsReading) :
  read (seconds t) = some t.startOfSecond
  := by
  obtain ⟨first, last⟩ := reading.year
  obtain ⟨year, same⟩ := Int.eq_ofNat_of_zero_le first
  have month := Date.month_ofNumber t.day
  have day := Date.day_ofNumber t.day
  have clock := t.clock_lt
  rw [read, seconds, String.toList_ofList, writeChars, yearChars, if_pos ⟨first, last⟩, same,
    Int.toNat_natCast, readChars_digits, ← same]
  · apply instant?_reading reading
  · omega
  · omega
  · omega
  · omega
  · omega
  · split
    · omega
    · omega

end Timestamp

end CloudOperator
