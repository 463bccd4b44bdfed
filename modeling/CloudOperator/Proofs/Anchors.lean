import CloudOperator.Proofs.Debounce
import Mathlib.Algebra.Group.Nat.Defs

/-!
# Writes counted from any start

The start of a phase is a text in the status, which anybody may have written.  A text that can be
read tells a year of four digits and an offset of less than a day, so it denotes an instant about
the years 0 to 9999 (`Timestamp.isNear_of_read`).  From such an instant the time of the next write
is in the calendar, and so it is decided whether a move has to wait
(`Object.exists_debounce?_of_isNear`).
-/

namespace CloudOperator

namespace Date

/-- The numbers of the days of the years 0 to 9999. -/
theorem number_bounds {d : Date} (valid : d.IsValid) (first : 0 ≤ d.year) (last : d.year ≤ 9999) :
  -719_528 ≤ d.number ∧ d.number < 2_932_900
  := by
  obtain ⟨-, inYear, inMonth⟩ := valid
  have long : ∀ leap, ∀ month < 13,
      daysBeforeMonth leap month ≤ 335 ∧ (monthLengths leap).getD (month - 1) 0 ≤ 31 := by
    decide
  have month : d.month < 13 := by
    apply Classical.byContradiction
    intro beyond
    have none : (monthLengths (isLeapYear d.year))[d.month - 1]? = none := by
      rw [List.getElem?_eq_none_iff, length_monthLengths]
      omega
    rw [List.getD_eq_getElem?_getD, none, Option.getD_none] at inMonth
    omega
  obtain ⟨before, length⟩ := long (isLeapYear d.year) d.month month
  simp only [number, yearOne, daysBeforeYear]
  omega

end Date

namespace Timestamp

/-- A digit is less than ten. -/
theorem toNat_sub_lt {c : Char} (most : c ≤ '9') :
  c.toNat - '0'.toNat < 10
  := by
  have most : c.toNat ≤ 57 := UInt32.le_iff_toNat_le.mp most
  change c.toNat - 48 < 10
  omega

theorem pair?_lt {a b : Char} {n : Nat} (h : pair? a b = some n) :
  n < 100
  := by
  have small {c : Char} {n : Nat} (h : digit? c = some n) : n < 10 := by
    rw [digit?] at h
    split at h
    · exact Option.some.inj h ▸ toNat_sub_lt ‹_ ∧ _›.2
    · cases h
  simp only [pair?, Option.bind_eq_bind, Option.bind_eq_some_iff] at h
  obtain ⟨tens, read, ones, read', ⟨⟩⟩ := h
  have tens := small read
  have ones := small read'
  omega

/-- Digits denote a number that has no more of them. -/
theorem foldl_digits_lt {digits : List Char} (all : ∀ c ∈ digits, c ≤ '9') (n : Nat) :
  digits.foldl (fun n c => 10 * n + (c.toNat - '0'.toNat)) n < (n + 1) * 10 ^ digits.length
  := by
  induction digits generalizing n with
  | nil =>
    rw [List.foldl_nil, List.length_nil, Nat.pow_zero, Nat.mul_one]
    exact Nat.lt_succ_self n
  | cons c digits ih =>
    obtain ⟨first, others⟩ := List.forall_mem_cons.mp all
    have small := toNat_sub_lt first
    rw [List.foldl_cons, List.length_cons, Nat.pow_succ, Nat.mul_comm _ 10, ← Nat.mul_assoc]
    apply Nat.lt_of_lt_of_le (ih others _)
    apply Nat.mul_le_mul_right
    omega

theorem nanosOfDecimals_lt {decimals : List Char} (all : ∀ c ∈ decimals, c.isDigit) :
  nanosOfDecimals decimals < 1_000_000_000
  := by
  have nine : (decimals.take 9 ++ List.replicate (9 - decimals.length) '0').length = 9 := by
    rw [List.length_append, List.length_take, List.length_replicate]
    omega
  have small : ∀ c ∈ decimals.take 9 ++ List.replicate (9 - decimals.length) '0', c ≤ '9' := by
    intro c found
    obtain found | found := List.mem_append.mp found
    · have digit := all c (List.mem_of_mem_take found)
      simp only [Char.isDigit, Bool.and_eq_true, decide_eq_true_eq] at digit
      exact digit.2
    · rw [List.eq_of_mem_replicate found]
      decide
  have bounded := foldl_digits_lt small 0
  rw [nine] at bounded
  exact bounded

theorem readDecimals_lt {text rest : List Char} {nano : Nat}
    (h : readDecimals text = some (nano, rest)) :
  nano < 1_000_000_000
  := by
  unfold readDecimals at h
  split at h
  · split at h
    · cases h
    · rename_i text _ _ _
      obtain ⟨rfl, -⟩ := Prod.mk.inj (Option.some.inj h)
      exact nanosOfDecimals_lt (List.all_eq_true.mp List.all_takeWhile)
  · cases h
    decide

theorem readOffset_bounds {text : List Char} {offset : Int} (h : readOffset text = some offset) :
  -86_400 < offset ∧ offset < 86_400
  := by
  unfold readOffset at h
  split at h
  · cases h; decide
  · cases h; decide
  · simp only [Option.bind_eq_bind, Option.bind_eq_some_iff] at h
    obtain ⟨hours, read, minutes, read', h⟩ := h
    split at h
    · cases h
    · split at h
      · cases h
        omega
      · cases h
        omega
      · cases h
        omega
      · cases h
  · cases h

/-- What a text denotes lies in the years 0 to 9999, up to the offset from UTC. -/
theorem isNear_of_read {text : String} {t : Instant} (h : read text = some t) :
  t.IsNear
  := by
  rw [read] at h
  unfold readChars at h
  split at h
  · simp only [Option.bind_eq_bind, Option.bind_eq_some_iff] at h
    obtain ⟨century, read, year, read', month, -, day, -, hour, -, minute, -, second, -,
      ⟨nano, zone⟩, decimals, offset, zoned, h⟩ := h
    split at h
    · simp only [instant?, Option.ite_none_right_eq_some, Option.some.injEq] at h
      obtain ⟨⟨valid, -, hours, minutes, seconds, -⟩, rfl⟩ := h
      have centuries := pair?_lt read
      have years := pair?_lt read'
      obtain ⟨least, most⟩ :=
        Date.number_bounds valid (by dsimp only; omega) (by dsimp only; omega)
      have nanos := readDecimals_lt decimals
      obtain ⟨west, east⟩ := readOffset_bounds zoned
      constructor
      · dsimp only [secondsPerDay]
        omega
      · dsimp only
        split
        · omega
        · omega
    · cases h
  · cases h

end Timestamp

/-- Whatever start the phase of an object has, it is decided whether a move has to wait. -/
theorem Object.exists_debounce?_of_isNear {K : Kind} {o : Object K} {history : WriteHistory}
    {interval : Nat} {now : Instant} (most : interval ≤ 1_000_000_000_000 * 1_000_000_000)
    (near : now.IsNear)
    (written : ∀ phase last, history.lastIn? o.key phase = some last → last.IsNear) (move : Move) :
  ∃ wait?, o.debounce? history interval move now = some wait?
  := by
  rw [debounce?]
  split
  · cases anchored : o.anchor? history move.phase with
    | none => exact ⟨none, rfl⟩
    | some anchor =>
      have anchor_isNear : anchor.IsNear := by
        obtain ⟨start, started, rfl⟩ := Option.map_eq_some_iff.mp anchored
        obtain ⟨s, -, told⟩ := Option.bind_eq_some_iff.mp started
        obtain ⟨text, -, read⟩ := Option.bind_eq_some_iff.mp told
        have start_isNear := Timestamp.isNear_of_read read
        split
        · exact (written _ _ ‹_›).max start_isNear
        · exact start_isNear
      obtain ⟨allowed, next⟩ := exists_nextAllowed? most anchor_isNear near
      dsimp only
      rw [next]
      exact ⟨_, rfl⟩
  · exact ⟨none, rfl⟩

end CloudOperator
