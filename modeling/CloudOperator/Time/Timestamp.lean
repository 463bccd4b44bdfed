import CloudOperator.Time.Calendar
import CloudOperator.Time.Instant

/-!
# Timestamps

The text form of instants after RFC 3339.  `Timestamp.read` takes any offset and
any number of decimals; the writers give UTC with a `Z`, cut to the second, the
millisecond or the nanosecond.  A leap second is written as second 60.
-/

namespace CloudOperator

namespace Timestamp

/-- The value of a decimal digit. -/
def digit? (c : Char) : Option Nat :=
  if '0' ≤ c ∧ c ≤ '9' then some (c.toNat - '0'.toNat) else none

/-- The value of two decimal digits. -/
def pair? (a b : Char) : Option Nat := do
  return 10 * (← digit? a) + (← digit? b)

/-- The number that decimal digits denote. -/
def ofDigits (digits : List Char) : Nat :=
  digits.foldl (fun n c => 10 * n + (c.toNat - '0'.toNat)) 0

/-- The nanoseconds that the decimals of a second denote; decimals after the ninth
are dropped. -/
def nanosOfDecimals (decimals : List Char) : Nat :=
  ofDigits (decimals.take 9 ++ List.replicate (9 - decimals.length) '0')

/-- The nanoseconds written at the head of a text, if a point starts it, and the
rest of the text.  A point needs a digit after it. -/
def readDecimals : List Char → Option (Nat × List Char)
  | '.' :: rest =>
    match rest.takeWhile Char.isDigit with
    | [] => none
    | decimals => some (nanosOfDecimals decimals, rest.dropWhile Char.isDigit)
  | rest => some (0, rest)

/-- The seconds by which an offset from UTC lies east of it. -/
def readOffset : List Char → Option Int
  | ['Z'] | ['z'] => some 0
  | [sign, h, h', ':', m, m'] => do
    let hours ← pair? h h'
    let minutes ← pair? m m'
    if 23 < hours ∨ 59 < minutes then none
    let seconds : Int := 3600 * hours + 60 * minutes
    match sign with
    | '+' => return seconds
    | '-' | '\u2212' => return -seconds
    | _ => none
  | _ => none

/-- Whether a character separates the date from the time of day. -/
def isSeparator (c : Char) : Bool :=
  c == 'T' || c == 't' || c == ' '

/-- The instant of a date and a time of day that are `offset` seconds ahead of UTC, if
there is one.  Second 60 is a leap second. -/
def instant? (date : Date) (hour minute second nano : Nat) (offset : Int) : Option Instant :=
  let clock : Int := 3600 * hour + 60 * minute + min second 59 - offset
  let t : Instant := ⟨secondsPerDay * date.number + clock,
    nano + if second = 60 then 1_000_000_000 else 0⟩
  if date.IsValid ∧ date.IsInCalendar ∧ hour ≤ 23 ∧ minute ≤ 59 ∧ second ≤ 60 ∧
      t.IsInCalendar then
    some t
  else none

/-- The instant that a text denotes. -/
def readChars : List Char → Option Instant
  | y :: y' :: y'' :: y''' :: '-' :: m :: m' :: '-' :: d :: d' :: separator ::
      h :: h' :: ':' :: i :: i' :: ':' :: s :: s' :: rest => do
    let date : Date := ⟨100 * (← pair? y y') + (← pair? y'' y'''), ← pair? m m', ← pair? d d'⟩
    let hour ← pair? h h'
    let minute ← pair? i i'
    let second ← pair? s s'
    let (nano, zone) ← readDecimals rest
    let offset ← readOffset zone
    if isSeparator separator then instant? date hour minute second nano offset else none
  | _ => none

/-- The instant that an RFC 3339 text denotes, if it is one. -/
def read (text : String) : Option Instant :=
  readChars text.toList

/-- The decimal digit of a number below ten. -/
def digit (n : Nat) : Char :=
  Char.ofNat ('0'.toNat + n % 10)

/-- The last `width` digits of a number. -/
def digits : Nat → Nat → List Char
  | 0, _ => []
  | width + 1, n => digits width (n / 10) ++ [digit n]

/-- A year; outside of 0 to 9999 it has a sign and at least four digits. -/
def yearChars (year : Int) : List Char :=
  if 0 ≤ year ∧ year ≤ 9999 then digits 4 year.toNat
  else
    let n := year.natAbs
    (if year < 0 then '-' else '+') ::
      (if n ≤ 9999 then digits 4 n else Nat.toDigits 10 n)

/-- The date and the time of day of an instant, with the given characters after
the second. -/
def writeChars (t : Instant) (tail : List Char) : List Char :=
  let date := Date.ofNumber t.day
  let clock := t.clock.toNat
  let second := clock % 60 + if t.inLeapSecond then 1 else 0
  yearChars date.year ++ '-' :: digits 2 date.month ++ '-' :: digits 2 date.day ++ 'T' ::
    digits 2 (clock / 3600) ++ ':' :: digits 2 (clock / 60 % 60) ++ ':' :: digits 2 second ++
    tail

/-- The text of an instant, cut to whole seconds. -/
def seconds (t : Instant) : String :=
  String.ofList (writeChars t ['Z'])

/-- The text in seconds shows nothing but the second. -/
theorem seconds_startOfSecond (t : Instant) :
  seconds t.startOfSecond = seconds t
  := by
  have leap : t.startOfSecond.inLeapSecond ↔ t.inLeapSecond := by
    grind [Instant.startOfSecond, Instant.inLeapSecond]
  simp only [seconds, writeChars, leap]
  rfl

/-- The text of an instant, cut to milliseconds. -/
def millis (t : Instant) : String :=
  String.ofList (writeChars t ('.' :: digits 3 (t.nano / 1_000_000) ++ ['Z']))

/-- The text of an instant with nine decimals. -/
def nanos (t : Instant) : String :=
  String.ofList (writeChars t ('.' :: digits 9 t.nano ++ ['Z']))

end Timestamp

end CloudOperator
