import CloudOperator.Text.Blank
import CloudOperator.Time.Timestamp

/-!
# Timestamps with leeway

Timestamps as people write them: a number may lack its leading zeros, blanks may stand
before a number and around the marks between two, a year behind a sign may have any
length, the hours and the minutes of an offset need no colon between them, and UTC may
be called so.  `Timestamp.readWithLeeway` takes what `Timestamp.read` takes, and these
besides.
-/

namespace CloudOperator

namespace Timestamp

/-- What is read from the head of a text, and leaves the rest of it. -/
abbrev Reader (α : Type) :=
  StateT (List Char) Option α

namespace Reader

/-- The first character. -/
def character : Reader Char
  | [] => none
  | c :: rest => some (c, rest)

/-- All blanks at the head. -/
def blanks : Reader Unit :=
  modify (·.dropWhile isBlank)

/-- A mark between two numbers, with blanks before it. -/
def mark (c : Char) : Reader Unit := do
  blanks
  guard ((← character) = c)

/-- The value of digits, at least one and at most `width` of them. -/
def natural (width : Nat) : Reader Nat := fun cs =>
  match (cs.take width).takeWhile Char.isDigit with
  | [] => none
  | digits => some (ofDigits digits, cs.drop digits.length)

/-- A number of one or two digits, with blanks before it. -/
def number : Reader Nat := do
  blanks
  natural 2

/-- A year, with blanks before it.  It has up to four digits, or any number of them
behind a sign. -/
def year : Reader Int := do
  blanks
  match ← get with
  | '-' :: rest =>
    set rest
    return -(← natural rest.length)
  | '+' :: rest =>
    set rest
    return (← natural rest.length)
  | _ => return (← natural 4)

/-- The value of exactly two digits. -/
def pair : Reader Nat := do
  let a ← character
  let b ← character
  (pair? a b : Option Nat)

/-- The direction of an offset: positive to the east of UTC. -/
def direction : Reader Int := do
  match ← character with
  | '+' => return 1
  | '-' | '\u2212' => return -1
  | _ => failure

/-- The seconds of an offset of hours and minutes.  Colons and blanks may stand between
the two. -/
def hoursAndMinutes : Reader Int := do
  let sign ← direction
  let hours ← pair
  modify (·.dropWhile fun c => c == ':' || isBlank c)
  let minutes ← pair
  guard (hours ≤ 23 ∧ minutes ≤ 59)
  return sign * (3600 * hours + 60 * minutes)

/-- The seconds by which an offset from UTC lies east of it, with blanks before it. -/
def offset : Reader Int := do
  blanks
  let cs ← get
  if (cs.take 3).map Char.toUpper = "UTC".toList then
    set (cs.drop 3)
    return 0
  else if (cs.take 1).map Char.toUpper = ['Z'] then
    set (cs.drop 1)
    return 0
  else hoursAndMinutes

/-- An instant, with blanks around it and nothing else after it. -/
def instant : Reader Instant := do
  let year ← year
  mark '-'
  let month ← number
  mark '-'
  let day ← number
  guard (isSeparator (← character))
  let hour ← number
  mark ':'
  let minute ← number
  mark ':'
  let second ← number
  let nano ← readDecimals
  let offset ← offset
  blanks
  guard (← get).isEmpty
  (instant? ⟨year, month, day⟩ hour minute second nano offset : Option Instant)

end Reader

/-- The instant that a text denotes, if it does under the rules with leeway. -/
def readWithLeeway (text : String) : Option Instant :=
  (Reader.instant.run text.toList).map (·.1)

end Timestamp

end CloudOperator
