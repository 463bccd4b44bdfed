/-!
# Numerals

Natural numbers written in decimal digits, as settings give them.
-/

namespace CloudOperator

/-- The number that a text of decimal digits denotes, after an optional plus sign. -/
def readNumeral (text : String) : Option Nat :=
  let digits := match text.toList with
    | '+' :: rest => rest
    | cs => cs
  if digits ≠ [] ∧ digits.all Char.isDigit then
    some (digits.foldl (fun n c => 10 * n + (c.toNat - '0'.toNat)) 0)
  else none

/-- The number below `bound` that a text denotes. -/
def readNumeralBelow (bound : Nat) (text : String) : Option Nat :=
  (readNumeral text).filter (· < bound)

end CloudOperator
