import CloudOperator.Json.Binary64

/-!
# Limits of JSON values

A value that is read into memory as it stands, and not by a codec, has to be a
text that can be held: numbers in range, no half surrogate pair, and arrays and
objects nested to a limit.
-/

namespace CloudOperator

namespace Json

/-- How deep the arrays and objects of a text may be nested. -/
abbrev nestingLimit : Nat := 127

/-- Whether an integer literal is in range.  One that 64 bits suffice for is held as it
stands, and a longer one stands for a number of floating point. -/
def integerIsHoldable (value : Int) : Bool :=
  value.natAbs ≤ Decimal.largestSignificand
    || (Decimal.toFloat? ⟨false, value.natAbs, [], 0⟩).isSome

mutual

/-- Whether every number of a value is in range and every text is one. -/
def isHoldable : Json → Bool
  | unpaired => false
  | integer value => integerIsHoldable value
  | decimal literal => literal.toFloat?.isSome
  | array items => areHoldable items
  | object members => membersAreHoldable members
  | _ => true

/-- Whether every value of a list is holdable. -/
def areHoldable : List Json → Bool
  | [] => true
  | item :: items => isHoldable item && areHoldable items

/-- Whether the value of every member is holdable. -/
def membersAreHoldable : List (String × Json) → Bool
  | [] => true
  | (_, value) :: members => isHoldable value && membersAreHoldable members

end

/-- Whether a value inside of `outer` arrays and objects can be held. -/
def fitsInside (outer : Nat) (json : Json) : Bool :=
  json.isHoldable && outer + json.depth ≤ nestingLimit

end Json

end CloudOperator
