import CloudOperator.Json.Basic

/-!
# Numbers of JSON as binary floating point

A literal that is no integer stands for a number of 64-bit floating point.
`Decimal.toFloat?` reads one with a 64-bit significand and a power of ten, and
`Shortest.render` writes one with the fewest digits that read back, in positional
notation between `1e-5` and `1e16`.
-/

namespace CloudOperator

namespace Decimal

/-- The largest significand that is kept while digits are read. -/
abbrev largestSignificand : Nat := UInt64.size - 1

/-- The largest exponent that can be written. -/
abbrev largestExponent : Int := Int32.maxValue.toInt

/-- The significand and the exponent after the digits before the point.  Once a
digit does not fit, it and all further ones only raise the exponent. -/
def readWholeDigits : Nat → List Nat → Nat × Int
  | significand, [] => (significand, 0)
  | significand, d :: digits =>
    if largestSignificand < 10 * significand + d then (significand, digits.length + 1)
    else readWholeDigits (10 * significand + d) digits

/-- The significand and the exponent after the digits behind the point, which end
at the first digit that does not fit. -/
def readFractionDigits : Nat → Int → List Nat → Nat × Int
  | significand, exponent, [] => (significand, exponent)
  | significand, exponent, d :: digits =>
    if largestSignificand < 10 * significand + d then (significand, exponent)
    else readFractionDigits (10 * significand + d) (exponent - 1) digits

/-- The digits of a natural number. -/
def digitsOf (n : Nat) : List Nat :=
  (Nat.toDigits 10 n).map fun c => c.toNat - '0'.toNat

/-- A power of ten, rounded to the nearest number. -/
def powerOfTen (n : Nat) : Float :=
  Float.ofScientific 1 false n

/-- A number times a power of ten, if it is finite.  Negative powers are applied in
steps of at most 308; two of them take every significand to zero. -/
def scale? (fuel : Nat) (f : Float) (exponent : Int) : Option Float :=
  if exponent.natAbs ≤ 308 then
    if 0 ≤ exponent then
      let g := f * powerOfTen exponent.natAbs
      if g.isInf then none else some g
    else some (f / powerOfTen exponent.natAbs)
  else if f == 0 then some f
  else if 0 ≤ exponent then none
  else
    match fuel with
    | 0 => some 0
    | fuel + 1 => scale? fuel (f / powerOfTen 308) (exponent + 308)

/-- A significand times the sum of two powers of ten, of which the second was
written and the first counts digits, if it is finite. -/
def magnitude? (significand : Nat) (counted written : Int) : Option Float :=
  if largestExponent < written ∧ significand ≠ 0 then none
  else if largestExponent < written.natAbs then some 0
  else
    let exponent := max (-largestExponent - 1) (min largestExponent (counted + written))
    scale? 2 (Float.ofNat significand) exponent

/-- The number that a literal denotes, if it is in range. -/
def toFloat? (literal : Decimal) : Option Float := do
  let (significand, exponent) := readWholeDigits 0 (digitsOf literal.whole)
  let (significand, exponent) := readFractionDigits significand exponent literal.fraction
  let magnitude ← magnitude? significand exponent literal.exponent
  return if literal.negative then -magnitude else magnitude

end Decimal

namespace Shortest

/-- The number of fractions that the bits of a number can hold. -/
abbrev fractions : Nat := 4_503_599_627_370_496

/-- The number of exponents that the bits of a number can hold. -/
abbrev exponents : Nat := 2048

/-- The number of magnitudes that the bits of a number can hold, besides a sign. -/
abbrev magnitudes : Nat := fractions * exponents

/-- A positive number `value / unit` and the interval of numbers that round to it. -/
structure Interval where
  unit : Nat
  value : Nat
  low : Nat
  high : Nat
  /-- Whether the ends of the interval belong to it. -/
  closed : Bool

/-- The interval of a positive finite number, given by its bits. -/
def Interval.ofBits (bits : Nat) : Interval :=
  let fraction := bits % fractions
  let biased := bits / fractions % exponents
  let m := if biased = 0 then fraction else fraction + fractions
  let q : Int := (if biased = 0 then 1 else biased : Nat) - 1075
  let step := Nat.pow 2 q.toNat
  let value := 4 * m * step
  { unit := 4 * Nat.pow 2 (-q).toNat
    value := value
    low := value - (if fraction = 0 ∧ 1 < biased then step else 2 * step)
    high := value + 2 * step
    closed := m % 2 = 0 }

/-- Whether `numerator / denominator` rounds to the number of the interval. -/
def Interval.holds (i : Interval) (numerator denominator : Nat) : Bool :=
  let x := numerator * i.unit
  let low := i.low * denominator
  let high := i.high * denominator
  if i.closed then low ≤ x && x ≤ high else low < x && x < high

/-- The number of digits before the point; for numbers below one, the number of
zeros after the point, negated. -/
def Interval.point (i : Interval) : Int :=
  if i.unit ≤ i.value then (Nat.toDigits 10 (i.value / i.unit)).length
  else
    -(((List.range 400).find? fun j => i.unit ≤ i.value * Nat.pow 10 (j + 1)).getD 0 : Nat)

/-- The digits and the exponent of the nearest multiple of a power of ten with `n`
digits that rounds to the number, if there is one. -/
def Interval.withDigits? (i : Interval) (n : Nat) : Option (Nat × Int) :=
  let exponent := i.point - n
  let up := Nat.pow 10 exponent.toNat
  let down := Nat.pow 10 (-exponent).toNat
  let below := i.value * down / (i.unit * up)
  let fits (digits : Nat) : Bool := i.holds (digits * up) down
  let doubled := 2 * (i.value * down)
  let middle := (2 * below + 1) * (i.unit * up)
  let preferAbove := middle < doubled || (middle == doubled && below % 2 == 1)
  if preferAbove && fits (below + 1) then some (below + 1, exponent)
  else if fits below then some (below, exponent)
  else if fits (below + 1) then some (below + 1, exponent)
  else none

/-- The digits without zeros at their end, and the exponent. -/
def dropZeros : Nat → Nat → Int → Nat × Int
  | 0, digits, exponent => (digits, exponent)
  | fuel + 1, digits, exponent =>
    if digits % 10 = 0 ∧ digits ≠ 0 then dropZeros fuel (digits / 10) (exponent + 1)
    else (digits, exponent)

/-- The shortest digits that denote a positive finite number, and their exponent. -/
def digits (bits : Nat) : Nat × Int :=
  let i := Interval.ofBits bits
  let (digits, exponent) := ((List.range 17).findSome? fun n => i.withDigits? (n + 1)).getD (0, 0)
  dropZeros 20 digits exponent

/-- The digits of a number with a point, or with an exponent where the point would
be further than sixteen places to the right or five to the left. -/
def layOut (digits : List Char) (exponent : Int) : List Char :=
  let point := digits.length + exponent
  if 0 ≤ exponent ∧ point ≤ 16 then
    digits ++ List.replicate exponent.toNat '0' ++ ['.', '0']
  else if 0 < point ∧ point ≤ 16 then
    digits.take point.toNat ++ '.' :: digits.drop point.toNat
  else if -5 < point ∧ point ≤ 0 then
    '0' :: '.' :: List.replicate (-point).toNat '0' ++ digits
  else
    let mantissa := match digits with
      | [d] => [d]
      | d :: rest => d :: '.' :: rest
      | [] => []
    mantissa ++ 'e' :: (toString (point - 1)).toList

/-- The text of a finite number. -/
def render (f : Float) : String :=
  let bits := f.toBits.toNat
  let magnitude := bits % magnitudes
  let sign := if magnitudes ≤ bits then ['-'] else []
  if magnitude = 0 then String.ofList (sign ++ ['0', '.', '0'])
  else
    let (digits, exponent) := digits magnitude
    String.ofList (sign ++ layOut (Nat.toDigits 10 digits) exponent)

end Shortest

end CloudOperator
