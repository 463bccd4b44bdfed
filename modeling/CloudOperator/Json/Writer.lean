import CloudOperator.Json.Binary64

/-!
# Writing JSON

The compact text of a value, and the canonical form of a value in which the names
of every object are sorted and occur once and integers have at most 64 bits.
-/

namespace CloudOperator

namespace Json

/-- The two lower hexadecimal digits of a number. -/
def hexPair (n : Nat) : List Char :=
  [Nat.digitChar (n / 16 % 16), Nat.digitChar (n % 16)]

/-- A character as it stands in a string literal. -/
def encodeChar (c : Char) : List Char :=
  if c = '"' then ['\\', '"']
  else if c = '\\' then ['\\', '\\']
  else if c = '\n' then ['\\', 'n']
  else if c = '\r' then ['\\', 'r']
  else if c = '\t' then ['\\', 't']
  else if c = '\x08' then ['\\', 'b']
  else if c = '\x0c' then ['\\', 'f']
  else if c.toNat < 0x20 then ['\\', 'u', '0', '0'] ++ hexPair c.toNat
  else [c]

/-- The string literal of a text. -/
def quote (text : String) : String :=
  String.ofList ('"' :: text.toList.flatMap encodeChar ++ ['"'])

/-- The text of a number literal; zero stands for one that is out of range. -/
def writeDecimal (literal : Decimal) : String :=
  Shortest.render (literal.toFloat?.getD 0)

mutual

/-- The compact text of a value. -/
def write : Json → String
  | null => "null"
  | bool value => if value then "true" else "false"
  | integer value => toString value
  | decimal literal => writeDecimal literal
  | text value => quote value
  | unpaired => "null"
  | array items => "[" ++ ",".intercalate (writeItems items) ++ "]"
  | object members => "\x7b" ++ ",".intercalate (writeMembers members) ++ "\x7d"

/-- The texts of a list of values. -/
def writeItems : List Json → List String
  | [] => []
  | item :: items => write item :: writeItems items

/-- The texts of members. -/
def writeMembers : List (String × Json) → List String
  | [] => []
  | (name, value) :: members => (quote name ++ ":" ++ write value) :: writeMembers members

end

/-- The members with one more, in the order of the names; a name that is there
already gets the new value. -/
def insertSorted (name : String) (value : Json) : List (String × Json) → List (String × Json)
  | [] => [(name, value)]
  | (name', value') :: members =>
    if name = name' then (name, value) :: members
    else if name < name' then (name, value) :: (name', value') :: members
    else (name', value') :: insertSorted name value members

mutual

/-- The value with the names of every object sorted, each with its last value, and
with larger integers turned into floating-point numbers. -/
def canonical : Json → Json
  | integer value =>
    if Int64.minValue.toInt ≤ value ∧ value < UInt64.size then integer value
    else decimal ⟨value < 0, value.natAbs, [], 0⟩
  | array items => array (canonicalItems items)
  | object members => object (canonicalMembers [] members)
  | json => json

/-- The canonical forms of a list of values. -/
def canonicalItems : List Json → List Json
  | [] => []
  | item :: items => canonical item :: canonicalItems items

/-- The members sorted so far with the canonical forms of further ones. -/
def canonicalMembers (sorted : List (String × Json)) :
    List (String × Json) → List (String × Json)
  | [] => sorted
  | (name, value) :: members =>
    canonicalMembers (insertSorted name (canonical value) sorted) members

end

end Json

end CloudOperator
