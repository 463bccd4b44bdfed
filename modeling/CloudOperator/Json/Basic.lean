/-!
# JSON values

Values of JSON as a reader finds them: the members of an object keep their order
and their repetitions, integers keep every digit, and other numbers keep their
literal.  A string literal with half of a surrogate pair stands for no text; it is
the value `Json.unpaired`, which nothing decodes.
-/

namespace CloudOperator

/-- A number literal that is no integer: one with decimals or an exponent, or a
negative zero. -/
structure Decimal where
  negative : Bool
  /-- The digits before the point. -/
  whole : Nat
  /-- The digits after the point. -/
  fraction : List Nat
  exponent : Int
deriving DecidableEq, Repr

/-- A JSON value. -/
inductive Json where
  | null
  | bool (value : Bool)
  | integer (value : Int)
  | decimal (literal : Decimal)
  | text (value : String)
  | unpaired
  | array (items : List Json)
  | object (members : List (String × Json))
deriving Repr, BEq, Inhabited

namespace Json

/-- The members of an object; other values have none. -/
def members : Json → List (String × Json)
  | object members => members
  | _ => []

/-- The value of the first member of that name. -/
def get? (json : Json) (name : String) : Option Json :=
  json.members.lookup name

/-- The value at the end of a path of names. -/
def at? (json : Json) : List String → Option Json
  | [] => some json
  | name :: path => do (← json.get? name).at? path

mutual

/-- The number of arrays and objects around the innermost value. -/
def depth : Json → Nat
  | array items => depthOfItems items + 1
  | object members => depthOfMembers members + 1
  | _ => 0

/-- The largest depth of a list of values. -/
def depthOfItems : List Json → Nat
  | [] => 0
  | item :: items => max (depth item) (depthOfItems items)

/-- The largest depth of the values of members. -/
def depthOfMembers : List (String × Json) → Nat
  | [] => 0
  | (_, value) :: members => max (depth value) (depthOfMembers members)

end

/-- The members with the value of `name` replaced, or added at the end. -/
def insertMember (name : String) (value : Json) : List (String × Json) → List (String × Json)
  | [] => [(name, value)]
  | (name', value') :: members =>
    if name' = name then (name, value) :: members
    else (name', value') :: insertMember name value members

/-- The members without those called `name`. -/
def eraseMember (name : String) (members : List (String × Json)) : List (String × Json) :=
  members.filter (·.1 ≠ name)

/-- The members in which the last of several values of a name counts. -/
def lastOfEach (members : List (String × Json)) : List (String × Json) :=
  members.foldl (fun kept (name, value) => insertMember name value kept) []

end Json

end CloudOperator
