import CloudOperator.Json.Writer
import CloudOperator.Time.Leeway

/-!
# Codecs

A codec says how the values of a type are written as JSON, which JSON denotes them,
and which schema publishes that form.  This module holds codecs of simple values,
lists and enumerations; records are put together from fields in
`CloudOperator.Codec.Fields`.
-/

namespace CloudOperator

/-- The JSON form of the values of a type. -/
structure Codec (α : Type) where
  encode : α → Json
  /-- The value that a JSON value denotes, if it has the form. -/
  decode : Json → Option α
  /-- The members of the schema of the form. -/
  schema : List (String × Json)

namespace Codec

variable {α : Type}

/-- A codec with a description in its schema. -/
def described (codec : Codec α) (description : String) : Codec α :=
  { codec with schema := Json.insertSorted "description" (.text description) codec.schema }

/-- The schema of values of one JSON type. -/
def schemaOfType (type : String) : List (String × Json) :=
  [("type", .text type)]

/-- Texts. -/
def text : Codec String where
  encode := .text
  decode
    | .text value => some value
    | _ => none
  schema := schemaOfType "string"

/-- Truth values. -/
def flag : Codec Bool where
  encode := .bool
  decode
    | .bool value => some value
    | _ => none
  schema := schemaOfType "boolean"

/-- The schema of integers of a fixed width. -/
def schemaOfInteger (format : String) : List (String × Json) :=
  [("format", .text format), ("type", .text "integer")]

/-- Integers of 64 bits.  Only an integer literal in range denotes one. -/
def int64 : Codec Int64 where
  encode n := .integer n.toInt
  decode
    | .integer n =>
      if Int64.minValue.toInt ≤ n ∧ n ≤ Int64.maxValue.toInt then some (Int64.ofInt n) else none
    | _ => none
  schema := schemaOfInteger "int64"

/-- Integers of 32 bits.  Only an integer literal in range denotes one. -/
def int32 : Codec Int32 where
  encode n := .integer n.toInt
  decode
    | .integer n =>
      if Int32.minValue.toInt ≤ n ∧ n ≤ Int32.maxValue.toInt then some (Int32.ofInt n) else none
    | _ => none
  schema := schemaOfInteger "int32"

/-- Lists of values. -/
def list (codec : Codec α) : Codec (List α) where
  encode values := .array (values.map codec.encode)
  decode
    | .array items => items.mapM codec.decode
    | _ => none
  schema := [("items", .object codec.schema), ("type", .text "array")]

/-- The members of an object as names and values of one type; a name that occurs
again gets its last value, and the names are sorted. -/
def map (codec : Codec α) : Codec (List (String × α)) where
  encode entries := .object (entries.map fun (name, value) => (name, codec.encode value))
  decode
    | .object members => do
      let _ ← members.mapM fun (_, json) => codec.decode json
      (Json.canonicalMembers [] members).mapM fun (name, json) => do
        return (name, ← codec.decode json)
    | _ => none
  schema := [("additionalProperties", .object codec.schema), ("type", .text "object")]

/-- Any value. -/
def anything : Codec Json where
  encode json := json
  decode json := some json
  schema := []

/-- Instants as texts, read with leeway, and written in UTC and cut to whole seconds. -/
def instant : Codec Instant where
  encode t := .text (Timestamp.seconds t)
  decode
    | .text value => Timestamp.readWithLeeway value
    | _ => none
  schema := schemaOfType "string"

/-- The values of an enumeration, by name.  A name may also stand as the only
member of an object, with a value that `isMarker` admits. -/
def enumeration [BEq α] (isMarker : Json → Bool) (values : List (String × α)) : Codec α where
  encode value := .text (((values.find? (·.2 == value)).map (·.1)).getD "")
  decode
    | .text name => values.lookup name
    | .object [(name, json)] => if isMarker json then values.lookup name else none
    | _ => none
  schema := [("enum", .array (values.map fun (name, _) => .text name)), ("type", .text "string")]

/-- The schema of a value that may be null. -/
def nullableSchema (schema : List (String × Json)) : List (String × Json) :=
  let admitNull : Json → Json
    | .array items => .array (items ++ [.null])
    | json => json
  Json.insertSorted "nullable" (.bool true)
    (schema.map fun (name, json) => (name, if name = "enum" then admitNull json else json))

end Codec

end CloudOperator
