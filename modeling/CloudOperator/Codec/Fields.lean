import CloudOperator.Codec.Basic

/-!
# Fields of records

A run of named fields is written as members of an object and read from members in
any order.  `f >> g` is the fields of `f` followed by those of `g`, and `Fields.as`
turns a tuple into a structure.  `Codec.record` is the codec of a record that may
also be given as an array of its fields, `Codec.tolerant` that of a record all of
whose fields may be absent, null or repeated.
-/

namespace CloudOperator

/-- The JSON form of a run of named fields. -/
structure Fields (α : Type) where
  /-- The names of the fields in order. -/
  names : List String
  encode : α → List (String × Json)
  decode : List (String × Json) → Option α
  /-- The schemas of the fields by name. -/
  properties : List (String × Json)
  /-- The names of the fields that cannot be absent. -/
  mandatory : List String

namespace Fields

variable {α β : Type}

/-- A field that cannot be absent. -/
def required (name : String) (codec : Codec α) : Fields α where
  names := [name]
  encode value := [(name, codec.encode value)]
  decode members := do codec.decode (← members.lookup name)
  properties := [(name, .object codec.schema)]
  mandatory := [name]

/-- A field that has a default where it is absent.  It is always written. -/
def defaulted (name : String) (codec : Codec α) (default : α) : Fields α where
  names := [name]
  encode value := [(name, codec.encode value)]
  decode members :=
    match members.lookup name with
    | none => some default
    | some json => codec.decode json
  properties := [(name, .object (Json.insertSorted "default" (codec.encode default) codec.schema))]
  mandatory := []

/-- The value of a field that may be absent or null. -/
def decodeOptional (name : String) (codec : Codec α) (members : List (String × Json)) :
    Option (Option α) :=
  match members.lookup name with
  | none | some .null => some none
  | some json => (codec.decode json).map some

/-- A field that may be absent or null.  It is written as null without a value. -/
def nullable (name : String) (codec : Codec α) : Fields (Option α) where
  names := [name]
  encode value := [(name, (value.map codec.encode).getD .null)]
  decode := decodeOptional name codec
  properties := [(name, .object (Codec.nullableSchema codec.schema))]
  mandatory := []

/-- A field that may be absent or null.  It is left out without a value. -/
def omittable (name : String) (codec : Codec α) : Fields (Option α) where
  names := [name]
  encode value := (value.map fun v => (name, codec.encode v)).toList
  decode := decodeOptional name codec
  properties := [(name, .object (Codec.nullableSchema codec.schema))]
  mandatory := []

/-- No fields at all. -/
def empty : Fields Unit where
  names := []
  encode _ := []
  decode _ := some ()
  properties := []
  mandatory := []

/-- The fields of `f` followed by those of `g`. -/
def and (f : Fields α) (g : Fields β) : Fields (α × β) where
  names := f.names ++ g.names
  encode value := f.encode value.1 ++ g.encode value.2
  decode members := do return (← f.decode members, ← g.decode members)
  properties := f.properties ++ g.properties
  mandatory := f.mandatory ++ g.mandatory

instance : HAndThen (Fields α) (Fields β) (Fields (α × β)) :=
  ⟨fun f g => f.and (g ())⟩

/-- The fields of a type whose values stand for those of another. -/
def as (f : Fields α) (forth : α → β) (back : β → α) : Fields β where
  names := f.names
  encode value := f.encode (back value)
  decode members := (f.decode members).map forth
  properties := f.properties
  mandatory := f.mandatory

/-- Fields whose schemas have the given description. -/
def described (f : Fields α) (description : String) : Fields α :=
  { f with
    properties := f.properties.map fun (name, schema) =>
      (name, .object (Json.insertSorted "description" (.text description) schema.members)) }

/-- Whether no name of the fields occurs twice among the members. -/
def Distinct (f : Fields α) (members : List (String × Json)) : Prop :=
  ((members.map (·.1)).filter (f.names.contains ·)).Nodup

instance (f : Fields α) (members : List (String × Json)) : Decidable (f.Distinct members) :=
  inferInstanceAs (Decidable (List.Nodup _))

/-- The value of fields none of which is given twice. -/
def decodeDistinct (f : Fields α) (members : List (String × Json)) : Option α :=
  if f.Distinct members then f.decode members else none

/-- A list of texts in order, each once. -/
def sortedTexts (texts : List String) : List Json :=
  (Json.canonicalMembers [] (texts.map fun text => (text, .null))).map fun (text, _) => .text text

/-- The schema of an object with these fields. -/
def schema (f : Fields α) : List (String × Json) :=
  [("properties", .object (Json.canonicalMembers [] f.properties))]
    ++ (if f.mandatory.isEmpty then [] else [("required", .array (sortedTexts f.mandatory))])
    ++ [("type", .text "object")]

end Fields

namespace Codec

variable {α : Type}

/-- The form of a record: an object, or an array of its fields in order whose last
ones may be missing. -/
def record (f : Fields α) : Codec α where
  encode value := .object (f.encode value)
  decode
    | .object members => f.decodeDistinct members
    | .array items =>
      if items.length ≤ f.names.length then f.decode (f.names.zip items) else none
    | _ => none
  schema := f.schema

/-- The form of a record all of whose fields may be absent: an object in which the
last of several values of a field counts, though each has to be one. -/
def tolerant (f : Fields α) : Codec α where
  encode value := .object (f.encode value)
  decode
    | .object members =>
      if members.all (fun member => (f.decode [member]).isSome) then
        f.decode (Json.lastOfEach members)
      else none
    | _ => none
  schema := f.schema

end Codec

end CloudOperator
