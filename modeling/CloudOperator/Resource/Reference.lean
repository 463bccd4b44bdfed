import CloudOperator.Codec.Fields

/-!
# References

References from one object to another, by name.
-/

namespace CloudOperator

/-- A reference to an object by its name. -/
structure Reference where
  name : String
  /-- The namespace of the object, if it is given. -/
  ns : Option String
deriving DecidableEq, Repr

namespace Reference

/-- The fields of a reference. -/
def fields : Fields Reference :=
  (Fields.required "name" .text
    >> (Fields.omittable "namespace" .text).described
      "Defaults to the namespace of the referencing resource").as
    (fun (name, ns) => ⟨name, ns⟩) (fun r => (r.name, r.ns))

/-- References as records. -/
def codec : Codec Reference :=
  (Codec.record fields).described <| "\n".intercalate [
    "Reference to another Aruba resource by name",
    "",
    "Never carries the remote identifier: it is read from the referenced object's status",
    "every time the reference is resolved."]

/-- The namespace to look the object up in: the given one unless it is empty. -/
def namespaceOr (r : Reference) (fallback : String) : String :=
  match r.ns with
  | some ns => if ns = "" then fallback else ns
  | none => fallback

end Reference

/-- The location of a remote resource. -/
structure Location where
  value : String
deriving DecidableEq, Repr

namespace Location

/-- The fields of a location. -/
def fields : Fields Location :=
  ((Fields.required "value" .text).described "Location identifier (e.g., \"ITBG-Bergamo\")").as
    (fun value => ⟨value⟩) (·.value)

/-- Locations as records. -/
def codec : Codec Location :=
  (Codec.record fields).described "Location of a remote resource"

end Location

end CloudOperator
