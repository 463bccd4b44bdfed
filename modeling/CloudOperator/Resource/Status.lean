import CloudOperator.Json.Limits
import CloudOperator.Resource.Condition
import CloudOperator.Resource.Phase

/-!
# Common status

The part of the status that objects of every kind have.
-/

namespace CloudOperator

/-- The part of a status that every kind has. -/
structure CommonStatus where
  phase : Option Phase
  message : String
  /-- The identifier of the remote resource, empty until it is created. -/
  resourceID : String
  /-- The generation of the object that was last taken note of. -/
  observedGeneration : Int64
  /-- The time of the last change of the phase, as a text. -/
  phaseStartTime : Option String
  conditions : List Condition
deriving DecidableEq, Repr

namespace CommonStatus

/-- The status of an object that was never reconciled. -/
def initial : CommonStatus :=
  ⟨none, "", "", 0, none, []⟩

/-- The fields of the common status; all have defaults, and all are always written. -/
def fields (isMarker : Json → Bool) : Fields CommonStatus :=
  (Fields.nullable "phase" (Phase.codec isMarker)
    >> Fields.defaulted "message" .text ""
    >> (Fields.defaulted "resourceID" .text "").described
      "Identifier of the resource on the Aruba Cloud side, empty until creation succeeds"
    >> Fields.defaulted "observedGeneration" .int64 0
    >> (Fields.nullable "phaseStartTime" .text).described
      "RFC3339 timestamp of the last phase change"
    >> Fields.defaulted "conditions" (.list (Condition.codec isMarker)) []).as
    (fun (phase, message, id, generation, start, conditions) =>
      ⟨phase, message, id, generation, start, conditions⟩)
    (fun s => (s.phase, s.message, s.resourceID, s.observedGeneration, s.phaseStartTime,
      s.conditions))

/-- Whether a value marks a name of an enumeration that stands as the name of a
member. -/
def isNull : Json → Bool
  | .null => true
  | _ => false

/-- Whether a value that was held in memory marks a name of an enumeration. -/
def isNullOrEmpty : Json → Bool
  | .null | .object [] => true
  | _ => false

/-- The common status on its own. -/
def codec : Codec CommonStatus :=
  Codec.record (fields isNull)

/-- The published description of a status. -/
def description : String :=
  "\n".intercalate [
    "Status fields shared by every Aruba resource",
    "",
    "Fields are always serialized (no `skip_serializing_if`) so a merge patch of the status",
    "clears values that were reset."]

/-- The time of the last change of the phase; a text that is none counts as absent. -/
def phaseStartedAt (s : CommonStatus) : Option Instant :=
  s.phaseStartTime.bind Timestamp.read

/-- The condition of a type. -/
def condition? (s : CommonStatus) (type : String) : Option Condition :=
  Condition.find? type s.conditions

end CommonStatus

end CloudOperator
