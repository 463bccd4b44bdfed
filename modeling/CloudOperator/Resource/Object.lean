import CloudOperator.Resource.Kind
import CloudOperator.Resource.Metadata
import CloudOperator.Resource.Status

/-!
# Objects

An object of a kind: its metadata, its specification and its status, and the JSON
that the cluster keeps of them.
-/

namespace CloudOperator

/-- The status of an object of a kind. -/
structure Status (K : Kind) extends CommonStatus where
  links : K.Links

namespace Status

variable {K : Kind}

/-- The status of an object that was never reconciled. -/
def initial (K : Kind) : Status K :=
  { CommonStatus.initial with links := K.noLinks }

/-- The fields of the status of a kind; the common ones and the links are on one
level. -/
def fields (K : Kind) : Fields (Status K) :=
  (CommonStatus.fields CommonStatus.isNullOrEmpty >> K.linkFields).as
    (fun (common, links) => { common with links })
    (fun s => (s.toCommonStatus, s.links))

/-- Whether the members of a status that do not record links can be held in memory
until the common fields are picked from them. -/
def isHoldable (K : Kind) (members : List (String × Json)) : Bool :=
  (members.filter fun (name, _) => ¬ K.linkFields.names.contains name).all
    fun (_, json) => json.fitsInside 2

/-- Statuses as objects. -/
def codec (K : Kind) : Codec (Status K) where
  encode s := .object ((fields K).encode s)
  decode
    | .object members => if isHoldable K members then (fields K).decodeDistinct members else none
    | _ => none
  schema :=
    Json.insertSorted "description" (.text CommonStatus.description) (fields K).schema

end Status

/-- An object of a kind. -/
structure Object (K : Kind) where
  metadata : Metadata
  spec : K.Spec
  status : Option (Status K)

namespace Object

variable {K : Kind}

/-- The fields of an object of a kind. -/
def fields (K : Kind) : Fields (Object K) :=
  (Fields.required "metadata" Metadata.codec
    >> Fields.required "spec" (.record K.specFields)
    >> Fields.omittable "status" (Status.codec K)).as
    (fun (metadata, spec, status) => ⟨metadata, spec, status⟩)
    (fun o => (o.metadata, o.spec, o.status))

/-- The JSON of an object. -/
def encode (o : Object K) : Json :=
  .object (("apiVersion", .text Kind.apiVersion) :: ("kind", .text K.name) :: (fields K).encode o)

/-- The object of a kind that a JSON value denotes: an object, whose version and kind
are not looked at, or an array of all fields in order. -/
def decode (K : Kind) : Json → Option (Object K)
  | .object members => (fields K).decodeDistinct members
  | .array items =>
    if items.length = (fields K).names.length then
      (fields K).decode ((fields K).names.zip items)
    else none
  | _ => none

/-- The status of an object, the initial one if it has none. -/
def statusOrInitial (o : Object K) : Status K :=
  o.status.getD (Status.initial K)

/-- The object with another status. -/
def withStatus (o : Object K) (status : Status K) : Object K :=
  { o with status := some status }

/-- The phase of an object. -/
def phase (o : Object K) : Option Phase :=
  o.status.bind (·.phase)

/-- The identifier of the remote resource of an object, empty without one. -/
def resourceID (o : Object K) : String :=
  (o.status.map (·.resourceID)).getD ""

/-- The generation of the specification of an object. -/
def generation (o : Object K) : Int64 :=
  o.metadata.generation.getD 0

/-- The generation that was last taken note of. -/
def observedGeneration (o : Object K) : Int64 :=
  (o.status.map (·.observedGeneration)).getD 0

/-- Whether the specification changed since it was last taken note of. -/
def generationChanged (o : Object K) : Bool :=
  o.observedGeneration ≠ o.generation

/-- Whether the object is to be deleted. -/
def isDeletionRequested (o : Object K) : Bool :=
  o.metadata.deletionTimestamp.isSome

/-- Whether the operator keeps the object. -/
def hasFinalizer (o : Object K) : Bool :=
  o.metadata.finalizerList.contains K.finalizer

/-- The tenant of an object. -/
def tenant (o : Object K) : String :=
  K.tenant o.spec

/-! ## What an object with another status shows -/

@[simp]
theorem phase_statusOrInitial (o : Object K) :
  o.statusOrInitial.phase = o.phase
  := by
  cases h : o.status <;> simp [statusOrInitial, phase, h, Status.initial, CommonStatus.initial]

@[simp]
theorem resourceID_statusOrInitial (o : Object K) :
  o.statusOrInitial.resourceID = o.resourceID
  := by
  cases h : o.status <;> simp [statusOrInitial, resourceID, h, Status.initial, CommonStatus.initial]

@[simp]
theorem observedGeneration_statusOrInitial (o : Object K) :
  o.statusOrInitial.observedGeneration = o.observedGeneration
  := by
  cases h : o.status <;>
    simp [statusOrInitial, observedGeneration, h, Status.initial, CommonStatus.initial]

@[simp]
theorem statusOrInitial_withStatus (o : Object K) (status : Status K) :
  (o.withStatus status).statusOrInitial = status
  := rfl

@[simp]
theorem metadata_withStatus (o : Object K) (status : Status K) :
  (o.withStatus status).metadata = o.metadata
  := rfl

@[simp]
theorem spec_withStatus (o : Object K) (status : Status K) :
  (o.withStatus status).spec = o.spec
  := rfl

@[simp]
theorem phase_withStatus (o : Object K) (status : Status K) :
  (o.withStatus status).phase = status.phase
  := rfl

@[simp]
theorem resourceID_withStatus (o : Object K) (status : Status K) :
  (o.withStatus status).resourceID = status.resourceID
  := rfl

@[simp]
theorem observedGeneration_withStatus (o : Object K) (status : Status K) :
  (o.withStatus status).observedGeneration = status.observedGeneration
  := rfl

end Object

end CloudOperator
