import CloudOperator.Cluster.Failure
import CloudOperator.Cluster.Request
import CloudOperator.Resource.Object

/-!
# The client of the cluster

How objects are loaded and written by requests.  A write is guarded by the version
of the object in hand, so that the cluster refuses it where somebody else wrote the
object in between.
-/

namespace CloudOperator

namespace StoreFailure

/-- The status with which the cluster refuses a write of an object that was written in
between. -/
abbrev conflictStatus : Nat := 409

/-- The status with which the cluster answers that there is no such object. -/
abbrev absentStatus : Nat := 404

/-- There is no request about an object of that name. -/
def unsendable : StoreFailure :=
  cluster "a request needs a name that can stand in a path"

/-- The cluster refused a request with a status. -/
def refused (status : Nat) : StoreFailure :=
  cluster ("the request was refused with status " ++ toString status)

/-- The cluster sent what is no object of a kind. -/
def malformed (K : Kind) : StoreFailure :=
  cluster ("the answer is no " ++ K.name)

end StoreFailure

namespace Object

variable {K : Kind}

/-- The namespace of an object, empty without one. -/
def ns (o : Object K) : String :=
  o.metadata.ns.getD ""

/-- The object in an answer of the cluster. -/
def ofAnswer (K : Kind) (json : Json) : Except StoreFailure (Object K) :=
  match decode K json with
  | some o => .ok o
  | none => .error (.malformed K)

/-- The patch that writes the status of an object. -/
def statusPatch (o : Object K) (version : String) : Json :=
  .object [
    ("metadata", .object [("resourceVersion", .text version)]),
    ("status", ((o.status.map (Status.codec K).encode).getD .null))]

/-- The patch that writes the finalizers of an object. -/
def finalizersPatch (o : Object K) (version : String) : Json :=
  .object [
    ("metadata", .object [
      ("resourceVersion", .text version),
      ("finalizers", .array (o.metadata.finalizerList.map .text))])]

end Object

namespace ClusterRequest

variable {m : Type → Type} [Monad m] {K : Kind}

/-- The object of a name is loaded by the means of `send`, if there is one. -/
def load (send : ClusterRequest → m ClusterAnswer) (K : Kind) (ns name : String) :
    m (Except StoreFailure (Option (Object K))) := do
  match about? .get K ns name none with
  | none => return .error .unsendable
  | some request =>
    match ← send request with
    | .ok json => return (Object.ofAnswer K json).map some
    | .error status =>
      if status = StoreFailure.absentStatus then return .ok none
      else return .error (.refused status)

/-- A patch of an object is written by the means of `send`. -/
def write (send : ClusterRequest → m ClusterAnswer) (verb : ClusterVerb) (o : Object K)
    (patch : (version : String) → Json) : m (Except StoreFailure (Object K)) := do
  let name := o.metadata.displayName
  match o.metadata.resourceVersion with
  | none => return .error (.missingVersion o.ns name)
  | some version =>
    match about? verb K o.ns name (some (patch version)) with
    | none => return .error .unsendable
    | some request =>
      match ← send request with
      | .ok json => return Object.ofAnswer K json
      | .error status =>
        if status = StoreFailure.conflictStatus then return .error (.conflict o.ns name)
        else return .error (.refused status)

/-- The status of an object is written. -/
def writeStatus (send : ClusterRequest → m ClusterAnswer) (o : Object K) :
    m (Except StoreFailure (Object K)) :=
  write send .patchStatus o o.statusPatch

/-- The finalizers of an object are written. -/
def writeFinalizers (send : ClusterRequest → m ClusterAnswer) (o : Object K) :
    m (Except StoreFailure (Object K)) :=
  write send .patch o o.finalizersPatch

end ClusterRequest

end CloudOperator
