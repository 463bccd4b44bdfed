import CloudOperator.Cluster.Request
import CloudOperator.Json.MergePatch
import CloudOperator.Table
import CloudOperator.Text.Numeral
import CloudOperator.Time.Timestamp

/-!
# A cluster

The objects that a cluster stores, as JSON, and how it answers requests.  Every write
gives an object a new version, and a patch that was made for another version is
refused.  An object that is to be deleted goes away with its last finalizer.
-/

namespace CloudOperator

/-- The objects of a cluster. -/
abbrev Cluster :=
  Table ClusterPlace Json

namespace Cluster

/-- The version in the metadata of an object or a patch. -/
def version? (json : Json) : Option String :=
  match json.at? ["metadata", "resourceVersion"] with
  | some (.text version) => some version
  | _ => none

/-- The version that follows that of an object.  One that is no number counts as
zero. -/
def nextVersion (json : Json) : String :=
  toString (((version? json).bind (readNumeralBelow UInt64.size)).getD 0 + 1)

/-- A patch of one member of the metadata. -/
def metadataPatch (name : String) (value : Json) : Json :=
  .object [("metadata", .object [(name, value)])]

/-- The object with the version that follows. -/
def bump (json : Json) : Json :=
  json.mergePatch (metadataPatch "resourceVersion" (.text (nextVersion json)))

/-- Whether an object is to be deleted and has no finalizers. -/
def isReleased (json : Json) : Bool :=
  let isGiven
    | none | some Json.null => false
    | some _ => true
  isGiven (json.at? ["metadata", "deletionTimestamp"]) &&
    match json.at? ["metadata", "finalizers"] with
    | some (.array (_ :: _)) => false
    | _ => true

/-- The cluster after an object was written: it is stored, unless it goes away. -/
def settle (cluster : Cluster) (place : ClusterPlace) (json : Json) : Cluster :=
  if isReleased json then Table.erase cluster place else Table.insert cluster place json

/-- The object that a patch makes of a stored one, before it gets its new version. -/
def patched (verb : ClusterVerb) (stored patch : Json) : Json :=
  match verb with
  | .get => stored
  | .patch =>
    stored.mergePatch (metadataPatch "finalizers"
      ((patch.at? ["metadata", "finalizers"]).getD .null))
  | .patchStatus => stored.mergePatch (.object [("status", (patch.get? "status").getD .null)])

/-- The answer to a request about the object at a place, and the cluster after it. -/
def answerAt (cluster : Cluster) (place : ClusterPlace) (r : ClusterRequest) :
    ClusterAnswer × Cluster :=
  match Table.find? cluster place, r.patch with
  | none, _ => (.error 404, cluster)
  | some stored, none => (.ok stored, cluster)
  | some stored, some patch =>
    if version? patch = version? stored then
      let json := bump (patched r.verb stored patch)
      (.ok json, cluster.settle place json)
    else (.error 409, cluster)

/-- The answer to a request, and the cluster after it. -/
def answer (cluster : Cluster) (r : ClusterRequest) : ClusterAnswer × Cluster :=
  match r.place? with
  | none => (.error 404, cluster)
  | some place => cluster.answerAt place r

/-- Somebody else patches an object.  The answer is empty if there is no such object. -/
def edit? (cluster : Cluster) (place : ClusterPlace) (patch : Json) : Option Cluster :=
  (Table.find? cluster place).map fun stored =>
    cluster.settle place (bump (stored.mergePatch patch))

/-- Somebody else writes an object as it is. -/
def touch (cluster : Cluster) (place : ClusterPlace) : Cluster :=
  match Table.find? cluster place with
  | none => cluster
  | some stored => Table.insert cluster place (bump stored)

/-- The patch by which an object is to be deleted from the time `now` on. -/
def deletionPatch (now : Instant) : Json :=
  metadataPatch "deletionTimestamp" (.text (Timestamp.seconds now))

end Cluster

end CloudOperator
