import CloudOperator.Cluster.Path
import CloudOperator.Http.Target
import CloudOperator.Json.Basic

/-!
# Requests to the cluster

The three requests by which the operator reads and writes objects.  A write carries
a patch, and the patch carries the version of the object that it is made for.
-/

namespace CloudOperator

/-- What is asked of the cluster about an object. -/
inductive ClusterVerb where
  /-- The object as it is stored. -/
  | get
  /-- A change of its finalizers. -/
  | patch
  /-- A change of its status. -/
  | patchStatus
deriving DecidableEq, Repr

namespace ClusterVerb

/-- The name of a verb. -/
def name : ClusterVerb → String
  | get => "get"
  | patch => "patch"
  | patchStatus => "patch_status"

/-- All verbs. -/
def all : List ClusterVerb :=
  [get, patch, patchStatus]

/-- The verb of a name. -/
def ofName? (name : String) : Option ClusterVerb :=
  all.find? (·.name = name)

end ClusterVerb

/-- A request to the cluster.  With a patch it is a write, and without one a read. -/
structure ClusterRequest where
  path : String
  patch : Option Json

namespace ClusterRequest

/-- The request about an object of a kind, if it can be sent.  The name of the object
must not be empty.  Where a name holds the mark that ends a path, the path ends there,
and where it holds what no target can, there is no request. -/
def about? (verb : ClusterVerb) (K : Kind) (ns name : String) (patch : Option Json) :
    Option ClusterRequest :=
  if name = "" then none
  else
    (Target.path? (ClusterPath.ofObject K ns name (verb = .patchStatus) ++ "?")).map
      fun path => ⟨path, patch⟩

/-- Where the names of an object are plain, the request about it has its path. -/
theorem about?_eq {verb : ClusterVerb} {K : Kind} {ns name : String} {patch : Option Json}
    (named : name ≠ "")
    (plain : ∀ c ∈ (ClusterPath.ofObject K ns name (verb = .patchStatus)).toList,
      Target.isPathChar c = true ∧ Target.isPathEnd c = false)
    (short : (ClusterPath.ofObject K ns name (verb = .patchStatus)).utf8ByteSize
      < Target.maxLength) :
  about? verb K ns name patch
    = some ⟨ClusterPath.ofObject K ns name (verb = .patchStatus), patch⟩
  := by
  have starts : (ClusterPath.ofObject K ns name (verb = .patchStatus)).toList.head? = some '/' := by
    simp [ClusterPath.ofObject, ClusterPath.ofSegments, ClusterPath.root]
  simp [about?, named, Target.path?_append_mark starts plain short]

/-- The place of the object that a request is about, if its path leads to one. -/
def place? (r : ClusterRequest) : Option ClusterPlace :=
  (ClusterPath.destination? r.path).map (·.1)

/-- What a request asks for. -/
def verb (r : ClusterRequest) : ClusterVerb :=
  match r.patch, ClusterPath.destination? r.path with
  | none, _ => .get
  | some _, some (_, true) => .patchStatus
  | some _, _ => .patch

end ClusterRequest

/-- What the cluster answers: an object, or the status of a refusal. -/
abbrev ClusterAnswer :=
  Except Nat Json

end CloudOperator
