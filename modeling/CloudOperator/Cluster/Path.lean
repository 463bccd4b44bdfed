import CloudOperator.Resource.Kind
import CloudOperator.Text.Pieces

/-!
# Places and paths of objects

Where a cluster keeps an object, and the path by which it is found.  A path is written
from the names of an object and read back from its segments; a slash in a name leads
elsewhere.
-/

namespace CloudOperator

/-- The place of an object in a cluster. -/
structure ClusterPlace where
  /-- The name of the kind. -/
  kind : String
  ns : String
  name : String
deriving DecidableEq, Repr

/-- The place of an object of a kind. -/
def Kind.place (K : Kind) (ns name : String) : ClusterPlace :=
  ⟨K.name, ns, name⟩

namespace ClusterPath

/-- The segments before those that tell one object from another. -/
def root : List String :=
  ["apis", Kind.group, Kind.version, "namespaces"]

/-- The segment that stands for the status of an object. -/
def statusSegment : String :=
  "status"

/-- The path with the given segments. -/
def ofSegments (segments : List String) : String :=
  String.ofList (segments.flatMap fun segment => '/' :: segment.toList)

/-- The segments of a path that begins with a slash. -/
def segments (path : String) : List String :=
  ((pieces (· == '/') path.toList).map String.ofList).tail

/-- The path of an object of a kind, or that of its status. -/
def ofObject (K : Kind) (ns name : String) (ofStatus : Bool) : String :=
  ofSegments (root ++ [ns, K.plural, name] ++ if ofStatus then [statusSegment] else [])

/-- The place of the object that a path leads to, and whether it leads to the status of
the object. -/
def destination? (path : String) : Option (ClusterPlace × Bool) :=
  let place ns plural name := (Kind.ofPlural? plural).map (·.place ns name)
  if (segments path).take root.length ≠ root then none
  else match (segments path).drop root.length with
    | [ns, plural, name] => (place ns plural name).map (·, false)
    | [ns, plural, name, part] =>
      if part = statusSegment then (place ns plural name).map (·, true) else none
    | _ => none

/-- Segments without slashes are found again in the path that they make up. -/
theorem segments_ofSegments {parts : List String} (whole : ∀ part ∈ parts, '/' ∉ part.toList) :
  segments (ofSegments parts) = parts
  := by
  have cut : pieces (· == '/') ([] ++ (parts.map String.toList).flatMap ('/' :: ·))
      = [] :: parts.map String.toList :=
    pieces_append_flatMap rfl (by grind)
  rw [List.nil_append, List.flatMap_map] at cut
  simp [segments, ofSegments, cut]

/-- The path of an object leads to its place, if no slash stands in its names. -/
theorem destination?_ofObject (K : Kind) {ns name : String} (plain : '/' ∉ ns.toList)
    (plain' : '/' ∉ name.toList) (ofStatus : Bool) :
  destination? (ofObject K ns name ofStatus) = some (K.place ns name, ofStatus)
  := by
  have plural : '/' ∉ K.plural.toList := by cases K <;> decide +kernel
  have fixed : ∀ part ∈ root ++ [statusSegment], '/' ∉ part.toList := by decide +kernel
  have found : segments (ofObject K ns name ofStatus)
      = root ++ [ns, K.plural, name] ++ if ofStatus then [statusSegment] else [] :=
    segments_ofSegments (by grind)
  cases ofStatus <;> simp [destination?, found]

end ClusterPath

end CloudOperator
