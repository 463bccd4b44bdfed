/-!
# Data volumes

What has to be attached and what has to be detached to get from one set of volumes
to another.  The sets are given by lists whose order and repetitions do not matter.
-/

namespace CloudOperator

/-- The volumes to attach and the volumes to detach. -/
structure VolumeChange where
  attach : List String
  detach : List String
deriving DecidableEq, Repr

namespace VolumeChange

/-- The identifiers in a list that are not in another one and were not taken before.
Each is taken where it occurs first. -/
def missingAfter (others taken : List String) : List String → List String
  | [] => []
  | id :: ids =>
    if others.contains id || taken.contains id then missingAfter others taken ids
    else id :: missingAfter others (id :: taken) ids

/-- The identifiers in one list that are not in another, each once and in the order
in which they occur first. -/
def missing (ids others : List String) : List String :=
  missingAfter others [] ids

theorem mem_missingAfter {id : String} {ids others taken : List String} :
  id ∈ missingAfter others taken ids ↔ id ∈ ids ∧ id ∉ others ∧ id ∉ taken
  := by
  induction ids generalizing taken with
  | nil => simp [missingAfter]
  | cons first ids ih =>
    rw [missingAfter]
    split
    · grind
    · grind

theorem mem_missing {id : String} {ids others : List String} :
  id ∈ missing ids others ↔ id ∈ ids ∧ id ∉ others
  := by
  simp [missing, mem_missingAfter]

/-- The change that leads from the current volumes to the desired ones. -/
def between (desired current : List String) : VolumeChange :=
  ⟨missing desired current, missing current desired⟩

/-- Whether there is nothing to change. -/
def isNone (c : VolumeChange) : Bool :=
  c.attach.isEmpty && c.detach.isEmpty

end VolumeChange

end CloudOperator
