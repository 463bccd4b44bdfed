import CloudOperator.Codec.Fields

/-!
# Phases

The phases of reconciliation.  An object that was never initialised has none.
-/

namespace CloudOperator

/-- A phase of the reconciliation of an object. -/
inductive Phase where
  /-- The remote resource is to be created. -/
  | creating
  /-- The remote resource was created and is not ready yet. -/
  | provisioning
  /-- The remote resource is ready. -/
  | created
  /-- A change is to be sent to the remote resource. -/
  | updating
  /-- The remote resource is to be deleted. -/
  | deleting
  /-- Nothing is tried until the object changes. -/
  | failed
deriving DecidableEq, Repr

namespace Phase

/-- The name of a phase. -/
def name : Phase → String
  | creating => "Creating"
  | provisioning => "Provisioning"
  | created => "Created"
  | updating => "Updating"
  | deleting => "Deleting"
  | failed => "Failed"

/-- All phases. -/
def all : List Phase :=
  [creating, provisioning, created, updating, deleting, failed]

/-- Whether the phase is bounded by the phase timeout. -/
def isTransitioning : Phase → Bool
  | creating | provisioning | updating => true
  | created | deleting | failed => false

/-- Whether entering the phase records the generation of the object as observed. -/
def recordsGeneration : Phase → Bool
  | creating | created | deleting | failed => true
  | provisioning | updating => false

/-- The name of a phase, or a word for its absence. -/
def label : Option Phase → String
  | some phase => phase.name
  | none => "Initializing"

/-- Phases by name. -/
def codec (isMarker : Json → Bool) : Codec Phase :=
  (Codec.enumeration isMarker (all.map fun phase => (phase.name, phase))).described <|
    "\n".intercalate [
      "Reconciliation phase of a resource",
      "",
      "An absent phase means the resource has not been initialized yet."]

end Phase

end CloudOperator
