import CloudOperator.Reconcile.Failure
import CloudOperator.Reconcile.Remote

/-!
# Moves

A move brings an object into a phase, or keeps it there, and says why.  This module
holds the moves that a pass makes, and what a move makes of a status.
-/

namespace CloudOperator

/-- A step of an object into a phase. -/
structure Move where
  phase : Phase
  status : ConditionStatus
  reason : String
  message : String
  /-- Whether another pass is due after the move. -/
  requeue : Bool
deriving DecidableEq, Repr

namespace Move

/-- The type of the condition that moves report. -/
def conditionType : String :=
  "Synchronized"

/-- The first move of an object. -/
def initialized : Move :=
  ⟨.creating, .fails, "Initialized", "Resource initialized successfully", true⟩

/-- The move of an object whose remote resource is being set up. -/
def provisioning : Move :=
  ⟨.provisioning, .fails, "Provisioning", "Resource is being provisioned", true⟩

/-- The move of an object whose remote resource was created. -/
def created : Move :=
  ⟨.created, .holds, "Created", "Resource created successfully", true⟩

/-- The move of an object whose remote resource could not be set up. -/
def provisioningFailed (state : String) : Move :=
  ⟨.failed, .fails, "ProvisioningFailed", "Remote provisioning failed with state " ++ state, false⟩

/-- The move of an object whose remote resource was updated. -/
def updated : Move :=
  ⟨.created, .holds, "Updated", "Resource updated successfully", true⟩

/-- The move of an object whose specification changed. -/
def updating : Move :=
  ⟨.updating, .fails, "Updating", "Resource update initiated", true⟩

/-- The move of an object that differs from its remote resource. -/
def drifted (d : Drift) : Move :=
  ⟨.updating, .fails, d.reason, d.message, true⟩

/-- The move of an object that failed before its remote resource was created, and
whose specification changed. -/
def retrying : Move :=
  ⟨.creating, .fails, "Retrying", "Specification changed, retrying creation", true⟩

/-- The move of an object that is to be deleted. -/
def toBeDeleted : Move :=
  ⟨.deleting, .fails, "ToBeDeleted", "deletion timestamp detected", true⟩

/-- A duration in whole minutes and seconds. -/
def minutesAndSeconds (duration : Nat) : String :=
  let seconds := Duration.wholeSeconds duration
  toString (seconds / 60) ++ "m" ++ toString (seconds % 60) ++ "s"

/-- The move of an object that stayed in a phase for longer than the timeout. -/
def timedOut (timeout : Nat) : Move :=
  ⟨.failed, .fails, "ReconciliationTimeout",
    "Reconciliation took too much time (timeout: " ++ minutesAndSeconds timeout ++ ")", false⟩

/-- The move of an object when the work of its phase fails. -/
def ofFailure (current : Phase) (cause : Failure) : Move :=
  let answered := cause.problem?.isSome
  match Reaction.ofFailure cause with
  | .retrySamePhase =>
    if answered then
      ⟨current, .fails, "ResourceNotReady",
        "Remote resource is not ready, will retry: " ++ cause.message, true⟩
    else
      ⟨current, .fails, "DependencyNotReady",
        "Dependency is not ready, will retry: " ++ cause.message, true⟩
  | .failTerminal =>
    ⟨.failed, .fails, "ClientError",
      "Client error encountered, transitioning to failed state: " ++ cause.message, false⟩
  | .retryWithBackoff =>
    if answered then
      ⟨current, .fails, "ServerError",
        "Server error encountered, will retry: " ++ cause.message, true⟩
    else
      ⟨current, .fails, "ReconcileError",
        "Reconcile error encountered, will retry: " ++ cause.message, true⟩

end Move

namespace CommonStatus

/-- The status after a move at the time `now` of an object of a generation.  The
phase starts with the move if the phase changes, or if it had no start. -/
def moved (s : CommonStatus) (move : Move) (generation : Int64) (now : Instant) : CommonStatus :=
  let entering : Bool := s.phase ≠ some move.phase
  { s with
    phase := some move.phase
    message := move.message
    observedGeneration :=
      if entering && move.phase.recordsGeneration then generation else s.observedGeneration
    phaseStartTime :=
      if entering || s.phaseStartTime.isNone then some (Timestamp.seconds now)
      else s.phaseStartTime
    conditions :=
      Condition.upsert Move.conditionType move.status move.reason move.message
        (Timestamp.seconds now) s.conditions }

end CommonStatus

namespace Object

variable {K : Kind}

/-- The object after a move at the time `now`. -/
def moved (o : Object K) (move : Move) (now : Instant) : Object K :=
  let status := o.statusOrInitial
  o.withStatus { status with
    toCommonStatus := status.toCommonStatus.moved move o.generation now }

/-- The object with its remote resource recorded. -/
def recordID (o : Object K) (id : String) : Object K :=
  o.withStatus { o.statusOrInitial with resourceID := id }

/-- The object with the version of what was stored. -/
def adoptVersion (o stored : Object K) : Object K :=
  { o with metadata := { o.metadata with resourceVersion := stored.metadata.resourceVersion } }

/-- The object with a finalizer list. -/
def withFinalizers (o : Object K) (finalizers : List String) : Object K :=
  { o with metadata := { o.metadata with finalizers := some finalizers } }

@[simp]
theorem phase_moved (o : Object K) (move : Move) (now : Instant) :
  (o.moved move now).phase = some move.phase
  := rfl

@[simp]
theorem metadata_moved (o : Object K) (move : Move) (now : Instant) :
  (o.moved move now).metadata = o.metadata
  := rfl

@[simp]
theorem spec_moved (o : Object K) (move : Move) (now : Instant) :
  (o.moved move now).spec = o.spec
  := rfl

@[simp]
theorem resourceID_moved (o : Object K) (move : Move) (now : Instant) :
  (o.moved move now).resourceID = o.resourceID
  := by
  simp [moved, CommonStatus.moved]

@[simp]
theorem links_moved (o : Object K) (move : Move) (now : Instant) :
  (o.moved move now).links = o.links
  := rfl

@[simp]
theorem resourceID_recordID (o : Object K) (id : String) :
  (o.recordID id).resourceID = id
  := rfl

@[simp]
theorem phase_recordID (o : Object K) (id : String) :
  (o.recordID id).phase = o.phase
  := by
  simp [recordID]

@[simp]
theorem links_recordID (o : Object K) (id : String) :
  (o.recordID id).links = o.links
  := rfl

@[simp]
theorem status_adoptVersion (o stored : Object K) :
  (o.adoptVersion stored).status = o.status
  := rfl

/-- The object kept by the operator. -/
def addFinalizer (o : Object K) : Object K :=
  o.withFinalizers (o.metadata.finalizerList ++ [K.finalizer])

/-- The object not kept by the operator any more. -/
def removeFinalizer (o : Object K) : Object K :=
  o.withFinalizers (o.metadata.finalizerList.filter (· ≠ K.finalizer))

end Object

end CloudOperator
