import CloudOperator.Access.Failure
import CloudOperator.Cloud.Problem
import CloudOperator.Cluster.Failure
import CloudOperator.Time.Duration

/-!
# Failures of reconciliation

The causes for which the work of a phase fails, how the phase reacts to each, and
the causes for which a whole pass fails.
-/

namespace CloudOperator

/-- A cause for which the work of a phase fails. -/
inductive Failure where
  /-- The remote API answered, but not with a success. -/
  | problem (problem : Problem)
  /-- A reference leads to no object. -/
  | referenceNotFound (kind ns name : String)
  /-- A referenced object has no remote resource yet. -/
  | dependencyNotReady (kind ns name : String)
  /-- A referenced object could not be read. -/
  | store (cause : StoreFailure)
  /-- The tenant could not be authenticated. -/
  | access (cause : AccessFailure)
  /-- The remote API could not be reached or understood. -/
  | transport (detail : String)
  /-- Anything else. -/
  | internal (detail : String)
deriving DecidableEq, Repr

namespace Failure

/-- The text of a cause. -/
def message : Failure → String
  | problem p => p.message
  | referenceNotFound kind ns name =>
    "failed to get referenced " ++ kind ++ " " ++ ns ++ "/" ++ name
  | dependencyNotReady kind ns name =>
    "referenced " ++ kind ++ " " ++ ns ++ "/" ++ name ++ " does not have a resource ID yet"
  | store cause => "store error: " ++ cause.message
  | access cause => "authentication error: " ++ cause.message
  | transport detail => "transport error: " ++ detail
  | internal detail => "internal error: " ++ detail

/-- The problem that the remote API answered with, if that is the cause. -/
def problem? : Failure → Option Problem
  | problem p => some p
  | _ => none

/-- Whether the cause is an answer that there is no such remote resource. -/
def isNotFound (f : Failure) : Bool :=
  f.problem?.any Problem.isNotFound

end Failure

/-- How a phase reacts to a failure of its work. -/
inductive Reaction where
  /-- Something is not ready: try again in the same phase. -/
  | retrySamePhase
  /-- Trying again cannot help: the object fails. -/
  | failTerminal
  /-- Try again later. -/
  | retryWithBackoff
deriving DecidableEq, Repr

namespace Reaction

/-- The name of a reaction. -/
def name : Reaction → String
  | retrySamePhase => "retry_same_phase"
  | failTerminal => "fail_terminal"
  | retryWithBackoff => "retry_with_backoff"

/-- The reaction to a failure. -/
def ofFailure : Failure → Reaction
  | .problem p =>
    if p.notReady then retrySamePhase
    else if p.isClientError then failTerminal
    else retryWithBackoff
  | .dependencyNotReady .. => retrySamePhase
  | _ => retryWithBackoff

end Reaction

/-- A cause for which a whole pass fails. -/
inductive PassFailure where
  /-- The object does not tell what is needed to work on it. -/
  | configuration (detail : String)
  /-- The tenant could not be authenticated. -/
  | authentication (cause : AccessFailure)
  /-- The object could not be written. -/
  | persistence (cause : StoreFailure)
  /-- The object could not be read. -/
  | load (cause : StoreFailure)
  /-- The pass took longer than a duration. -/
  | timeout (duration : Nat)
deriving DecidableEq, Repr

namespace PassFailure

/-- The text of a cause. -/
def message : PassFailure → String
  | configuration detail => "configuration error: " ++ detail
  | authentication cause => "authentication failed: " ++ cause.message
  | persistence cause => "failed to persist resource: " ++ cause.message
  | load cause => "failed to load resource: " ++ cause.message
  | timeout duration => "reconciliation did not finish within " ++ Duration.brief duration

/-- Whether only a change of the object can help. -/
def isTerminal : PassFailure → Bool
  | configuration _ => true
  | _ => false

/-- Whether the cause is that somebody else wrote the object. -/
def isConflict : PassFailure → Bool
  | persistence cause | load cause => cause.isConflict
  | _ => false

end PassFailure

end CloudOperator
