import CloudOperator.Cluster.Client
import CloudOperator.Reconcile.Pass
import CloudOperator.Retry.Policy
import CloudOperator.Simulation.Script

/-!
# The simulated world

An operator with all that surrounds it: a clock, a cluster, and a remote API, a store
of secrets and an identity provider that answer as they are told.  What is asked of
them is put on record.
-/

namespace CloudOperator

/-- A request for access that is put on record. -/
inductive AccessRecord where
  | secret (tenant : String)
  | login (credentials : Credentials) (realm : String)
deriving DecidableEq, Repr

/-- What was asked of the surroundings, in order. -/
structure Record where
  requests : List Request
  cluster : List ClusterRequest
  access : List AccessRecord

/-- Nothing was asked yet. -/
def Record.empty : Record :=
  ⟨[], [], []⟩

/-- An operator with its surroundings. -/
structure World where
  /-- The time of the clock that passes are given. -/
  now : Instant
  /-- The time at which failures are handled. -/
  wallClock : Instant
  cluster : Cluster
  faults : List Fault
  api : ApiScript
  secrets : SecretScript
  tokens : TokenScript
  settings : PassSettings
  /-- The duration after which objects are looked at again anyway. -/
  resync : Nat
  memory : Memory
  backoff : BackoffTracker
  metrics : Metrics
  record : Record

/-- What happens in a simulated world.  It ends where a date leaves the calendar. -/
abbrev Simulation (α : Type) :=
  StateT World Option α

namespace World

/-- The cluster answers a request. -/
def answerCluster (r : ClusterRequest) : StateM World ClusterAnswer :=
  modifyGet fun w =>
    let (disturbance, faults) := Fault.take r.verb w.faults
    let w := { w with
      faults
      record := { w.record with cluster := w.record.cluster ++ [r] } }
    match disturbance with
    | some (.refuse status) => (.error status, w)
    | some .race =>
      let (answer, cluster) := w.cluster.answer r
      (answer, { w with cluster := (r.place?.map cluster.touch).getD cluster })
    | none =>
      let (answer, cluster) := w.cluster.answer r
      (answer, { w with cluster })

/-- The remote API answers a request. -/
def answerApi (r : Request) : StateM World (Except String Response) :=
  modifyGet fun w =>
    let (answer, api) := w.api.answer r
    (answer, { w with api, record := { w.record with requests := w.record.requests ++ [r] } })

/-- A request for access is put on record. -/
def recordAccess (r : AccessRecord) : StateM World Unit :=
  modify fun w => { w with record := { w.record with access := w.record.access ++ [r] } }

/-- The surroundings carry out an operation. -/
def answer : (operation : Operation) → StateM World operation.Answer
  | .load K ns name => ClusterRequest.load answerCluster K ns name
  | .writeStatus _ o => ClusterRequest.writeStatus answerCluster o
  | .writeFinalizers _ o => ClusterRequest.writeFinalizers answerCluster o
  | .readSecret tenant => do
    recordAccess (.secret tenant)
    return (← get).secrets.answer tenant
  | .logIn credentials realm => do
    recordAccess (.login credentials realm)
    modifyGet fun w =>
      let (answer, tokens) := TokenScript.answer w.tokens credentials
      (answer, { w with tokens })
  | .send request => answerApi request
  | .count counter => modify fun w => { w with metrics := w.metrics.count counter }

end World

namespace Simulation

/-- A program of operations is carried out. -/
def run (program : Pass α) : Simulation α := fun w =>
  match program.run World.answer w with
  | (some result, w) => some (result, w)
  | (none, _) => none

/-- What only changes the world. -/
def change (f : World → World) : Simulation Unit :=
  modify f

/-- A counter is raised. -/
def count (counter : Counter) : Simulation Unit :=
  change fun w => { w with metrics := w.metrics.count counter }

/-- The clock moves by a number of milliseconds. -/
def advance (millis : Int) : Simulation Instant := do
  let now ← ((← get).now.add? (millis * nanosPerMilli) : Option Instant)
  change fun w => { w with now }
  return now

/-- An object is written as it is given. -/
def put (place : ClusterPlace) (json : Json) : Simulation Unit :=
  change fun w => { w with cluster := Table.insert w.cluster place json }

/-- The object at a place as it is stored. -/
def stored? (place : ClusterPlace) : Simulation (Option Json) :=
  return Table.find? (← get).cluster place

/-- The object at a place goes away, if there is one. -/
def remove (place : ClusterPlace) : Simulation Bool := do
  let found := (← stored? place).isSome
  change fun w => { w with cluster := Table.erase w.cluster place }
  return found

/-- Somebody patches the object at a place, if there is one. -/
def edit (place : ClusterPlace) (patch : Json) : Simulation Bool := do
  match (← get).cluster.edit? place patch with
  | none => return false
  | some cluster =>
    change fun w => { w with cluster }
    return true

/-- Somebody asks for the deletion of the object at a place, if there is one. -/
def requestDeletion (place : ClusterPlace) : Simulation Bool := do
  edit place (Cluster.deletionPatch (← get).now)

/-- Somebody writes the object at a place as it is, if there is one. -/
def touch (place : ClusterPlace) : Simulation Bool := do
  let found := (← stored? place).isSome
  change fun w => { w with cluster := w.cluster.touch place }
  return found

/-- The record since the last time that it was taken. -/
def takeRecord : Simulation Record :=
  modifyGet fun w => (w.record, { w with record := .empty })

/-- The object of a kind at a place, if there is one. -/
def object? (K : Kind) (ns name : String) : Simulation (Option (Object K)) :=
  return (← stored? (K.place ns name)).bind (Object.decode K)

end Simulation

end CloudOperator
