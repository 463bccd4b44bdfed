import CloudOperator.Cloud.Client
import CloudOperator.Cloud.Payload
import CloudOperator.Reconcile.Reference
import CloudOperator.Reconcile.Volumes

/-!
# Remote resources of objects

The requests by which the remote resource of an object is created, looked at,
updated and deleted, and what the status records of them.  The data volumes of a
server are kept apart from its other properties: they are attached and detached by
requests of their own once the server exists.
-/

namespace CloudOperator

/-- On whose behalf a pass works: the token of the tenant, and the namespace in which
references without one of their own are looked up. -/
structure Actor where
  bearer : String
  ns : String

/-- A difference between an object and its remote resource that calls for an update
though the specification did not change. -/
structure Drift where
  reason : String
  message : String
deriving DecidableEq, Repr

namespace Object

variable {K : Kind}

/-- The links of an object. -/
def links (o : Object K) : K.Links :=
  o.statusOrInitial.links

/-- The object with its links recorded.  A project has none, and no status comes
into being for them. -/
def recordLinks (o : Object K) (links : K.Links) : Object K :=
  match K with
  | .project => o
  | _ => o.withStatus { o.statusOrInitial with links }

@[simp]
theorem metadata_recordLinks (o : Object K) (links : K.Links) :
  (o.recordLinks links).metadata = o.metadata
  := by
  cases K <;> rfl

@[simp]
theorem phase_recordLinks (o : Object K) (links : K.Links) :
  (o.recordLinks links).phase = o.phase
  := by
  cases K <;> simp [recordLinks]

@[simp]
theorem resourceID_recordLinks (o : Object K) (links : K.Links) :
  (o.recordLinks links).resourceID = o.resourceID
  := by
  cases K <;> simp [recordLinks]

/-- What is recorded is read again; a project has but one way to have no links. -/
@[simp]
theorem links_recordLinks (o : Object K) (links : K.Links) :
  (o.recordLinks links).links = links
  := by
  cases K <;> rfl

/-- The place of the remote resource of an object. -/
def endpoint (o : Object K) : Endpoint :=
  K.item o.links o.resourceID

/-- A request about the remote resource of an object. -/
def request (o : Object K) (actor : Actor) (method : Method) (body : Option Json) : Request :=
  ⟨method, o.endpoint.path, actor.bearer, body⟩

/-- The remote resource of an object is created.  The links that were resolved for
it are recorded in the object. -/
def create (o : Object K) (actor : Actor) : Attempt (ResourceReport × Object K) := do
  let links ← K.resolveLinks actor.ns o.spec o.links
  let report ← Request.report
    ⟨.post, (K.collection links).path, actor.bearer,
      some (Payload.body o (Payload.creation K o.spec links))⟩
  return (report, o.recordLinks links)

/-- The state of the remote resource of an object, if it tells one. -/
def remoteState (o : Object K) (actor : Actor) : Attempt (Option String) :=
  return (← (o.request actor .get none).report).state?

/-- The remote resource of an object is deleted. -/
def delete (o : Object K) (actor : Actor) : Attempt Unit :=
  (o.request actor .delete none).succeed

/-- The properties of the remote resource of an object are sent, as its links say. -/
def sendUpdate (o : Object K) (actor : Actor) (links : K.Links) : Attempt Unit :=
  (o.request actor .put (some (Payload.body o (Payload.update K o.spec links)))).succeed

/-- The data volumes that a server is to have, each once. -/
def desiredVolumes (o : Object .cloudServer) (actor : Actor) : Attempt (List String) := do
  let ids ← Reference.resolveAll actor.ns .blockStorage (CloudServerSpec.dataVolumes o.spec)
  return ids.eraseDups

/-- What has to change in the data volumes of a server, and what they are to be. -/
def volumeChange (o : Object .cloudServer) (actor : Actor) :
    Attempt (VolumeChange × List String) := do
  let desired ← o.desiredVolumes actor
  return (.between desired (ServerLinks.dataVolumes o.links), desired)

/-- The attachments of a server are resolved again, sent and recorded. -/
def attach (o : Object .cloudServer) (actor : Actor) : Attempt (Object .cloudServer) := do
  let links ← Kind.resolveAttachments actor.ns o.spec o.links
  o.sendUpdate actor links
  return o.recordLinks links

/-- The data volumes of a server are attached and detached as its specification
says, and recorded. -/
def syncVolumes (o : Object .cloudServer) (actor : Actor) : Attempt (Object .cloudServer) := do
  let (change, desired) ← o.volumeChange actor
  if change.isNone then return o
  let links : ServerLinks := o.links
  Request.succeed
    ⟨.post, (Endpoint.dataVolumes links.project o.resourceID).path, actor.bearer,
      some (Payload.dataVolumes links change.attach change.detach)⟩
  return o.recordLinks { links with dataVolumes := desired }

/-- The remote resource of a server is updated.  Its attachments are sent only if the
specification changed, and stay recorded when the data volumes cannot be brought in
line. -/
def updateServer (o : Object .cloudServer) (actor : Actor) (specChanged : Bool) :
    Pass (Except Failure Unit × Object .cloudServer) := do
  match ← (if specChanged then o.attach actor else return o : Attempt _) with
  | .error cause => return (.error cause, o)
  | .ok o =>
    match ← o.syncVolumes actor with
    | .error cause => return (.error cause, o)
    | .ok o => return (.ok (), o)

/-- The remote resource of an object is updated; the object after it is returned,
also where the update fails. -/
def update (o : Object K) (actor : Actor) (specChanged : Bool) :
    Pass (Except Failure Unit × Object K) :=
  match K, o with
  | .cloudServer, o => o.updateServer actor specChanged
  | _, o => return (← o.sendUpdate actor o.links, o)

/-- The drift of a server whose data volumes have to change. -/
def volumeDrift : Drift :=
  ⟨"UpdatingDataVolumes", "Data volumes need to be updated"⟩

/-- How an object differs from its remote resource, if that calls for an update. -/
def drift? (o : Object K) (actor : Actor) : Attempt (Option Drift) :=
  match K, o with
  | .cloudServer, o =>
    return if (← o.volumeChange actor).1.isNone then none else some volumeDrift
  | _, _ => return none

end Object

end CloudOperator
