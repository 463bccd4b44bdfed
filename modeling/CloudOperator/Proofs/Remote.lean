import CloudOperator.Proofs.Stored
import CloudOperator.Reconcile.Remote

/-!
# Courses of exchanges with a remote resource

What the programs of `Reconcile/Remote` ask, and what they come to.

* The objects are loaded that the references of an object lead to (`Kind.asks_resolveLinks`), and
  nothing is asked of the remote API for that: a comparison never fails for an answer of it
  (`Object.ends_drift?`).
* Besides its requests the work on an object resolves references and counts.  Whatever admits
  that, and the requests (`Operation.Admits`), holds of all that is asked
  (`Object.asks_create_of`, `Object.asks_attach_of`, `Object.asks_syncVolumes_of`).
* A request leads to what its answer says (`Request.takes_report`,
  `Request.takes_succeed`), and a creation to what is reported of it
  (`Object.takes_create`).
* What an update records of a server leaves its remote resource in its place
  (`Object.Rewired`, `Object.ends_update`).
-/

namespace CloudOperator

namespace Operation

/-- Nothing is written, no tenant is authenticated, and only requests that satisfy a condition
are sent. -/
def SendsOnly (may : Request → Prop) : Operation → Prop
  | send request => may request
  | load .. | count _ => True
  | _ => False

theorem isQuiet_of_isLoad {operation : Operation} (loads : operation.isLoad) :
  operation.isQuiet
  := by
  cases operation with
  | load K ns name => exact ⟨rfl, rfl⟩
  | _ => cases loads

/-- To load an object is to send nothing. -/
theorem sendsOnly_of_isLoad {may : Request → Prop} {operation : Operation}
    (loads : operation.isLoad) :
  operation.SendsOnly may
  := by
  cases operation with
  | load K ns name => trivial
  | _ => cases loads

/-- Requests that satisfy a condition satisfy a weaker one. -/
theorem SendsOnly.mono {may may' : Request → Prop}
    (weaker : ∀ request, may request → may' request) (operation : Operation)
    (h : operation.SendsOnly may) :
  operation.SendsOnly may'
  := by
  cases operation with
  | send request => exact weaker request h
  | load K ns name | count counter => trivial
  | _ => cases h

/-- Where nothing but requests is sent no object is written. -/
theorem isWrite_of_sendsOnly {may : Request → Prop} {operation : Operation}
    (h : operation.SendsOnly may) :
  operation.isWrite = false
  := by
  cases operation with
  | send request | load K ns name | count counter => rfl
  | _ => cases h

theorem isAccess_of_sendsOnly {may : Request → Prop} {operation : Operation}
    (h : operation.SendsOnly may) :
  operation.isAccess = false
  := by
  cases operation with
  | send request | load K ns name | count counter => rfl
  | _ => cases h

theorem isQuiet_load (K : Kind) (ns name : String) :
  (load K ns name).isQuiet
  := ⟨rfl, rfl⟩

theorem isQuiet_count (counter : Counter) :
  (count counter).isQuiet
  := ⟨rfl, rfl⟩

end Operation

open Program

/-! ## References -/

variable {K : Kind} {ns : String}

/-- The references of a specification, each with the kind of the object that it leads to. -/
def Kind.references : (K : Kind) → K.Spec → List (Kind × Reference)
  | project, _ => []
  | vpc, s => [(project, VpcSpec.project s)]
  | keyPair, s => [(project, KeyPairSpec.project s)]
  | elasticIp, s => [(project, ElasticIpSpec.project s)]
  | blockStorage, s => [(project, BlockStorageSpec.project s)]
  | subnet, s => [(project, SubnetSpec.project s), (vpc, SubnetSpec.vpc s)]
  | securityGroup, s => [(project, SecurityGroupSpec.project s), (vpc, SecurityGroupSpec.vpc s)]
  | securityRule, s =>
    [(project, SecurityRuleSpec.project s), (vpc, SecurityRuleSpec.vpc s),
      (securityGroup, SecurityRuleSpec.securityGroup s)]
  | cloudServer, s =>
    [(project, CloudServerSpec.project s), (vpc, CloudServerSpec.vpc s),
      (blockStorage, CloudServerSpec.bootVolume s), (keyPair, CloudServerSpec.keyPair s)]
      ++ (CloudServerSpec.subnets s).map (subnet, ·)
      ++ (CloudServerSpec.securityGroups s).map (securityGroup, ·)
      ++ (CloudServerSpec.elasticIp s).toList.map (elasticIp, ·)
      ++ (CloudServerSpec.dataVolumes s).map (blockStorage, ·)

/-- The references to the attachments of a server: its subnets, its security groups and its
address. -/
def Kind.attachmentReferences (s : CloudServerSpec) : List (Kind × Reference) :=
  s.subnets.map (subnet, ·) ++ s.securityGroups.map (securityGroup, ·)
    ++ s.elasticIp.toList.map (elasticIp, ·)

/-- The references to its attachments are among those of the server. -/
theorem Kind.attachmentReferences_subset (s : CloudServerSpec) :
  attachmentReferences s ⊆ cloudServer.references s
  := by
  intro r found
  simp only [attachmentReferences, List.mem_append] at found
  simp only [references, List.mem_append]
  obtain (subnet | group) | address := found
  · exact .inl (.inl (.inl (.inr subnet)))
  · exact .inl (.inl (.inr group))
  · exact .inl (.inr address)

namespace Operation

/-- An object is loaded that one of the references leads to. -/
def Resolves (ns : String) (references : List (Kind × Reference))
    (operation : Operation) : Prop :=
  ∃ r ∈ references, operation = .load r.1 (r.2.namespaceOr ns) r.2.name

variable {references others : List (Kind × Reference)} {operation : Operation}

/-- To resolve references is to load objects, and nothing else. -/
theorem Resolves.isLoad (h : operation.Resolves ns references) :
  operation.isLoad
  := by
  obtain ⟨r, -, rfl⟩ := h
  rfl

theorem Resolves.isQuiet (h : operation.Resolves ns references) :
  operation.isQuiet
  := isQuiet_of_isLoad h.isLoad

/-- What resolves some of the references resolves references. -/
theorem Resolves.of_subset (subset : references ⊆ others) (operation : Operation)
    (h : operation.Resolves ns references) :
  operation.Resolves ns others
  := by
  obtain ⟨r, found, load⟩ := h
  exact ⟨r, subset found, load⟩

/-- What the work on an object may ask besides its requests: objects are loaded that references
lead to, and it is counted how the requests are answered. -/
structure Admits (may : Operation → Prop) (ns : String) (references : List (Kind × Reference)) :
    Prop where
  loads : ∀ operation, operation.Resolves ns references → may operation
  counts : ∀ method status, may (.count (.apiRequests method status))

/-- Where nothing but requests is sent, references may be resolved and requests may be counted. -/
theorem admits_sendsOnly {may : Request → Prop} :
  Admits (SendsOnly may) ns references
  where
  loads _ resolves := sendsOnly_of_isLoad resolves.isLoad
  counts _ _ := trivial

theorem Admits.of_subset {may : Operation → Prop} (h : Admits may ns others)
    (subset : references ⊆ others) :
  Admits may ns references
  where
  loads operation resolves := h.loads operation (resolves.of_subset subset operation)
  counts := h.counts

end Operation

/-! ## Resolution of references -/

/-- A cause that is no answer of the remote API. -/
def Failure.IsUnanswered (cause : Failure) : Prop :=
  cause.problem? = none

section

variable {references : List (Kind × Reference)}

/-- A reference is resolved by loading the object that it leads to. -/
theorem Reference.asks_resolve {r : Reference} (found : (K, r) ∈ references) :
  Asks (Operation.Resolves ns references) (r.resolve ns K)
  := by
  rw [resolve]
  apply asks_attempt_ask ⟨_, found, rfl⟩
  rintro (cause | _ | o)
  · trivial
  · trivial
  · dsimp only
    split
    · trivial
    · trivial

/-- References are resolved by loading the objects that they lead to, in order. -/
theorem Reference.asks_resolveAll {rs : List Reference} (found : ∀ r ∈ rs, (K, r) ∈ references) :
  Asks (Operation.Resolves ns references) (resolveAll ns K rs)
  := asks_attempt_mapM fun r listed => asks_resolve (found r listed)

theorem Reference.asks_resolveIfAny {r? : Option Reference}
    (found : ∀ r ∈ r?, (K, r) ∈ references) :
  Asks (Operation.Resolves ns references) (resolveIfAny ns K r?)
  := by
  cases r? with
  | none => trivial
  | some r => exact asks_resolve (found r rfl)

end

/-- A reference that cannot be resolved fails for a cause that is no answer of the remote API. -/
theorem ends_resolve (ns : String) (K : Kind) (r : Reference) :
  Ends (Meets (fun _ => True) Failure.IsUnanswered) (r.resolve ns K)
  := by
  rw [Reference.resolve]
  apply ends_attempt_ask
  rintro (cause | _ | o)
  · exact rfl
  · exact rfl
  · dsimp only [Ends]
    split
    · exact rfl
    · trivial

namespace Kind

/-- For the attachments of a server the references to them are resolved, and nothing else is
asked. -/
theorem asks_resolveAttachments (ns : String) (s : CloudServerSpec) (l : ServerLinks) :
  Asks (Operation.Resolves ns (attachmentReferences s)) (resolveAttachments ns s l)
  := by
  apply asks_attempt_bind
  · apply Reference.asks_resolveAll
    intro r found
    simp [attachmentReferences, found]
  intro subnets
  apply asks_attempt_bind
  · apply Reference.asks_resolveAll
    intro r found
    simp [attachmentReferences, found]
  intro groups
  apply asks_attempt_bind
  · apply Reference.asks_resolveIfAny
    rintro r found
    simp [attachmentReferences, Option.mem_def.mp found]
  intro address
  trivial

/-- For the links of an object its references are resolved, and nothing else is asked. -/
theorem asks_resolveLinks (ns : String) (K : Kind) (s : K.Spec) (l : K.Links) :
  Asks (Operation.Resolves ns (K.references s)) (K.resolveLinks ns s l)
  := by
  cases K with
  | project => trivial
  | vpc | keyPair | elasticIp | blockStorage =>
    apply asks_attempt_bind (Reference.asks_resolve (by simp [references]))
    intro project
    trivial
  | subnet | securityGroup =>
    apply asks_attempt_bind (Reference.asks_resolve (by simp [references]))
    intro project
    apply asks_attempt_bind (Reference.asks_resolve (by simp [references]))
    intro vpc
    trivial
  | securityRule =>
    apply asks_attempt_bind (Reference.asks_resolve (by simp [references]))
    intro project
    apply asks_attempt_bind (Reference.asks_resolve (by simp [references]))
    intro vpc
    apply asks_attempt_bind (Reference.asks_resolve (by simp [references]))
    intro group
    trivial
  | cloudServer =>
    have attachments (l : ServerLinks) := (asks_resolveAttachments ns s l).mono
      (Operation.Resolves.of_subset (attachmentReferences_subset s))
    apply asks_attempt_bind (Reference.asks_resolve (by simp [references]))
    intro project
    apply asks_attempt_bind (Reference.asks_resolve (by simp [references]))
    intro vpc
    apply asks_attempt_bind (Reference.asks_resolve (by simp [references]))
    intro volume
    apply asks_attempt_bind (Reference.asks_resolve (by simp [references]))
    intro keyPair
    exact attachments _

end Kind

/-! ## Requests -/

namespace Request

/-- What the answer to a request leads to. -/
def outcome : Except String Response → Except Failure String
  | .error detail => .error (.transport detail)
  | .ok response =>
    if response.isSuccess then .ok response.body
    else .error (.problem (.ofBody response.status response.body))

/-- A request is sent, and it is counted what comes of it. -/
theorem asks_answer_of {may : Operation → Prop} {r : Request} (sends : may (.send r))
    (counts : ∀ method status, may (.count (.apiRequests method status))) :
  Asks may r.answer
  := by
  rw [Request.answer]
  apply asks_attempt_ask
  · apply sends
  rintro (detail | response)
  · apply asks_attempt_ask
    · apply counts
    intro _
    trivial
  · apply asks_attempt_ask
    · apply counts
    intro _
    split
    · trivial
    · trivial

/-- A request for a report asks what the request asks. -/
theorem asks_report_of {may : Operation → Prop} {r : Request} (sends : may (.send r))
    (counts : ∀ method status, may (.count (.apiRequests method status))) :
  Asks may r.report
  := by
  apply asks_attempt_bind (asks_answer_of sends counts)
  intro body
  split
  · trivial
  · trivial

theorem asks_report (r : Request) :
  Asks (Operation.SendsOnly (· = r)) r.report
  := asks_report_of rfl fun _ _ => trivial

/-- So does a request that has to succeed. -/
theorem asks_succeed_of {may : Operation → Prop} {r : Request} (sends : may (.send r))
    (counts : ∀ method status, may (.count (.apiRequests method status))) :
  Asks may r.succeed
  := by
  apply asks_attempt_bind (asks_answer_of sends counts)
  intro _
  trivial

theorem asks_succeed (r : Request) :
  Asks (Operation.SendsOnly (· = r)) r.succeed
  := asks_succeed_of rfl fun _ _ => trivial

/-- What the answer to a request for a report leads to. -/
def reported (r : Request) (answer : Except String Response) : Except Failure ResourceReport :=
  match outcome answer with
  | .error cause => .error cause
  | .ok body =>
    match (Json.read body).bind ResourceReport.codec.decode with
    | some report => .ok report
    | none =>
      .error (.transport ("decoding response of " ++ r.label ++ " failed: no resource in the body"))

/-- An answer reports on a resource if it is a success with a report in its body. -/
theorem reported_eq_ok {r : Request} {answer : Except String Response} {report : ResourceReport} :
  r.reported answer = .ok report ↔
    ∃ response, answer = .ok response ∧ response.isSuccess ∧
      (Json.read response.body).bind ResourceReport.codec.decode = some report
  := by
  rcases answer with detail | response
  · simp [reported, outcome]
  by_cases success : response.isSuccess
  · cases read : (Json.read response.body).bind ResourceReport.codec.decode <;>
      simp [reported, outcome, success, read]
  · simp [reported, outcome, success]

/-- An answer with a report in its body reports it, or it is no success. -/
theorem reported_cases (r : Request) {response : Response} {report : ResourceReport}
    (read : (Json.read response.body).bind ResourceReport.codec.decode = some report) :
  response.isSuccess ∧ r.reported (.ok response) = .ok report ∨
    ¬ response.isSuccess ∧ ∃ cause, r.reported (.ok response) = .error cause
  := by
  by_cases success : response.isSuccess
  · exact .inl ⟨success, reported_eq_ok.mpr ⟨response, rfl, success, read⟩⟩
  · refine .inr ⟨success, .problem (.ofBody response.status response.body), ?_⟩
    simp [reported, outcome, success]

/-- A request is answered, and what it leads to is the outcome of the answer. -/
theorem takes_answer {r : Request} {course : Course} {result : Except Failure String}
    (h : Takes r.answer course (some result)) :
  ∃ answer rest, course = ⟨.send r, answer⟩ :: rest ∧
    (∀ exchange ∈ rest, exchange.question.isQuiet) ∧ result = outcome answer
  := by
  obtain ⟨-, ⟨⟩⟩ | ⟨answer, rest, rfl, goes⟩ := takes_attempt_ask.mp h
  refine ⟨answer, rest, rfl, ?_⟩
  cases answer with
  | error detail =>
    obtain ⟨-, ⟨⟩⟩ | ⟨-, rest, rfl, goes⟩ := takes_attempt_ask.mp goes
    obtain ⟨rfl, ⟨⟩⟩ := takes_attempt_throw.mp goes
    exact ⟨List.forall_mem_singleton.mpr (Operation.isQuiet_count _), rfl⟩
  | ok response =>
    obtain ⟨-, ⟨⟩⟩ | ⟨-, rest, rfl, goes⟩ := takes_attempt_ask.mp goes
    rw [outcome]
    split at goes
    · obtain ⟨rfl, ⟨⟩⟩ := takes_attempt_pure.mp goes
      exact ⟨List.forall_mem_singleton.mpr (Operation.isQuiet_count _), by simp [*]⟩
    · obtain ⟨rfl, ⟨⟩⟩ := takes_attempt_throw.mp goes
      exact ⟨List.forall_mem_singleton.mpr (Operation.isQuiet_count _), by simp [*]⟩

/-- A request for a report leads to what the answer reports. -/
theorem takes_report {r : Request} {course : Course} {result : Except Failure ResourceReport}
    (h : Takes r.report course (some result)) :
  ∃ answer rest, course = ⟨.send r, answer⟩ :: rest ∧
    (∀ exchange ∈ rest, exchange.question.isQuiet) ∧ result = r.reported answer
  := by
  unfold reported
  obtain ⟨-, ⟨⟩⟩ | ⟨cause, fails, ⟨⟩⟩ | ⟨body, first, second, rfl, succeeds, goes⟩ :=
    takes_attempt_bind.mp h
  · obtain ⟨answer, rest, course, quiet, same⟩ := takes_answer fails
    refine ⟨answer, rest, course, quiet, ?_⟩
    rw [← same]
  · obtain ⟨answer, rest, rfl, quiet, same⟩ := takes_answer succeeds
    refine ⟨answer, rest, ?_⟩
    rw [← same]
    split at goes
    · obtain ⟨rfl, ⟨⟩⟩ := takes_attempt_pure.mp goes
      rw [List.append_nil]
      exact ⟨rfl, quiet, by simp [*]⟩
    · obtain ⟨rfl, ⟨⟩⟩ := takes_attempt_throw.mp goes
      rw [List.append_nil]
      exact ⟨rfl, quiet, by simp [*]⟩

/-- A request succeeds if the outcome of its answer is a success. -/
theorem takes_succeed {r : Request} {course : Course} {result : Except Failure Unit}
    (h : Takes r.succeed course (some result)) :
  ∃ answer rest, course = ⟨.send r, answer⟩ :: rest ∧
    (∀ exchange ∈ rest, exchange.question.isQuiet) ∧
    result = (outcome answer).map fun _ => ()
  := by
  obtain ⟨answered, answers, rfl⟩ := takes_attempt_map h
  obtain ⟨answer, rest, rfl, quiet, rfl⟩ := takes_answer answers
  exact ⟨answer, rest, rfl, quiet, rfl⟩

end Request

/-! ## Exchanges with a remote resource -/

/-- A path with one more segment goes on after a slash. -/
theorem Endpoint.pathOf_concat (segments : List String) (last : String) :
  pathOf (segments ++ [last]) = pathOf segments ++ ("/" ++ last)
  := by
  rw [pathOf, List.map_append, List.map_singleton, String.join_append, pathOf]
  simp

namespace Object

variable {may : Operation → Prop}

/-- A creation resolves the references of the object and sends one kind of request. -/
theorem asks_create_of {o : Object K} {actor : Actor}
    (admits : Operation.Admits may actor.ns (K.references o.spec))
    (sends : ∀ links body, may (.send ⟨.post, (K.collection links).path, actor.bearer, body⟩)) :
  Asks may (o.create actor)
  := by
  apply asks_attempt_bind ((Kind.asks_resolveLinks ..).mono admits.loads)
  intro links
  apply asks_attempt_bind (Request.asks_report_of (sends ..) admits.counts)
  intro report
  trivial

/-- A creation posts to a collection of its kind, on behalf of its tenant. -/
theorem asks_create (o : Object K) (actor : Actor) :
  Asks (Operation.SendsOnly fun r => r.method = .post ∧
    (∃ links, r.path = (K.collection links).path) ∧ r.bearer = actor.bearer) (o.create actor)
  := asks_create_of Operation.admits_sendsOnly fun links _ => ⟨rfl, ⟨links, rfl⟩, rfl⟩

/-- A creation fails before it sends anything, or comes to what the answer to its one
request reports, with the links that were resolved for it. -/
theorem takes_create {o : Object K} {actor : Actor} {course : Course}
    {result : Except Failure (ResourceReport × Object K)}
    (h : Takes (o.create actor) course (some result)) :
  (∃ cause, result = .error cause) ∧ (∀ exchange ∈ course, exchange.question.isQuiet) ∨
    ∃ links r answer first rest, course = first ++ ⟨.send r, answer⟩ :: rest ∧
      (∀ exchange ∈ first, exchange.question.isQuiet) ∧
      (∀ exchange ∈ rest, exchange.question.isQuiet) ∧
      r.method = .post ∧ r.path = (K.collection links).path ∧
      result = (r.reported answer).map fun report => (report, o.recordLinks links)
  := by
  have resolves := (Kind.asks_resolveLinks actor.ns K o.spec o.links).mono fun _ =>
    Operation.Resolves.isQuiet
  obtain ⟨-, ⟨⟩⟩ | ⟨cause, fails, ⟨⟩⟩ | ⟨links, first, second, rfl, succeeds, goes⟩ :=
    takes_attempt_bind.mp h
  · exact .inl ⟨⟨cause, rfl⟩, fails.asked resolves⟩
  obtain ⟨reported, reports, rfl⟩ := takes_attempt_map goes
  obtain ⟨answer, rest, rfl, quiet, rfl⟩ := Request.takes_report reports
  exact .inr
    ⟨links, _, answer, first, rest, rfl, succeeds.asked resolves, quiet, rfl, rfl, rfl⟩

/-- A creation records the links that it resolved, and nothing else. -/
theorem ends_create (o : Object K) (actor : Actor) :
  Ends (Meets (fun created => ∃ links, created.2 = o.recordLinks links) fun _ => True)
    (o.create actor)
  := by
  apply ends_attempt_bind
  apply ends_of_forall
  rintro (cause | links)
  · trivial
  apply ends_attempt_bind
  apply ends_of_forall
  rintro (cause | report)
  · trivial
  · exact ⟨links, rfl⟩

/-- A look at a remote resource gets it, and sends nothing else. -/
theorem asks_remoteState (o : Object K) (actor : Actor) :
  Asks (Operation.SendsOnly (· = o.request actor .get none)) (o.remoteState actor)
  := by
  apply asks_attempt_bind (Request.asks_report _)
  intro report
  trivial

/-- A look at the remote resource comes to the state that its answer reports. -/
theorem takes_remoteState {o : Object K} {actor : Actor} {course : Course}
    {result : Except Failure (Option String)}
    (h : Takes (o.remoteState actor) course (some result)) :
  ∃ answer rest, course = ⟨.send (o.request actor .get none), answer⟩ :: rest ∧
    (∀ exchange ∈ rest, exchange.question.isQuiet) ∧
    result = ((o.request actor .get none).reported answer).map (·.state?)
  := by
  obtain ⟨reported, reports, rfl⟩ := takes_attempt_map h
  obtain ⟨answer, rest, rfl, quiet, rfl⟩ := Request.takes_report reports
  exact ⟨answer, rest, rfl, quiet, rfl⟩

/-- A deletion sends one request to the place of the resource. -/
theorem asks_delete (o : Object K) (actor : Actor) :
  Asks (Operation.SendsOnly (· = o.request actor .delete none)) (o.delete actor)
  := Request.asks_succeed _

/-! ### Updates -/

/-- The work on an object keeps its metadata, and all of its status that every kind has but
the identifier of the remote resource. -/
structure Keeps (o o' : Object K) : Prop where
  metadata : o'.metadata = o.metadata
  common : ∃ id, o'.statusOrInitial.toCommonStatus
    = { o.statusOrInitial.toCommonStatus with resourceID := id }

namespace Keeps

variable {o o' : Object K}

theorem generation (h : o.Keeps o') :
  o'.generation = o.generation
  := by
  rw [Object.generation, h.metadata, Object.generation]

/-- The work on an object keeps its phase. -/
theorem phase (h : o.Keeps o') :
  o'.phase = o.phase
  := by
  obtain ⟨id, common⟩ := h.common
  rw [← o'.phase_statusOrInitial, common, ← o.phase_statusOrInitial]

theorem observedGeneration (h : o.Keeps o') :
  o'.observedGeneration = o.observedGeneration
  := by
  obtain ⟨id, common⟩ := h.common
  rw [← o'.observedGeneration_statusOrInitial, common, ← o.observedGeneration_statusOrInitial]

theorem phaseStartTime (h : o.Keeps o') :
  o'.phaseStartTime = o.phaseStartTime
  := by
  obtain ⟨id, common⟩ := h.common
  rw [← o'.phaseStartTime_statusOrInitial, common, ← o.phaseStartTime_statusOrInitial]

end Keeps

/-- What an update may change of an object: its links, as long as its remote resource
stays in its place. -/
structure Rewired (o o' : Object K) : Prop where
  metadata : o'.metadata = o.metadata
  common : o'.statusOrInitial.toCommonStatus = o.statusOrInitial.toCommonStatus
  item : ∀ id, K.item o'.links id = K.item o.links id

namespace Rewired

variable {o o' o'' : Object K}

theorem refl (o : Object K) :
  o.Rewired o
  := ⟨rfl, rfl, fun _ => rfl⟩

/-- What is rewired twice is rewired. -/
theorem trans (h : o.Rewired o') (h' : o'.Rewired o'') :
  o.Rewired o''
  where
  metadata := h'.metadata.trans h.metadata
  common := h'.common.trans h.common
  item id := (h'.item id).trans (h.item id)

/-- Links that change leave the rest of the status, the identifier included. -/
theorem keeps (h : o.Rewired o') :
  o.Keeps o'
  := ⟨h.metadata, o.statusOrInitial.resourceID, h.common⟩

theorem phase (h : o.Rewired o') :
  o'.phase = o.phase
  := h.keeps.phase

theorem resourceID (h : o.Rewired o') :
  o'.resourceID = o.resourceID
  := by
  rw [← o'.resourceID_statusOrInitial, h.common, o.resourceID_statusOrInitial]

/-- An object whose links change keeps its remote resource in its place. -/
theorem endpoint (h : o.Rewired o') :
  o'.endpoint = o.endpoint
  := by
  rw [Object.endpoint, h.resourceID, h.item, Object.endpoint]

end Rewired

/-- The links are recorded beside what every kind has in its status. -/
theorem common_recordLinks (o : Object K) (links : K.Links) :
  (o.recordLinks links).statusOrInitial.toCommonStatus = o.statusOrInitial.toCommonStatus
  := by
  cases K <;> rfl

theorem common_recordID (o : Object K) (id : String) :
  (o.recordID id).statusOrInitial.toCommonStatus
    = { o.statusOrInitial.toCommonStatus with resourceID := id }
  := rfl

/-- Links that place the resource where it was are recorded without harm. -/
theorem rewired_recordLinks {o : Object K} {links : K.Links}
    (item : ∀ id, K.item links id = K.item o.links id) :
  o.Rewired (o.recordLinks links)
  where
  metadata := metadata_recordLinks o links
  common := common_recordLinks o links
  item id := by
    rw [links_recordLinks]
    apply item

/-- Attachments are resolved with the project and the data volumes left as they are. -/
theorem ends_resolveAttachments (ns : String) (s : CloudServerSpec) (l : ServerLinks) :
  Ends (Meets (fun l' => l'.project = l.project ∧ l'.dataVolumes = l.dataVolumes) fun _ => True)
    (Kind.resolveAttachments ns s l)
  := by
  apply ends_attempt_bind
  apply ends_of_forall
  rintro (cause | subnets)
  · trivial
  apply ends_attempt_bind
  apply ends_of_forall
  rintro (cause | groups)
  · trivial
  apply ends_attempt_bind
  apply ends_of_forall
  rintro (cause | address)
  · trivial
  · exact ⟨rfl, rfl⟩

/-- A server after its attachments were recorded: its specification is the same, and its data
volumes stay listed. -/
structure Attached (o o' : Object .cloudServer) : Prop where
  rewired : o.Rewired o'
  spec : o'.spec = o.spec
  volumes : ServerLinks.dataVolumes o'.links = ServerLinks.dataVolumes o.links

/-- Attachments are recorded with nothing else changed, or they are not recorded at all. -/
theorem ends_attach (o : Object .cloudServer) (actor : Actor) :
  Ends (Meets o.Attached fun _ => True) (o.attach actor)
  := by
  apply ends_attempt_bind
  apply (ends_resolveAttachments ..).mono
  rintro (cause | links) kept
  · trivial
  apply ends_attempt_bind
  apply ends_of_forall
  rintro (cause | _)
  · trivial
  · refine ⟨rewired_recordLinks fun id => ?_, rfl, kept.2⟩
    exact congrArg (Endpoint.cloudServer · id) kept.1

/-- The data volumes that are recorded leave the server in its place. -/
theorem ends_syncVolumes (o : Object .cloudServer) (actor : Actor) :
  Ends (Meets o.Rewired fun _ => True) (o.syncVolumes actor)
  := by
  apply ends_attempt_bind
  apply ends_of_forall
  rintro (cause | ⟨change, desired⟩)
  · trivial
  dsimp only [Meets]
  split
  · apply Rewired.refl o
  · apply ends_attempt_bind
    apply ends_of_forall
    rintro (cause | _)
    · trivial
    · apply rewired_recordLinks
      intro id
      rfl

/-- The attachments of a server are sent where its specification changed, and it stays in its
place. -/
theorem ends_attach_of_changed (o : Object .cloudServer) (actor : Actor) (changed : Bool) :
  Ends (Meets o.Attached fun _ => True) (if changed then o.attach actor else return o : Attempt _)
  := by
  cases changed
  · exact ⟨.refl o, rfl, rfl⟩
  · apply ends_attach

/-- An update may change the links of the object and nothing else, even where it fails. -/
theorem ends_update (o : Object K) (actor : Actor) (changed : Bool) :
  Ends (fun result => o.Rewired result.2) (o.update actor changed)
  := by
  cases K with
  | cloudServer =>
    apply ends_bind
    apply (o.ends_attach_of_changed actor changed).mono
    rintro (cause | o₁) attached
    · apply Rewired.refl o
    apply ends_bind
    apply (ends_syncVolumes o₁ actor).mono
    rintro (cause | o₂) rewired
    · exact attached.rewired
    · exact attached.rewired.trans rewired
  | _ =>
    apply ends_bind
    apply ends_of_forall
    intro result
    apply Rewired.refl o

/-- For the change of its data volumes the references of a server to them are resolved, and nothing
else is asked. -/
theorem asks_volumeChange (o : Object .cloudServer) (actor : Actor) :
  Asks (Operation.Resolves actor.ns (Kind.cloudServer.references o.spec)) (o.volumeChange actor)
  := by
  apply asks_attempt_bind
  · apply asks_attempt_bind
    · apply Reference.asks_resolveAll
      intro r found
      simp [Kind.references, found]
    intro ids
    trivial
  intro desired
  trivial

/-- A request that an update of an object sends: for the properties of its remote resource, or
for the data volumes of a server. -/
def IsUpdate (o : Object K) (r : Request) : Prop :=
  r.method = .put ∧ r.path = o.endpoint.path ∨
    r.method = .post ∧ K = .cloudServer ∧ r.path = o.endpoint.path ++ "/dataVolumes"

/-- The data volumes of a server have their place below the server. -/
theorem path_dataVolumes (o : Object .cloudServer) :
  (Endpoint.dataVolumes (ServerLinks.project o.links) o.resourceID).path
    = o.endpoint.path ++ "/dataVolumes"
  := Endpoint.pathOf_concat (Endpoint.segments o.endpoint) "dataVolumes"

/-- An update that posts is one of data volumes. -/
theorem IsUpdate.dataVolumes {o : Object K} {r : Request} (h : o.IsUpdate r)
    (posts : r.method = .post) :
  ∃ project server, r.path = (Endpoint.dataVolumes project server).path
  := by
  obtain ⟨put, -⟩ | ⟨-, rfl, place⟩ := h
  · cases put.symm.trans posts
  · exact ⟨_, _, place.trans o.path_dataVolumes.symm⟩

/-- What updates an object after its links changed updates the object that it was. -/
theorem Rewired.isUpdate {o o' : Object K} (h : o.Rewired o') {r : Request}
    (update : o'.IsUpdate r) :
  o.IsUpdate r
  := by
  rw [IsUpdate, ← h.endpoint]
  exact update

/-- The attachments of a server are resolved, and one request is sent to its own place. -/
theorem asks_attach_of {o : Object .cloudServer} {actor : Actor}
    (admits : Operation.Admits may actor.ns (Kind.attachmentReferences o.spec))
    (sends : ∀ body, may (.send (o.request actor .put body))) :
  Asks may (o.attach actor)
  := by
  apply asks_attempt_bind ((Kind.asks_resolveAttachments ..).mono admits.loads)
  intro links
  apply asks_attempt_bind (Request.asks_succeed_of (sends _) admits.counts)
  intro _
  trivial

/-- The data volumes of a server are resolved, and a request about them is sent if they have to
change. -/
theorem asks_syncVolumes_of {o : Object .cloudServer} {actor : Actor}
    (admits : Operation.Admits may actor.ns (Kind.cloudServer.references o.spec))
    (sends : ∀ body, may (.send ⟨.post, o.endpoint.path ++ "/dataVolumes", actor.bearer, body⟩)) :
  Asks may (o.syncVolumes actor)
  := by
  rw [← o.path_dataVolumes] at sends
  apply asks_attempt_bind ((o.asks_volumeChange actor).mono admits.loads)
  rintro ⟨change, desired⟩
  dsimp only
  split
  · trivial
  · apply asks_attempt_bind (Request.asks_succeed_of (sends _) admits.counts)
    intro _
    trivial

/-- An update sends the properties of the resource, or data volumes, on behalf of the tenant. -/
theorem asks_update (o : Object K) (actor : Actor) (changed : Bool) :
  Asks (Operation.SendsOnly fun r => o.IsUpdate r ∧ r.bearer = actor.bearer)
    (o.update actor changed)
  := by
  cases K with
  | cloudServer =>
    apply asks_bind_of_ends
    · cases changed
      · trivial
      · exact asks_attach_of Operation.admits_sendsOnly fun _ => ⟨.inl ⟨rfl, rfl⟩, rfl⟩
    -- the data volumes are those of the server that the attachments are recorded in
    apply (o.ends_attach_of_changed actor changed).mono
    rintro (cause | o₁) attached
    · trivial
    apply asks_bind
    · apply asks_syncVolumes_of Operation.admits_sendsOnly
      exact fun _ => ⟨attached.rewired.isUpdate (.inr ⟨rfl, rfl, rfl⟩), rfl⟩
    rintro (cause | o₂)
    · trivial
    · trivial
  | _ =>
    apply asks_bind (Request.asks_succeed_of ⟨.inl ⟨rfl, rfl⟩, rfl⟩ fun _ _ => trivial)
    intro result
    trivial

/-! ### Drift -/

/-- A comparison loads objects, and asks nothing of the remote API. -/
theorem asks_drift? (o : Object K) (actor : Actor) :
  Asks (·.isLoad) (o.drift? actor)
  := by
  cases K with
  | cloudServer =>
    apply asks_attempt_bind ((o.asks_volumeChange actor).mono fun _ => Operation.Resolves.isLoad)
    intro change
    trivial
  | _ => trivial

/-- The comparison with a remote resource fails only where references cannot be
resolved: no answer of the remote API is asked for. -/
theorem ends_drift? (o : Object K) (actor : Actor) :
  Ends (Meets (fun _ => True) Failure.IsUnanswered) (o.drift? actor)
  := by
  cases K with
  | cloudServer =>
    apply ends_attempt_bind
    apply ends_attempt_bind
    apply ends_attempt_bind
    apply (ends_attempt_mapM (ends_resolve actor.ns .blockStorage) _).mono
    rintro (cause | ids) holds
    · apply holds
    · trivial
  | _ => trivial

end Object

end CloudOperator
