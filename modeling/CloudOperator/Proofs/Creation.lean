import CloudOperator.Proofs.Convergence
import CloudOperator.Proofs.Dependence
import CloudOperator.Proofs.Effects
import CloudOperator.Proofs.Troubles

/-!
# Creations

The remote resource of an object is created from the resources that its references lead to.
Where objects are loaded as a lookup tells, the references are resolved in order: the creation
fails with the cause of the first one that leads nowhere, before anything is sent, or the
identifiers that they lead to make up the path and the body of one request
(`Work.create_allOrNothing`).

* `Lookup.Resolves` says what a program that resolves references comes to, and
  `Lookup.resolves_resolveLinks` says so of the links of each kind.
* `Json.uris` are the places that a body refers to, and `Payload.urisOfMembers_creation` tells them
  for the body of each kind.
-/

namespace CloudOperator

open Program
open Course (requests)

variable {K : Kind} {ns : String}

/-! ## Lookups -/

/-- What is answered where an object is loaded. -/
abbrev Lookup :=
  (K : Kind) → (ns name : String) → Except StoreFailure (Option (Object K))

namespace Lookup

variable (lookup : Lookup) (ns : String)

/-- The identifier that a reference to an object of a kind leads to, or the cause for which it
leads nowhere. -/
def resolve (r : Kind × Reference) : Except Failure String :=
  match lookup r.1 (r.2.namespaceOr ns) r.2.name with
  | .error cause => .error (.store cause)
  | .ok none => .error (.referenceNotFound r.1.name (r.2.namespaceOr ns) r.2.name)
  | .ok (some o) =>
    if o.resourceID = "" then
      .error (.dependencyNotReady r.1.name (r.2.namespaceOr ns) r.2.name)
    else .ok o.resourceID

/-- The cause for which a reference leads nowhere. -/
def failure? (r : Kind × Reference) : Option Failure :=
  match lookup.resolve ns r with
  | .error cause => some cause
  | .ok _ => none

/-- The identifier that a reference leads to, empty if it leads nowhere. -/
def id (r : Kind × Reference) : String :=
  (lookup.resolve ns r).toOption.getD ""

/-- A reference leads to an object whose remote resource has an identifier. -/
def Finds (r : Kind × Reference) : Prop :=
  ∃ o, lookup r.1 (r.2.namespaceOr ns) r.2.name = .ok (some o) ∧ o.resourceID ≠ ""

variable {lookup ns} {r : Kind × Reference}

theorem failure?_eq_none :
  lookup.failure? ns r = none ↔ lookup.Finds ns r
  := by
  unfold failure? Finds resolve
  rcases lookup r.1 (r.2.namespaceOr ns) r.2.name with cause | _ | o
  · simp
  · simp
  · by_cases unready : o.resourceID = ""
    · simp [unready]
    · simp [unready]

/-- The identifier that is found is that of the object that is looked up. -/
theorem id_ne_empty (finds : lookup.Finds ns r) :
  lookup.id ns r ≠ ""
  := by
  obtain ⟨o, found, ready⟩ := finds
  simp [id, resolve, found, ready, Except.toOption]

/-- On a course objects are loaded as they are looked up. -/
def Answers (lookup : Lookup) (course : Course) : Prop :=
  ∀ K ns name answer, ⟨.load K ns name, answer⟩ ∈ course → answer = lookup K ns name

theorem Answers.of_append {first second : Course} (h : lookup.Answers (first ++ second)) :
  lookup.Answers first ∧ lookup.Answers second
  := ⟨fun K ns name answer found => h K ns name answer (List.mem_append_left _ found),
    fun K ns name answer found => h K ns name answer (List.mem_append_right _ found)⟩

/-- What comes of references that are resolved in order for a value: the cause of the first one
that leads nowhere, or the value. -/
def outcome {α : Type} (lookup : Lookup) (ns : String) (references : List (Kind × Reference))
    (value : α) : Except Failure α :=
  match references.findSome? (lookup.failure? ns) with
  | some cause => .error cause
  | none => .ok value

/-- Where objects are loaded as they are looked up, a program resolves references in order for a
value. -/
structure Resolves {α : Type} (lookup : Lookup) (ns : String)
    (references : List (Kind × Reference)) (program : Attempt α) (value : α) : Prop where
  result_eq : ∀ course result, lookup.Answers course → Takes program course (some result) →
    result = lookup.outcome ns references value

section

variable {α β : Type} {references others : List (Kind × Reference)}

theorem resolves_pure (value : α) :
  lookup.Resolves ns [] (pure value) value
  where
  result_eq course result _ h := by
    obtain ⟨-, ⟨⟩⟩ := takes_attempt_pure.mp h
    rfl

theorem outcome_append (a : α) (b : β) :
  lookup.outcome ns (references ++ others) b
    = (lookup.outcome ns references a).bind fun _ => lookup.outcome ns others b
  := by
  rw [outcome, outcome, List.findSome?_append]
  cases references.findSome? (lookup.failure? ns) <;> rfl

theorem eq_of_outcome_eq_ok {a a' : α} (h : lookup.outcome ns references a = .ok a') :
  a' = a
  := by
  unfold outcome at h
  split at h
  · cases h
  · exact (Except.ok.inj h).symm

theorem Resolves.bind {program : Attempt α} {f : α → Attempt β} {a : α} {b : β}
    (first : lookup.Resolves ns references program a)
    (second : lookup.Resolves ns others (f a) b) :
  lookup.Resolves ns (references ++ others) (program >>= f) b
  where
  result_eq course result answers h := by
    rw [outcome_append a b]
    obtain ⟨-, ⟨⟩⟩ | ⟨cause, fails, ⟨⟩⟩ | ⟨a', opening, rest, rfl, ends, goes⟩ :=
      takes_attempt_bind.mp h
    · rw [← first.result_eq _ _ answers fails]
      rfl
    · obtain ⟨answers, answers'⟩ := answers.of_append
      have resolved := first.result_eq _ _ answers ends
      obtain rfl := eq_of_outcome_eq_ok resolved.symm
      rw [← resolved]
      exact second.result_eq _ _ answers' goes

theorem Resolves.map {program : Attempt α} {a : α} (h : lookup.Resolves ns references program a)
    (f : α → β) :
  lookup.Resolves ns references (program >>= fun a => pure (f a)) (f a)
  := by
  rw [← List.append_nil references]
  apply h.bind
  apply resolves_pure

end

/-! ### Resolution of references -/

theorem resolves_resolve (lookup : Lookup) (ns : String) (K : Kind) (r : Reference) :
  lookup.Resolves ns [(K, r)] (r.resolve ns K) (lookup.id ns (K, r))
  where
  result_eq course result answers h := by
    obtain ⟨-, ⟨⟩⟩ | ⟨answer, rest, rfl, goes⟩ := takes_attempt_ask.mp h
    obtain rfl := answers _ _ _ _ List.mem_cons_self
    suffices same : result = lookup.resolve ns (K, r) by
      rw [same, outcome, List.findSome?_singleton, failure?, id]
      cases lookup.resolve ns (K, r) <;> rfl
    unfold Lookup.resolve
    dsimp only
    split at goes
    · obtain ⟨rfl, ⟨⟩⟩ := takes_attempt_throw.mp goes
      simp [*]
    · obtain ⟨rfl, ⟨⟩⟩ := takes_attempt_throw.mp goes
      simp [*]
    · split at goes
      · obtain ⟨rfl, ⟨⟩⟩ := takes_attempt_throw.mp goes
        simp [*]
      · obtain ⟨rfl, ⟨⟩⟩ := takes_attempt_pure.mp goes
        simp [*]

theorem resolves_resolveAll (lookup : Lookup) (ns : String) (K : Kind) (rs : List Reference) :
  lookup.Resolves ns (rs.map (K, ·)) (Reference.resolveAll ns K rs)
    (rs.map fun r => lookup.id ns (K, r))
  := by
  rw [Reference.resolveAll]
  induction rs with
  | nil =>
    rw [List.mapM_nil]
    apply resolves_pure
  | cons r rs ih =>
    rw [List.mapM_cons]
    apply (lookup.resolves_resolve ns K r).bind
    apply ih.map

theorem resolves_resolveIfAny (lookup : Lookup) (ns : String) (K : Kind) (r? : Option Reference) :
  lookup.Resolves ns (r?.toList.map (K, ·)) (Reference.resolveIfAny ns K r?)
    ((r?.map fun r => lookup.id ns (K, r)).getD "")
  := by
  cases r? with
  | none => apply resolves_pure
  | some r => apply resolves_resolve

end Lookup

/-! ## Links -/

namespace Kind

/-- The references that a resource of a kind is created from, in the order in which they are
resolved.  The data volumes of a server are attached after that. -/
def creationReferences : (K : Kind) → K.Spec → List (Kind × Reference)
  | cloudServer, s => cloudServer.references { (s : CloudServerSpec) with dataVolumes := [] }
  | K, s => K.references s

variable (id : Kind × Reference → String)

/-- The links by which a resource is created if its references lead to the given identifiers. -/
def linksBy : (K : Kind) → K.Spec → K.Links → K.Links
  | project, _, l => l
  | vpc, s, _ => ⟨id (project, VpcSpec.project s)⟩
  | keyPair, s, _ => ⟨id (project, KeyPairSpec.project s)⟩
  | elasticIp, s, _ => ⟨id (project, ElasticIpSpec.project s)⟩
  | blockStorage, s, _ => ⟨id (project, BlockStorageSpec.project s)⟩
  | subnet, s, _ => ⟨id (project, SubnetSpec.project s), id (vpc, SubnetSpec.vpc s)⟩
  | securityGroup, s, _ =>
    ⟨id (project, SecurityGroupSpec.project s), id (vpc, SecurityGroupSpec.vpc s)⟩
  | securityRule, s, _ =>
    ⟨id (project, SecurityRuleSpec.project s), id (vpc, SecurityRuleSpec.vpc s),
      id (securityGroup, SecurityRuleSpec.securityGroup s)⟩
  | cloudServer, s, l =>
    { (l : ServerLinks) with
      project := id (project, CloudServerSpec.project s)
      vpc := id (vpc, CloudServerSpec.vpc s)
      bootVolume := id (blockStorage, CloudServerSpec.bootVolume s)
      keyPair := id (keyPair, CloudServerSpec.keyPair s)
      subnets := (CloudServerSpec.subnets s).map fun r => id (subnet, r)
      securityGroups := (CloudServerSpec.securityGroups s).map fun r => id (securityGroup, r)
      elasticIp := ((CloudServerSpec.elasticIp s).map fun r => id (elasticIp, r)).getD "" }

/-- The collection that a resource is created in. -/
def creationPlace : (K : Kind) → K.Spec → Endpoint
  | project, _ => .projects
  | vpc, s => .vpcs (id (project, VpcSpec.project s))
  | keyPair, s => .keyPairs (id (project, KeyPairSpec.project s))
  | elasticIp, s => .elasticIps (id (project, ElasticIpSpec.project s))
  | blockStorage, s => .blockStorages (id (project, BlockStorageSpec.project s))
  | subnet, s => .subnets (id (project, SubnetSpec.project s)) (id (vpc, SubnetSpec.vpc s))
  | securityGroup, s =>
    .securityGroups (id (project, SecurityGroupSpec.project s)) (id (vpc, SecurityGroupSpec.vpc s))
  | securityRule, s =>
    .securityRules (id (project, SecurityRuleSpec.project s)) (id (vpc, SecurityRuleSpec.vpc s))
      (id (securityGroup, SecurityRuleSpec.securityGroup s))
  | cloudServer, s => .cloudServers (id (project, CloudServerSpec.project s))

/-- The places that the body of a creation refers to, in order; only that for a server does. -/
def creationUris : (K : Kind) → K.Spec → List Endpoint
  | cloudServer, s =>
    let p := id (project, CloudServerSpec.project s)
    let v := id (vpc, CloudServerSpec.vpc s)
    [.vpc p v, .blockStorage p (id (blockStorage, CloudServerSpec.bootVolume s)),
      .keyPair p (id (keyPair, CloudServerSpec.keyPair s))]
      ++ (CloudServerSpec.elasticIp s).toList.map (fun r => .elasticIp p (id (elasticIp, r)))
      ++ (CloudServerSpec.subnets s).map (fun r => .subnet p v (id (subnet, r)))
      ++ (CloudServerSpec.securityGroups s).map (fun r => .securityGroup p v (id (securityGroup, r)))
  | _, _ => []

theorem collection_linksBy (K : Kind) (s : K.Spec) (l : K.Links) :
  K.collection (K.linksBy id s l) = K.creationPlace id s
  := by
  cases K <;> rfl

end Kind

namespace Lookup

theorem resolves_resolveAttachments (lookup : Lookup) (ns : String) (s : CloudServerSpec)
    (l : ServerLinks) :
  lookup.Resolves ns (s.subnets.map (Kind.subnet, ·) ++ (s.securityGroups.map (Kind.securityGroup, ·)
      ++ s.elasticIp.toList.map (Kind.elasticIp, ·))) (Kind.resolveAttachments ns s l)
    { l with
      subnets := s.subnets.map fun r => lookup.id ns (.subnet, r)
      securityGroups := s.securityGroups.map fun r => lookup.id ns (.securityGroup, r)
      elasticIp := (s.elasticIp.map fun r => lookup.id ns (.elasticIp, r)).getD "" }
  := by
  apply Resolves.bind (lookup.resolves_resolveAll ..)
  apply Resolves.bind (lookup.resolves_resolveAll ..)
  apply Resolves.map (lookup.resolves_resolveIfAny ..)

/-- The links of an object are resolved by all references that it is created from. -/
theorem resolves_resolveLinks (lookup : Lookup) (ns : String) (K : Kind) (s : K.Spec)
    (l : K.Links) :
  lookup.Resolves ns (K.creationReferences s) (K.resolveLinks ns s l)
    (K.linksBy (lookup.id ns) s l)
  := by
  cases K with
  | project => apply resolves_pure
  | vpc | keyPair | elasticIp | blockStorage => apply Resolves.map (lookup.resolves_resolve ..)
  | subnet | securityGroup =>
    apply Resolves.bind (lookup.resolves_resolve ..)
    apply Resolves.map (lookup.resolves_resolve ..)
  | securityRule =>
    apply Resolves.bind (lookup.resolves_resolve ..)
    apply Resolves.bind (lookup.resolves_resolve ..)
    apply Resolves.map (lookup.resolves_resolve ..)
  | cloudServer =>
    rw [Kind.creationReferences, Kind.references]
    simp only [List.map_nil, List.append_nil, List.append_assoc]
    apply Resolves.bind (lookup.resolves_resolve ..)
    apply Resolves.bind (lookup.resolves_resolve ..)
    apply Resolves.bind (lookup.resolves_resolve ..)
    apply Resolves.bind (lookup.resolves_resolve ..)
    apply resolves_resolveAttachments

end Lookup

/-! ## Places that a body refers to -/

namespace Json

/-- The text of a member that is called `uri`. -/
def ownUri (name : String) : Json → List String
  | text value => if name = "uri" then [value] else []
  | _ => []

mutual

/-- The texts of the members called `uri` of all objects in a value, in order. -/
def uris : Json → List String
  | array items => urisOfItems items
  | object members => urisOfMembers members
  | _ => []

/-- Those of the items of an array. -/
def urisOfItems : List Json → List String
  | [] => []
  | item :: items => item.uris ++ urisOfItems items

/-- Those of the members of an object. -/
def urisOfMembers : List (String × Json) → List String
  | [] => []
  | (name, value) :: members => ownUri name value ++ (value.uris ++ urisOfMembers members)

end

theorem ownUri_of_ne {name : String} (other : name ≠ "uri") (value : Json) :
  ownUri name value = []
  := by
  cases value <;> simp [ownUri, other]

@[simp]
theorem urisOfMembers_append (first second : List (String × Json)) :
  urisOfMembers (first ++ second) = urisOfMembers first ++ urisOfMembers second
  := by
  induction first with
  | nil => simp [urisOfMembers]
  | cons member first ih => simp [urisOfMembers, ih]

/-- A list of texts refers to nothing. -/
theorem urisOfItems_texts (texts : List String) :
  urisOfItems (texts.map text) = []
  := by
  induction texts with
  | nil => simp [urisOfItems]
  | cons text texts ih => simp [urisOfItems, uris, ih]

end Json

namespace Payload

open Json

@[simp]
theorem uris_uri (e : Endpoint) :
  (uri e).uris = [e.path]
  := by
  simp [uri, text, uris, urisOfMembers, ownUri]

/-- A list of references to places. -/
@[simp]
theorem urisOfItems_uri {α : Type} (place : α → Endpoint) (items : List α) :
  urisOfItems (items.map fun a => uri (place a)) = items.map fun a => (place a).path
  := by
  induction items with
  | nil => simp [urisOfItems]
  | cons a items ih => simp [urisOfItems, uris_uri, ih]

variable {name : String}

@[simp]
theorem urisOfMembers_text (other : name ≠ "uri") (value : String) :
  urisOfMembers (text name value) = []
  := by
  simp [text, urisOfMembers, ownUri_of_ne other, uris]

@[simp]
theorem urisOfMembers_textUnlessEmpty (other : name ≠ "uri") (value : String) :
  urisOfMembers (textUnlessEmpty name value) = []
  := by
  rw [textUnlessEmpty]
  split
  · simp [urisOfMembers]
  · exact urisOfMembers_text other value

@[simp]
theorem urisOfMembers_flag (value : Bool) :
  urisOfMembers (flag name value) = []
  := by
  simp [flag, urisOfMembers, ownUri, uris]

@[simp]
theorem urisOfMembers_flagIfSet (value : Bool) :
  urisOfMembers (flagIfSet name value) = []
  := by
  rw [flagIfSet]
  split
  · apply urisOfMembers_flag
  · simp [urisOfMembers]

@[simp]
theorem urisOfMembers_listUnlessEmpty (items : List Json) :
  urisOfMembers (listUnlessEmpty name items) = urisOfItems items
  := by
  rw [listUnlessEmpty]
  split
  · simp_all [urisOfMembers, urisOfItems]
  · simp [urisOfMembers, ownUri, uris]

/-- The metadata of a resource refers to nothing. -/
theorem uris_metadata (o : Object K) :
  (metadata o).uris = []
  := by
  rw [metadata, uris, urisOfMembers_append, urisOfMembers_append, urisOfMembers_text (by decide),
    urisOfMembers_listUnlessEmpty, urisOfItems_texts]
  cases K.location? o.spec <;> rfl

theorem uris_body (o : Object K) (properties : List (String × Json)) :
  (body o properties).uris = urisOfMembers properties
  := by
  simp [body, uris, urisOfMembers, ownUri_of_ne, uris_metadata]

/-- The attachments of a server refer to its address, if it has one, and then to its subnets and
its security groups. -/
theorem urisOfMembers_attachments (l : ServerLinks) :
  urisOfMembers (attachments l) =
    (if l.elasticIp = "" then [] else [(Endpoint.elasticIp l.project l.elasticIp).path])
      ++ l.subnets.map (fun id => (Endpoint.subnet l.project l.vpc id).path)
      ++ l.securityGroups.map (fun id => (Endpoint.securityGroup l.project l.vpc id).path)
  := by
  rw [attachments, urisOfMembers_append, urisOfMembers_append, urisOfMembers_listUnlessEmpty,
    urisOfMembers_listUnlessEmpty, urisOfItems_uri, urisOfItems_uri]
  congr 2
  split
  · simp [urisOfMembers]
  · simp [urisOfMembers, ownUri, uri, text, uris]

/-! ### Bodies of creations -/

@[simp]
theorem urisOfMembers_network (network : SubnetNetwork) :
  urisOfMembers (SubnetNetwork.fields.encode network) = []
  := rfl

@[simp]
theorem urisOfMembers_dhcp (dhcp : SubnetDhcp) :
  urisOfMembers (SubnetDhcp.fields.encode dhcp) = []
  := rfl

@[simp]
theorem urisOfMembers_target (target : RuleTarget) :
  urisOfMembers (RuleTarget.fields.encode target) = []
  := rfl

@[simp]
theorem urisOfMembers_billingPlan (plan : BillingPlan) :
  urisOfMembers (BillingPlan.fields.encode plan) = []
  := rfl

@[simp]
theorem uris_int32 (n : Int32) :
  (Codec.int32.encode n).uris = []
  := by
  simp [Codec.int32, uris]

variable {id : Kind × Reference → String}

/-- The body for a server refers to all that the server is wired to. -/
theorem urisOfMembers_server (s : CloudServerSpec) (l : ServerLinks)
    (present : ∀ r, s.elasticIp = some r → id (.elasticIp, r) ≠ "") :
  urisOfMembers (server s (Kind.cloudServer.linksBy id s l))
    = (Kind.cloudServer.creationUris id s).map (·.path)
  := by
  have address : (if ((s.elasticIp.map fun r => id (.elasticIp, r)).getD "") = "" then []
      else [(Endpoint.elasticIp (id (.project, s.project))
        ((s.elasticIp.map fun r => id (.elasticIp, r)).getD "")).path])
      = s.elasticIp.toList.map fun r =>
        (Endpoint.elasticIp (id (.project, s.project)) (id (.elasticIp, r))).path := by
    cases own : s.elasticIp with
    | none => rfl
    | some r => simp [present r own]
  simp [server, urisOfMembers, ownUri_of_ne, urisOfMembers_attachments, Kind.linksBy,
    Kind.creationUris, address, Function.comp_def]

/-- The body of a creation refers to the places that the identifiers of its references make up. -/
theorem urisOfMembers_creation (K : Kind) (s : K.Spec) (l : K.Links)
    (present : ∀ r ∈ K.creationReferences s, id r ≠ "") :
  urisOfMembers (creation K s (K.linksBy id s l)) = (K.creationUris id s).map (·.path)
  := by
  cases K with
  | cloudServer =>
    apply urisOfMembers_server
    intro r own
    apply present
    simp [Kind.creationReferences, Kind.references, own]
  | project => simp [creation, project, Kind.creationUris]
  | vpc | keyPair | securityGroup => simp [creation, Kind.creationUris]
  | subnet =>
    simp [creation, subnet, urisOfMembers, ownUri_of_ne, uris, Kind.creationUris]
  | securityRule =>
    simp [creation, securityRule, urisOfMembers, ownUri_of_ne, uris, Kind.creationUris]
  | elasticIp =>
    simp [creation, elasticIp, urisOfMembers, ownUri_of_ne, uris, Kind.creationUris]
  | blockStorage =>
    simp [creation, volume, urisOfMembers, ownUri_of_ne, Kind.creationUris]

end Payload

/-! ## Creations -/

namespace Program

variable {Question : Type} {Answer : Question → Type} {α σ : Type}

/-- A program that comes to a result whatever it is answered comes to one wherever it is run. -/
theorem Stays.exists_run {program : Program Answer α} (stays : program.Stays)
    (answer : (question : Question) → StateM σ (Answer question)) (s : σ) :
  ∃ result, (program.run answer s).1 = some result
  := by
  induction program generalizing s with
  | done result => exact ⟨result, rfl⟩
  | overflow => cases stays
  | ask question next ih => exact ih _ (stays _) _

end Program

variable {lookup : Lookup} {o o' : Object K} {actor : Actor} {course : Course}

/-- A reference that leads nowhere keeps a creation from sending anything, and the first one is
what it fails for.  Otherwise one request is sent, and the creation comes to what its answer
reports. -/
theorem Object.create_cases {result : Except Failure (ResourceReport × Object K)}
    (h : Takes (o.create actor) course (some result)) (answers : lookup.Answers course) :
  (∃ cause, (K.creationReferences o.spec).findSome? (lookup.failure? actor.ns) = some cause ∧
      requests course = [] ∧ result = .error cause) ∨
    (K.creationReferences o.spec).findSome? (lookup.failure? actor.ns) = none ∧
      ∃ request answer, requests course = [request] ∧
        (let links := K.linksBy (lookup.id actor.ns) o.spec o.links
        request = ⟨.post, (K.collection links).path, actor.bearer,
          some (Payload.body o (Payload.creation K o.spec links))⟩ ∧
        result = (request.reported answer).map fun report => (report, o.recordLinks links))
  := by
  have loads := (Kind.asks_resolveLinks actor.ns K o.spec o.links).mono Operation.Resolves.unsent
  have resolves := lookup.resolves_resolveLinks actor.ns K o.spec o.links
  obtain ⟨-, ⟨⟩⟩ | ⟨cause, fails, ⟨⟩⟩ | ⟨links, first, second, rfl, succeeds, goes⟩ :=
    takes_attempt_bind.mp h
  · left
    have failed := resolves.result_eq _ _ answers fails
    unfold Lookup.outcome at failed
    split at failed
    · obtain rfl := Except.error.inj failed
      exact ⟨cause, ‹_›, requests_of_asks loads fails, rfl⟩
    · cases failed
  · right
    have resolved := resolves.result_eq _ _ answers.of_append.1 succeeds
    unfold Lookup.outcome at resolved
    split at resolved
    · cases resolved
    obtain rfl := Except.ok.inj resolved
    obtain ⟨reported, reports, rfl⟩ := takes_attempt_map goes
    obtain ⟨answer, rest, rfl, quiet, rfl⟩ := Request.takes_report reports
    refine ⟨‹_›, _, answer, ?_, rfl, rfl⟩
    rw [Course.requests_append, requests_of_asks loads succeeds, List.nil_append,
      ← List.singleton_append, Course.requests_append,
      Course.requests_of_unsent fun exchange found => (quiet exchange found).1]
    rfl

namespace Work

/-- What comes of the creation of a remote resource, where objects are loaded as they are looked
up, by what is sent, the decision and the object afterwards. -/
structure AllOrNothing (lookup : Lookup) (o : Object K) (actor : Actor) (sent : List Request)
    (decision : Decision) (o' : Object K) : Prop where
  /-- Something is sent if and only if all references lead to an identifier. -/
  sends_iff : sent ≠ [] ↔ ∀ r ∈ K.creationReferences o.spec, lookup.Finds actor.ns r
  single : ∀ request ∈ sent, sent = [request] ∧ request.method = .post
  placed : ∀ request ∈ sent,
    request.path = (K.creationPlace (lookup.id actor.ns) o.spec).path
  refers : ∀ request ∈ sent, ∃ body, request.body = some body ∧
    body.uris = (K.creationUris (lookup.id actor.ns) o.spec).map (·.path)
  /-- Otherwise the creation fails for the first reference that leads nowhere. -/
  refused : sent = [] → ∃ cause,
    (K.creationReferences o.spec).findSome? (lookup.failure? actor.ns) = some cause ∧
      decision = .fail cause
  unchanged : ∀ cause, decision = .fail cause → o' = o
  recorded : (∀ cause, decision ≠ .fail cause) →
    o'.links = K.linksBy (lookup.id actor.ns) o.spec o.links

theorem findSome?_failure?_eq_none {references : List (Kind × Reference)} {ns : String} :
  references.findSome? (lookup.failure? ns) = none ↔ ∀ r ∈ references, lookup.Finds ns r
  := by
  rw [List.findSome?_eq_none_iff]
  exact forall₂_congr fun r _ => Lookup.failure?_eq_none

theorem ofCreated_ne_fail (state : Option String) (cause : Failure) :
  Decision.ofCreated state ≠ .fail cause
  := by
  intro same
  rw [Decision.ofCreated] at same
  split at same
  · cases same
  · cases same

/-- The work of a creation follows the result of the creation. -/
theorem takes_created {decision : Decision}
    (h : (create o actor).Takes course (some (decision, o'))) :
  ∃ result, Takes (o.create actor) course (some result) ∧
    (∀ cause, result = .error cause → decision = .fail cause ∧ o' = o) ∧
    ∀ report o₁, result = .ok (report, o₁) →
      decision = .ofCreated report.state? ∧ o' = o₁.recordID report.id
  := by
  obtain ⟨cause, fails, rfl, rfl⟩ | ⟨report, o₁, creates, rfl, rfl⟩ := takes_create h
  · refine ⟨.error cause, fails, fun cause' same => ?_, fun report o₁ same => ?_⟩
    · rw [Except.error.inj same]
      exact ⟨rfl, rfl⟩
    · cases same
  · refine ⟨.ok (report, o₁), creates, fun cause same => ?_, fun report' o₁' same => ?_⟩
    · cases same
    · obtain ⟨rfl, rfl⟩ := Prod.mk.inj (Except.ok.inj same)
      exact ⟨rfl, rfl⟩

theorem allOrNothing_of_takes {decision : Decision}
    (h : (create o actor).Takes course (some (decision, o'))) (answers : lookup.Answers course) :
  AllOrNothing lookup o actor (requests course) decision o'
  := by
  obtain ⟨result, creates, failed, succeeded⟩ := takes_created h
  obtain ⟨cause, first, sent, rfl⟩ | ⟨found, request, answer, sent, rfl, rfl⟩ :=
    Object.create_cases creates answers
  · obtain ⟨rfl, rfl⟩ := failed cause rfl
    rw [sent]
    constructor
    case sends_iff =>
      rw [← findSome?_failure?_eq_none, first]
      simp
    case refused => exact fun _ => ⟨cause, first, rfl⟩
    case unchanged => exact fun _ _ => rfl
    case recorded => exact fun unfailed => absurd rfl (unfailed cause)
    all_goals simp
  · have finds := findSome?_failure?_eq_none.mp found
    rw [sent]
    constructor
    case sends_iff => simpa using finds
    case single => simp
    case placed =>
      intro _ among
      rw [List.mem_singleton.mp among, Kind.collection_linksBy]
    case refers =>
      intro _ among
      refine ⟨_, congrArg Request.body (List.mem_singleton.mp among), ?_⟩
      rw [Payload.uris_body]
      exact Payload.urisOfMembers_creation K o.spec o.links fun r referred =>
        Lookup.id_ne_empty (finds r referred)
    case refused => exact nofun
    case unchanged =>
      intro cause fails
      rcases reported : Request.reported _ answer with cause' | report
      · exact (failed cause' (by rw [reported]; rfl)).2
      · obtain ⟨rfl, -⟩ := succeeded report _ (by rw [reported]; rfl)
        cases ofCreated_ne_fail _ cause fails
    case recorded =>
      intro unfailed
      rcases reported : Request.reported _ answer with cause | report
      · exact absurd (failed cause (by rw [reported]; rfl)).1 (unfailed cause)
      · obtain ⟨-, rfl⟩ := succeeded report _ (by rw [reported]; rfl)
        rw [Object.links_recordID, Object.links_recordLinks]

/-- **Creation is all or nothing in its references.**  Where objects are loaded as they are looked
up, the creation of the remote resource of any object comes to a decision: it sends one request,
which is made of the identifiers that the references lead to, if all of them lead to one, and
otherwise nothing; and where it fails, for a reference or for the answer to the request, it leaves
the object as it is. -/
theorem create_allOrNothing {σ : Type}
    {answer : (operation : Operation) → StateM σ operation.Answer}
    (loads : ∀ K ns name s, (answer (.load K ns name) s).1 = lookup K ns name) (o : Object K)
    (actor : Actor) (s : σ) :
  ∃ decision o', ((create o actor).run answer s).1 = some (decision, o') ∧
    AllOrNothing lookup o actor (requests ((create o actor).courseIn answer s)) decision o'
  := by
  have stays : (create o actor).Stays := by
    apply (o.heeds_create actor).stays.bind
    rintro (cause | ⟨report, o₁⟩)
    · trivial
    · trivial
  obtain ⟨⟨decision, o'⟩, ends⟩ := stays.exists_run answer s
  have takes := takes_courseIn answer (create o actor) s
  rw [ends] at takes
  refine ⟨decision, o', ends, allOrNothing_of_takes takes ?_⟩
  intro K ns name given asked
  obtain ⟨s', rfl⟩ := exists_state_of_mem_courseIn answer asked
  apply loads

namespace Web

open Run.WebServer (surroundings volume web)

/-- The surroundings of the server `web`, where all that it refers to is there. -/
def answers : (operation : Operation) → StateM Unit operation.Answer :=
  surroundings web (some (volume "vol-1"))

/-- What is answered there where an object is loaded. -/
def objects : Lookup :=
  fun K ns name => (answers (.load K ns name) ()).1

end Web

/-- The server `web` is created from the resources of its project, its virtual private cloud, its
volume and its key pair. -/
theorem create_allOrNothing_web :
  let sent := requests ((create Run.WebServer.web ⟨"token", "shop"⟩).courseIn Web.answers ())
  (∀ K ns name s, (Web.answers (.load K ns name) s).1 = Web.objects K ns name) ∧
    sent.map (fun request => (request.call, request.body.map Json.uris)) =
      [((.post, "/projects/prj-1/providers/Aruba.Compute/cloudServers"),
        some ["/projects/prj-1/providers/Aruba.Network/vpcs/vpc-1",
          "/projects/prj-1/providers/Aruba.Storage/blockStorages/vol-0",
          "/projects/prj-1/providers/Aruba.Compute/keyPairs/key-1"])] ∧
    ∃ decision o', AllOrNothing Web.objects Run.WebServer.web ⟨"token", "shop"⟩ sent decision o'
  := by
  have loads : ∀ K ns name s, (Web.answers (.load K ns name) s).1 = Web.objects K ns name :=
    fun _ _ _ _ => rfl
  obtain ⟨decision, o', -, creates⟩ :=
    create_allOrNothing loads Run.WebServer.web ⟨"token", "shop"⟩ ()
  refine ⟨loads, ?_, decision, o', creates⟩
  decide +kernel

end Work

end CloudOperator
