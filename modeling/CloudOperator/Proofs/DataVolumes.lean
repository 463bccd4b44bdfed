import Mathlib.Data.List.Infix
import CloudOperator.Proofs.Identity
import CloudOperator.Proofs.Synchronized
import CloudOperator.Proofs.VolumeChange

/-!
# The data volumes of servers

The status of a server lists the data volumes that are attached to it.  It lists those that
are attached once the requests that the remote API accepted were carried out in order, each
once, as long as the status is written after every such request (`Run.dataVolumes_mirror`).

A request tells what it asks for (`Payload.volumeChange?`).  The work on a server leaves the
list, or the remote API accepts its one request for the change that leads from the list to
the volumes that the server is to have, and these are listed (`Work.volumes_ofPhase`).
-/

namespace CloudOperator

open Program

variable {ns name : String} {actor : Actor} {course : Course}

/-! ## What a request asks for -/

namespace Payload

/-- The volume of a project that a reference leads to. -/
def volume? (l : ServerLinks) : Json → Option String
  | .object [("uri", .text path)] =>
    (path.toList.dropPrefix? (Endpoint.blockStorage l.project "").path.toList).map String.ofList
  | _ => none

theorem volume?_uri (l : ServerLinks) (id : String) :
  volume? l (uri (.blockStorage l.project id)) = some id
  := by
  have place (id : String) : (Endpoint.blockStorage l.project id).path
      = Endpoint.pathOf (Endpoint.storage l.project ["blockStorages"]) ++ ("/" ++ id) :=
    Endpoint.pathOf_concat (Endpoint.storage l.project ["blockStorages"]) id
  simp only [uri, text, volume?, place]
  simp [List.dropPrefix?_eq_some_iff]

/-- The change of the data volumes of a server that a body asks for. -/
def volumeChange? (l : ServerLinks) : Json → Option VolumeChange
  | .object [("volumesToAttach", .array attach), ("volumesToDetach", .array detach)] => do
    return ⟨← attach.mapM (volume? l), ← detach.mapM (volume? l)⟩
  | _ => none

/-- A request asks for the change that it is made of. -/
theorem volumeChange?_dataVolumes (l : ServerLinks) (change : VolumeChange) :
  volumeChange? l (dataVolumes l change.attach change.detach) = some change
  := by
  have ids (ids : List String) :
      (ids.map fun id => uri (.blockStorage l.project id)).mapM (volume? l) = some ids := by
    induction ids with
    | nil => rfl
    | cons id ids ih => simp [volume?_uri, ih]
  simp [dataVolumes, volumeChange?, ids]

end Payload

namespace VolumeChange

/-- What is listed without repetitions lists nothing twice. -/
theorem nodup_eraseDups (ids : List String) :
  ids.eraseDups.Nodup
  := by
  induction h : ids.length using Nat.strongRecOn generalizing ids with
  | ind n ih =>
    cases ids with
    | nil => simp
    | cons id ids =>
      rw [List.eraseDups_cons, List.nodup_cons]
      refine ⟨by simp, ih _ ?_ _ rfl⟩
      have shorter := List.length_filter_le (fun other => !other == id) ids
      rw [← h, List.length_cons]
      omega

end VolumeChange

namespace Exchange

variable {exchange : Exchange Operation.Answer}

/-- The remote API accepts a request about the data volumes of a server. -/
def AcceptsVolumes (exchange : Exchange Operation.Answer) : Prop :=
  ∃ request response, exchange = ⟨.send request, .ok response⟩ ∧ response.isSuccess ∧
    request.method = .post ∧
    ∃ project server, request.path = (Endpoint.dataVolumes project server).path

theorem AcceptsVolumes.isSend (h : exchange.AcceptsVolumes) :
  exchange.question.isSend
  := by
  obtain ⟨request, response, rfl, -⟩ := h
  rfl

theorem not_acceptsVolumes_of_sendsOnly {may : Request → Prop}
    (only : exchange.question.SendsOnly may)
    (other : ∀ request, may request → request.method = .post →
      ∀ project server, request.path ≠ (Endpoint.dataVolumes project server).path) :
  ¬ exchange.AcceptsVolumes
  := by
  rintro ⟨request, response, rfl, -, post, project, server, place⟩
  apply other request only post project server place

/-- A program that posts nothing sends no request about data volumes. -/
theorem not_acceptsVolumes_of_asks {α : Type} {program : Pass α} {result? : Option α}
    {may : Request → Prop} (takes : program.Takes course result?)
    (asks : program.Asks (Operation.SendsOnly may))
    (other : ∀ request, may request → request.method ≠ .post) :
  ∀ exchange ∈ course, ¬ exchange.AcceptsVolumes
  := by
  intro exchange found
  apply not_acceptsVolumes_of_sendsOnly (takes.asked asks exchange found)
  exact fun request only post => absurd post (other request only)

theorem not_acceptsVolumes_of_isQuiet (quiet : ∀ exchange ∈ course, exchange.question.isQuiet) :
  ∀ exchange ∈ course, ¬ exchange.AcceptsVolumes
  := by
  intro exchange found accepts
  cases accepts.isSend.symm.trans (quiet exchange found).1

end Exchange

/-! ## Changes on a course -/

namespace Object

variable {o o' : Object .cloudServer} {change : VolumeChange} {exchange : Exchange Operation.Answer}

/-- The data volumes that the status of a server lists. -/
def dataVolumes (o : Object .cloudServer) : List String :=
  ServerLinks.dataVolumes o.links

theorem dataVolumes_congr (h : o.status = o'.status) :
  o.dataVolumes = o'.dataVolumes
  := by
  rw [dataVolumes, links_congr h, dataVolumes]

theorem dataVolumes_moved (o : Object .cloudServer) (move : Move) (now : Instant) :
  (o.moved move now).dataVolumes = o.dataVolumes
  := rfl

theorem dataVolumes_recordLinks (o : Object .cloudServer) (links : ServerLinks) :
  (o.recordLinks links).dataVolumes = links.dataVolumes
  := rfl

/-- The request for a change of the data volumes of a server. -/
def volumeRequest (o : Object .cloudServer) (actor : Actor) (change : VolumeChange) : Request :=
  ⟨.post, (Endpoint.dataVolumes (ServerLinks.project o.links) o.resourceID).path, actor.bearer,
    some (Payload.dataVolumes o.links change.attach change.detach)⟩

/-- The change of the data volumes of a server for which the remote API accepts a request. -/
def acceptedChange? (o : Object .cloudServer) : Exchange Operation.Answer → Option VolumeChange
  | ⟨.send request, .ok response⟩ =>
    if response.isSuccess ∧ request.method = .post ∧
        request.path = (Endpoint.dataVolumes (ServerLinks.project o.links) o.resourceID).path then
      request.body.bind (Payload.volumeChange? o.links)
    else none
  | _ => none

theorem acceptedChange?_volumeRequest (o : Object .cloudServer) (actor : Actor)
    (change : VolumeChange) {response : Response} (success : response.isSuccess) :
  o.acceptedChange? ⟨.send (o.volumeRequest actor change), .ok response⟩ = some change
  := by
  simp [acceptedChange?, volumeRequest, success, Payload.volumeChange?_dataVolumes]

theorem acceptsVolumes_of_acceptedChange? (accepted : o.acceptedChange? exchange = some change) :
  exchange.AcceptsVolumes
  := by
  unfold acceptedChange? at accepted
  split at accepted
  · split at accepted
    · obtain ⟨success, post, place⟩ := ‹_ ∧ _›
      exact ⟨_, _, rfl, success, post, _, _, place⟩
    · cases accepted
  · cases accepted

/-- On a course the remote API accepts one request about data volumes, and it is for a change
of those of the server. -/
structure ChangesOn (o : Object .cloudServer) (change : VolumeChange) (course : Course) : Prop where
  once : course.filterMap o.acceptedChange? = [change]
  told : ∀ exchange ∈ course, exchange.AcceptsVolumes → o.acceptedChange? exchange = some change

theorem filterMap_of_unaccepted (o : Object .cloudServer)
    (unaccepted : ∀ exchange ∈ course, ¬ exchange.AcceptsVolumes) :
  course.filterMap o.acceptedChange? = []
  := by
  apply List.filterMap_eq_nil_iff.mpr
  intro exchange found
  rw [Option.eq_none_iff_forall_ne_some]
  intro change accepted
  apply unaccepted exchange found (acceptsVolumes_of_acceptedChange? accepted)

/-- What is accepted besides no other request about data volumes is one change. -/
theorem changesOn_singleton (accepted : o.acceptedChange? exchange = some change) :
  o.ChangesOn change [exchange]
  where
  once := by
    rw [List.filterMap_cons_some accepted, List.filterMap_nil]
  told := List.forall_mem_singleton.mpr fun _ => accepted

theorem ChangesOn.amidst (h : o.ChangesOn change course) {first rest : Course}
    (unaccepted : ∀ exchange ∈ first, ¬ exchange.AcceptsVolumes)
    (unaccepted' : ∀ exchange ∈ rest, ¬ exchange.AcceptsVolumes) :
  o.ChangesOn change (first ++ (course ++ rest))
  where
  once := by
    rw [List.filterMap_append, List.filterMap_append, h.once, o.filterMap_of_unaccepted unaccepted,
      o.filterMap_of_unaccepted unaccepted', List.nil_append, List.append_nil]
  told := by
    simp only [List.forall_mem_append]
    exact ⟨fun exchange found accepts => absurd accepts (unaccepted exchange found), h.told,
      fun exchange found accepts => absurd accepts (unaccepted' exchange found)⟩

theorem ChangesOn.exists_accepted (h : o.ChangesOn change course) :
  ∃ exchange ∈ course, exchange.AcceptsVolumes
  := by
  have found : change ∈ course.filterMap o.acceptedChange? := by
    rw [h.once]
    apply List.mem_singleton_self
  obtain ⟨exchange, found, accepted⟩ := List.mem_filterMap.mp found
  exact ⟨exchange, found, acceptsVolumes_of_acceptedChange? accepted⟩

/-- The data volumes stay listed, and no request about any is accepted. -/
structure KeepsVolumes (o o' : Object .cloudServer) (course : Course) : Prop where
  same : o'.dataVolumes = o.dataVolumes
  unaccepted : ∀ exchange ∈ course, ¬ exchange.AcceptsVolumes

/-- The change that leads to other data volumes is accepted, and these are listed then. -/
structure ChangesVolumes (o o' : Object .cloudServer) (course : Course) : Prop where
  nodup : o'.dataVolumes.Nodup
  changes : o.ChangesOn (.between o'.dataVolumes o.dataVolumes) course

/-- The change that is asked for leads to data volumes of which none is listed twice. -/
theorem ends_volumeChange (o : Object .cloudServer) (actor : Actor) :
  Ends (Meets (fun (change, desired) => change = .between desired o.dataVolumes ∧ desired.Nodup)
    fun _ => True) (o.volumeChange actor)
  := by
  apply ends_attempt_bind
  apply ends_attempt_bind
  apply ends_of_forall
  rintro (cause | ids)
  · trivial
  · exact ⟨rfl, VolumeChange.nodup_eraseDups ids⟩

theorem volumeRequest_of_rewired (h : o.Rewired o') (actor : Actor) (change : VolumeChange) :
  o'.volumeRequest actor change = o.volumeRequest actor change
  := by
  have project : ServerLinks.project o'.links = ServerLinks.project o.links :=
    (Endpoint.cloudServer.inj (h.item "")).1
  rw [volumeRequest, h.resourceID, project, volumeRequest]
  simp only [Payload.dataVolumes, project]

theorem takes_syncVolumes {result : Except Failure (Object .cloudServer)}
    (h : Takes (o.syncVolumes actor) course (some result)) :
  (∀ exchange ∈ course, ¬ exchange.AcceptsVolumes) ∧ (∀ o', result = .ok o' → o' = o) ∨
    ∃ desired first response rest,
      course = first ++
        ⟨.send (o.volumeRequest actor (.between desired o.dataVolumes)), .ok response⟩ :: rest ∧
      (∀ exchange ∈ first, exchange.question.isQuiet) ∧
      (∀ exchange ∈ rest, exchange.question.isQuiet) ∧ response.isSuccess ∧ desired.Nodup ∧
      result = .ok (o.recordLinks { (o.links : ServerLinks) with dataVolumes := desired })
  := by
  have asks := (o.asks_volumeChange actor).mono fun _ => Operation.Resolves.isQuiet
  obtain ⟨-, ⟨⟩⟩ | ⟨cause, fails, ⟨⟩⟩ | ⟨⟨change, desired⟩, first, second, rfl, finds, goes⟩ :=
    takes_attempt_bind.mp h
  · exact .inl ⟨Exchange.not_acceptsVolumes_of_isQuiet (fails.asked asks), by simp⟩
  obtain ⟨rfl, nodup⟩ : change = .between desired o.dataVolumes ∧ desired.Nodup :=
    finds.ends (o.ends_volumeChange actor)
  have quiet := finds.asked asks
  dsimp only at goes
  split at goes
  · obtain ⟨rfl, ⟨⟩⟩ := takes_attempt_pure.mp goes
    rw [List.append_nil]
    exact .inl ⟨Exchange.not_acceptsVolumes_of_isQuiet quiet, by simp⟩
  obtain ⟨-, ⟨⟩⟩ | ⟨cause, fails, ⟨⟩⟩ | ⟨_, third, fourth, rfl, succeeds, returns⟩ :=
    takes_attempt_bind.mp goes
  · obtain ⟨answer, rest, rfl, quiet', same⟩ := Request.takes_succeed fails
    left
    refine ⟨?_, by simp⟩
    simp only [List.forall_mem_append, List.forall_mem_cons]
    refine ⟨Exchange.not_acceptsVolumes_of_isQuiet quiet, ?_,
      Exchange.not_acceptsVolumes_of_isQuiet quiet'⟩
    rintro ⟨request, response, ⟨⟩, success, -⟩
    rw [Request.outcome, if_pos success] at same
    cases same
  · obtain ⟨answer, rest, rfl, quiet', same⟩ := Request.takes_succeed succeeds
    obtain ⟨rfl, ⟨⟩⟩ := takes_attempt_pure.mp returns
    rw [List.append_nil]
    rcases answer with detail | response
    · cases same
    rw [Request.outcome] at same
    split at same
    · exact .inr ⟨desired, first, response, rest, rfl, quiet, quiet', ‹_›, nodup, rfl⟩
    · cases same

/-- The links of a server are resolved with the data volumes left as they are. -/
theorem ends_resolveLinks_dataVolumes (ns : String) (s : CloudServerSpec) (l : ServerLinks) :
  Ends (Meets (fun l' => ServerLinks.dataVolumes l' = l.dataVolumes) fun _ => True)
    (Kind.cloudServer.resolveLinks ns s l)
  := by
  apply ends_attempt_bind
  apply ends_of_forall
  rintro (cause | project)
  · trivial
  apply ends_attempt_bind
  apply ends_of_forall
  rintro (cause | vpc)
  · trivial
  apply ends_attempt_bind
  apply ends_of_forall
  rintro (cause | volume)
  · trivial
  apply ends_attempt_bind
  apply ends_of_forall
  rintro (cause | keyPair)
  · trivial
  apply (ends_resolveAttachments ..).mono
  rintro (cause | links) kept
  · trivial
  · exact kept.2

theorem ends_create_dataVolumes (o : Object .cloudServer) (actor : Actor) :
  Ends (Meets (fun created => created.2.dataVolumes = o.dataVolumes) fun _ => True)
    (o.create actor)
  := by
  apply ends_attempt_bind
  apply (ends_resolveLinks_dataVolumes actor.ns o.spec o.links).mono
  rintro (cause | links) same
  · trivial
  apply ends_attempt_bind
  apply ends_of_forall
  rintro (cause | report)
  · trivial
  · apply same

/-- The properties of a server are sent where they changed, with no request about data
volumes. -/
theorem takes_attach {changed : Bool} {attached : Except Failure (Object .cloudServer)}
    (h : Takes (if changed then o.attach actor else return o : Attempt _) course (some attached)) :
  (∀ exchange ∈ course, ¬ exchange.AcceptsVolumes) ∧
    ∀ o₁, attached = .ok o₁ → o.Rewired o₁ ∧ o₁.dataVolumes = o.dataVolumes
  := by
  constructor
  · cases changed with
    | false =>
      obtain ⟨rfl, -⟩ := takes_done.mp h
      exact List.forall_mem_nil _
    | true =>
      have puts : Asks (Operation.SendsOnly (·.method = .put)) (o.attach actor) :=
        asks_attach_of Operation.admits_sendsOnly fun _ => rfl
      apply Exchange.not_acceptsVolumes_of_asks h puts
      intro request put
      simp [put]
  · rintro o₁ rfl
    have recorded : o.Attached o₁ := h.ends (o.ends_attach_of_changed ..)
    exact ⟨recorded.rewired, recorded.volumes⟩

/-- An update of a server leaves the data volumes that are listed, or changes them. -/
theorem volumes_update {changed : Bool} {result : Except Failure Unit}
    (h : Takes (o.update actor changed) course (some (result, o'))) :
  o.KeepsVolumes o' course ∨ result = .ok () ∧ o.ChangesVolumes o' course
  := by
  obtain ⟨-, ⟨⟩⟩ | ⟨attached, first, second, rfl, attaches, goes⟩ := takes_bind.mp h
  obtain ⟨unaccepted, attached_eq⟩ := takes_attach attaches
  rcases attached with cause | o₁
  · obtain ⟨rfl, ⟨⟩⟩ := takes_done.mp goes
    rw [List.append_nil]
    exact .inl ⟨rfl, unaccepted⟩
  obtain ⟨rewired, same⟩ := attached_eq o₁ rfl
  obtain ⟨-, ⟨⟩⟩ | ⟨synced, third, fourth, rfl, syncs, returns⟩ := takes_bind.mp goes
  obtain ⟨unaccepted', synced_eq⟩ | ⟨desired, third, response, rest, rfl, quiet, quiet', success,
    nodup, rfl⟩ := takes_syncVolumes syncs
  · have all := List.forall_mem_append.mpr ⟨unaccepted, unaccepted'⟩
    rcases synced with cause | o₂
    · obtain ⟨rfl, ⟨⟩⟩ := takes_done.mp returns
      rw [List.append_nil]
      exact .inl ⟨same, all⟩
    · obtain ⟨rfl, ⟨⟩⟩ := takes_done.mp returns
      obtain rfl := synced_eq _ rfl
      rw [List.append_nil]
      exact .inl ⟨same, all⟩
  · obtain ⟨rfl, ⟨⟩⟩ := takes_done.mp returns
    have accepted := o.acceptedChange?_volumeRequest actor (.between desired o₁.dataVolumes) success
    have silent := Exchange.not_acceptsVolumes_of_isQuiet quiet
    have silent' := Exchange.not_acceptsVolumes_of_isQuiet quiet'
    have changes := (changesOn_singleton accepted).amidst
      (List.forall_mem_append.mpr ⟨unaccepted, silent⟩) silent'
    rw [← volumeRequest_of_rewired rewired] at changes
    refine .inr ⟨rfl, nodup, ?_⟩
    rw [← same]
    simpa [dataVolumes_recordLinks] using changes

end Object

namespace Work

variable {o o' : Object .cloudServer} {decision : Decision} {settings : PassSettings}
  {now : Instant}

/-- A creation leaves the data volumes that are listed. -/
theorem keepsVolumes_create (h : (create o actor).Takes course (some (decision, o'))) :
  o.KeepsVolumes o' course
  := by
  have unaccepted {result : Except Failure (ResourceReport × Object .cloudServer)}
      (creates : Takes (o.create actor) course (some result)) :
      ∀ exchange ∈ course, ¬ exchange.AcceptsVolumes := by
    obtain ⟨-, quiet⟩ | ⟨links, r, answer, first, rest, rfl, quiet, quiet', -, place, -⟩ :=
      Object.takes_create creates
    · exact Exchange.not_acceptsVolumes_of_isQuiet quiet
    · rintro exchange found ⟨request, response, rfl, -, -, project, server, volumes⟩
      cases Exchange.eq_of_mem_amidst found rfl quiet quiet'
      apply Kind.path_collection_ne_dataVolumes .cloudServer links project server
      rw [← place, volumes]
  obtain ⟨cause, creates, -, rfl⟩ | ⟨report, o₁, creates, -, rfl⟩ := takes_create h
  · exact ⟨rfl, unaccepted creates⟩
  · exact ⟨creates.ends (o.ends_create_dataVolumes actor), unaccepted creates⟩

/-- The work on a server leaves the data volumes that are listed, or changes them. -/
theorem volumes_ofPhase {phase : Option Phase}
    (h : (ofPhase phase o actor settings now).Takes course (some (decision, o'))) :
  o.KeepsVolumes o' course ∨ o.ChangesVolumes o' course
  := by
  rcases phase with _ | phase
  · obtain ⟨rfl, ⟨⟩⟩ := takes_done.mp h
    exact .inl ⟨rfl, by simp⟩
  cases phase with
  | creating => exact .inl (keepsVolumes_create h)
  | provisioning =>
    obtain ⟨rfl, -⟩ := takes_poll h
    refine .inl ⟨rfl, Exchange.not_acceptsVolumes_of_asks h (asks_poll o' actor) ?_⟩
    rintro r rfl
    nofun
  | created =>
    obtain ⟨rfl, -⟩ := takes_compare h
    have quiet := h.asked ((asks_compare o' actor).mono fun _ => Operation.isQuiet_of_isLoad)
    exact .inl ⟨rfl, Exchange.not_acceptsVolumes_of_isQuiet quiet⟩
  | updating =>
    obtain ⟨result, updates, -⟩ := takes_update h
    obtain keeps | ⟨-, changes⟩ := Object.volumes_update updates
    · exact .inl keeps
    · exact .inr changes
  | deleting =>
    obtain ⟨rfl, -⟩ := takes_delete h
    refine .inl ⟨rfl, Exchange.not_acceptsVolumes_of_asks h (asks_delete o' actor) ?_⟩
    rintro r rfl
    nofun
  | failed =>
    obtain ⟨rfl, -⟩ := takes_failed h
    have asks : (ofPhase (some .failed) o' actor settings now).Asks Operation.isQuiet :=
      asks_bind asks_ofOption fun _ => trivial
    exact .inl ⟨rfl, Exchange.not_acceptsVolumes_of_isQuiet (h.asked asks)⟩

end Work

/-! ## Turns and runs -/

namespace Turn

variable {t : Turn .cloudServer}

/-- The remote API accepts a request about data volumes on the turn. -/
def AcceptsVolumes (t : Turn .cloudServer) : Prop :=
  ∃ exchange ∈ t.course, exchange.AcceptsVolumes

/-- The changes of the data volumes of the server that the remote API accepts on a turn, in the
order in which it does. -/
def changes (t : Turn .cloudServer) : List VolumeChange :=
  t.course.filterMap t.stored.acceptedChange?

/-- The data volumes that are attached once the changes that were accepted on the turns, the
last of which comes first, were carried out in order. -/
def attached : List (Turn .cloudServer) → Set String
  | [] => ∅
  | t :: turns => t.changes.foldl (fun ids change => change.applyTo ids) (attached turns)

/-- A turn leaves the data volumes that are listed, or changes them, if it stores the status
after a request about them was accepted. -/
theorem Goes.volumes (h : t.Goes ns name) (written : t.AcceptsVolumes → t.StoresStatus) :
  t.stored.KeepsVolumes t.after t.course ∨ t.stored.ChangesVolumes t.after t.course
  := by
  obtain ⟨unstored, same⟩ | ⟨-, o, move, moves, after⟩ := h.status
  · left
    refine ⟨Object.dataVolumes_congr same, fun exchange found accepts => ?_⟩
    apply unstored (written ⟨exchange, found, accepts⟩)
  have same : t.after.dataVolumes = o.dataVolumes :=
    (Object.dataVolumes_congr after).trans (o.dataVolumes_moved move t.now)
  cases moves with
  | preempts preempts =>
    left
    refine ⟨same, ?_⟩
    rintro exchange found ⟨request, response, rfl, -⟩
    obtain ⟨unpreempted, -⟩ := h.sent found rfl
    cases unpreempted.symm.trans preempts.preempting
  | works works leads makes =>
    obtain keeps | changes := Work.volumes_ofPhase works.works
    · left
      refine ⟨same.trans keeps.same, fun exchange found accepts => ?_⟩
      have worked : exchange ∈ _ := works.sent found accepts.isSend
      apply keeps.unaccepted exchange worked accepts
    · right
      obtain ⟨opening, course, quiet, -⟩ := works.split
      obtain ⟨result?, carries⟩ := works.carries
      have unsent := carries.asked ((Task.asks_carryOut ..).mono fun _ =>
        Operation.isSend_of_isLocal)
      refine ⟨same ▸ changes.nodup, ?_⟩
      rw [same, course, List.append_assoc]
      apply changes.changes.amidst
      · exact Exchange.not_acceptsVolumes_of_isQuiet quiet
      · intro exchange found accepts
        cases not_mem_of_unsent unsent accepts.isSend found

theorem attached_cons_of_keeps (h : t.stored.KeepsVolumes t.after t.course)
    (turns : List (Turn .cloudServer)) :
  attached (t :: turns) = attached turns
  := by
  rw [attached, changes, t.stored.filterMap_of_unaccepted h.unaccepted, List.foldl_nil]

/-- The change that is accepted on a turn leads to the data volumes that are listed then. -/
theorem attached_cons_of_changes (h : t.stored.ChangesVolumes t.after t.course)
    {turns : List (Turn .cloudServer)}
    (mirrors : {id | id ∈ t.stored.dataVolumes} = attached turns) :
  attached (t :: turns) = {id | id ∈ t.after.dataVolumes}
  := by
  rw [attached, changes, h.changes.once, List.foldl_cons, List.foldl_nil, ← mirrors,
    VolumeChange.applyTo_between]

end Turn

open Turn

namespace Run

variable {initial o : Object .cloudServer} {turns : List (Turn .cloudServer)}

theorem mirrors (run : Run Object.StatusKept ns name initial turns o)
    (fresh : initial.status = none) (written : ∀ t ∈ turns, t.AcceptsVolumes → t.StoresStatus) :
  {id | id ∈ o.dataVolumes} = attached turns ∧ o.dataVolumes.Nodup
  := by
  induction run with
  | start =>
    have none : initial.dataVolumes = [] := by
      rw [Object.dataVolumes, Object.links, Object.statusOrInitial, fresh]
      rfl
    rw [none, attached]
    exact ⟨by simp, List.nodup_nil⟩
  | edited run edit ih =>
    rw [Object.dataVolumes_congr edit]
    apply ih written
  | @turned turns t run goes ih =>
    obtain ⟨last, earlier⟩ := List.forall_mem_cons.mp written
    obtain ⟨mirrors, nodup⟩ := ih earlier
    obtain keeps | changes := goes.volumes last
    · rw [attached_cons_of_keeps keeps, keeps.same]
      exact ⟨mirrors, nodup⟩
    · rw [attached_cons_of_changes changes mirrors]
      exact ⟨rfl, changes.nodup⟩

/-- The status of a server lists the data volumes that are attached once the accepted requests
were carried out in order, and none twice.  An accepted request is one for a change: it
attaches what is not attached, and detaches what is.  A turn without one leaves the list. -/
theorem dataVolumes_mirror (run : Run Object.StatusKept ns name initial turns o)
    (fresh : initial.status = none) (written : ∀ t ∈ turns, t.AcceptsVolumes → t.StoresStatus) :
  {id | id ∈ o.dataVolumes} = attached turns ∧ o.dataVolumes.Nodup ∧
    ∀ later t earlier, turns = later ++ t :: earlier →
      (∀ exchange ∈ t.course, exchange.AcceptsVolumes → ∃ change,
        t.stored.acceptedChange? exchange = some change ∧ t.changes = [change] ∧
        (∀ id ∈ change.attach, id ∉ attached earlier) ∧
        ∀ id ∈ change.detach, id ∈ attached earlier) ∧
      (¬ t.AcceptsVolumes → t.after.dataVolumes = t.stored.dataVolumes)
  := by
  obtain ⟨mirrors, nodup⟩ := run.mirrors fresh written
  refine ⟨mirrors, nodup, ?_⟩
  rintro later t earlier rfl
  obtain ⟨goes, run⟩ := run.of_append
  obtain ⟨-, written⟩ := List.forall_mem_append.mp written
  obtain ⟨last, earlier⟩ := List.forall_mem_cons.mp written
  obtain ⟨mirrors, -⟩ := run.mirrors fresh earlier
  obtain keeps | changes := goes.volumes last
  · refine ⟨fun exchange found accepts => ?_, fun _ => keeps.same⟩
    cases keeps.unaccepted exchange found accepts
  · refine ⟨fun exchange found accepts => ?_, fun unaccepted => ?_⟩
    · rw [← mirrors]
      refine ⟨_, changes.changes.told exchange found accepts, changes.changes.once, ?_, ?_⟩
      · exact fun id found => (VolumeChange.mem_missing.mp found).2
      · exact fun id found => (VolumeChange.mem_missing.mp found).1
    · cases unaccepted changes.changes.exists_accepted

namespace WebServer

/-- The server once it refers twice to another volume, in place of its own. -/
def rewired : Object .cloudServer :=
  { resting.stored with
    spec := { (web.spec : CloudServerSpec) with dataVolumes := [⟨"logs", none⟩, ⟨"logs", none⟩] } }

/-- Its data volumes are found to differ. -/
def differing : Turn .cloudServer :=
  turn 60 rewired (some (volume "vol-2"))

/-- The other volume is attached, and its own is detached. -/
def swapping : Turn .cloudServer :=
  turn 61 differing.after (some (volume "vol-2"))

/-- All turns of the server, the last one first. -/
def history : List (Turn .cloudServer) :=
  [swapping, differing, stumbling, attaching, drifting, creating, enrolling]

theorem run_history :
  Run Object.StatusKept "shop" "web" web history swapping.after
  := by
  apply turned (t := swapping) _ (goes_turn ..)
  rw [swapping, stored_turn]
  apply turned (t := differing) _ (goes_turn ..)
  rw [differing, stored_turn]
  apply edited run
  rw [Object.StatusKept, rewired]

theorem stores_history :
  ∀ t ∈ history, t.StoresStatus
  := by
  decide +kernel

end WebServer

/-- The data volumes of a server of which one is put in place of another. -/
theorem dataVolumes_mirror_web :
  WebServer.swapping.changes = [⟨["vol-2"], ["vol-1"]⟩] ∧
    {id | id ∈ WebServer.swapping.after.dataVolumes} = attached WebServer.history ∧
    WebServer.swapping.after.dataVolumes.Nodup
  := by
  have changes : WebServer.swapping.changes = [⟨["vol-2"], ["vol-1"]⟩] := by
    decide +kernel
  obtain ⟨mirrors, nodup, -⟩ := dataVolumes_mirror WebServer.run_history rfl
    fun t found _ => WebServer.stores_history t found
  exact ⟨changes, mirrors, nodup⟩

end Run

end CloudOperator
