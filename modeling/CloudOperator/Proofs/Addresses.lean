import CloudOperator.Proofs.DataVolumes

/-!
# Addresses

A remote resource is created in a collection, whose path is made of links that are resolved
then.  Every later request finds it by the links and the identifier that its status records.
These lead to the place that the last recorded creation tells: the path of the collection that
was posted to, and the identifier that was answered (`Run.requests_addressed`).

A request that is no creation is sent only for an object whose creation was recorded
(`Work.asks_addressed`), and from then on no creation is asked for until the record is made
anew (`Addressed`).
-/

namespace CloudOperator

open Program

variable {K : Kind} {ns name : String}

/-- A request for the creation of a remote resource: where it was sent, and what it was
answered. -/
structure Creation where
  collection : String
  answer : Except String Response

/-- The creation tells the place of the resource: its answer is a success, and the identifier
that it reports follows the path that was posted to. -/
def Creation.Places (c : Creation) (path : String) : Prop :=
  ∃ response report, c.answer = .ok response ∧ response.isSuccess ∧
    (Json.read response.body).bind ResourceReport.codec.decode = some report ∧
    path = c.collection ++ ("/" ++ report.id)

/-- What is posted, as a creation. -/
def Exchange.creation? : Exchange Operation.Answer → Option Creation
  | ⟨.send request, answer⟩ =>
    if request.method = .post then some ⟨request.path, answer⟩ else none
  | _ => none

namespace Turn

variable {t : Turn K}

/-- The creations that a turn asks for, in order; only an object that is being created has
any. -/
def creations (t : Turn K) : List Creation :=
  if t.stored.phase = some .creating then t.course.filterMap Exchange.creation? else []

/-- The last creation that a turn asks for, if the turn stores a status. -/
def recordedCreation? (t : Turn K) : Option Creation :=
  if t.StoresStatus then t.creations.getLast? else none

end Turn

/-- The most recent creation whose outcome was stored; the last turn comes first. -/
def lastCreation? (turns : List (Turn K)) : Option Creation :=
  turns.findSome? Turn.recordedCreation?

/-! ## What is asked -/

/-- A request that is sent for an object goes to a collection, if the object is being created;
else the object has a remote resource, and the request goes to the place of that, or to the
data volumes there. -/
def Object.IsAddressed (o : Object K) (r : Request) : Prop :=
  r.method = .post ∧ o.phase = some .creating ∧ (∃ links, r.path = (K.collection links).path) ∨
    (o.phase ∈ Phase.present ∨ o.resourceID ≠ "") ∧
      (r.method ≠ .post ∧ r.path = o.endpoint.path ∨
        r.method = .post ∧ K = .cloudServer ∧ r.path = o.endpoint.path ++ "/dataVolumes")

/-- Whatever the work of a phase sends is addressed. -/
theorem Work.asks_addressed (o : Object K) (actor : Actor) (settings : PassSettings)
    (now : Instant) :
  (ofPhase o.phase o actor settings now).Asks (Operation.SendsOnly o.IsAddressed)
  := by
  rcases current : o.phase with _ | phase
  · trivial
  cases phase with
  | creating =>
    apply (asks_create o actor).mono
    apply Operation.SendsOnly.mono
    rintro r ⟨post, place, -⟩
    exact .inl ⟨post, current, place⟩
  | provisioning =>
    apply (asks_poll o actor).mono
    apply Operation.SendsOnly.mono
    rintro r rfl
    exact .inr ⟨.inl (by simp [current, Phase.present]), .inl ⟨by simp [Object.request], rfl⟩⟩
  | created =>
    apply (asks_compare o actor).mono
    intro operation
    apply Operation.sendsOnly_of_isLoad
  | updating =>
    apply (asks_update o actor).mono
    apply Operation.SendsOnly.mono
    rintro r ⟨⟨put, place⟩ | ⟨post, server, place⟩, -⟩
    · exact .inr ⟨.inl (by simp [current, Phase.present]), .inl ⟨by simp [put], place⟩⟩
    · exact .inr ⟨.inl (by simp [current, Phase.present]), .inr ⟨post, server, place⟩⟩
  | deleting =>
    change (delete o actor).Asks _
    by_cases unnamed : o.resourceID = ""
    · rw [delete, if_pos unnamed]
      trivial
    · apply (asks_delete o actor).mono
      apply Operation.SendsOnly.mono
      rintro r rfl
      exact .inr ⟨.inr unnamed, .inl ⟨by simp [Object.request], rfl⟩⟩
  | failed =>
    apply asks_bind asks_ofOption
    intro result
    trivial

namespace Turn

variable {t : Turn K}

theorem Goes.isAddressed (h : t.Goes ns name) {request : Request}
    {answer : Except String Response} (found : ⟨.send request, answer⟩ ∈ t.course) :
  t.stored.IsAddressed request
  := by
  obtain ⟨-, actor, work, result?, found, takes⟩ := h.sent found rfl
  apply takes.asked (Work.asks_addressed ..) _ found

/-! ## What is recorded -/

/-- Nothing is created where nothing is sent. -/
theorem filterMap_creation?_of_unsent {course : Course}
    (unsent : ∀ exchange ∈ course, exchange.question.isSend = false) :
  course.filterMap Exchange.creation? = []
  := by
  apply List.filterMap_eq_nil_iff.mpr
  rintro ⟨question, answer⟩ found
  cases question with
  | send request => cases unsent _ found
  | _ => rfl

/-- A turn whose creation comes to a report asks for that one creation, and it tells the place
of the resource by the links that were resolved for it. -/
theorem Works.creations_of_create {actor : Actor} {work carried : Course} {decision : Decision}
    {o o₁ : Object K} {report : ResourceReport}
    (works : t.Works ns name actor work carried decision o)
    (creating : t.stored.phase = some .creating)
    (creates : Takes (t.stored.create actor) work (some (.ok (report, o₁)))) :
  ∃ creation, t.creations = [creation] ∧ creation.Places (K.item o₁.links report.id).path
  := by
  obtain ⟨⟨cause, ⟨⟩⟩, -⟩
      | ⟨links, r, answer, first, rest, rfl, quiet, quiet', post, place, same⟩ :=
    Object.takes_create creates
  rcases reported : r.reported answer with cause | report'
  · rw [reported] at same
    cases same
  rw [reported] at same
  cases same
  obtain ⟨response, rfl, success, read⟩ := Request.reported_eq_ok.mp reported
  refine ⟨⟨r.path, .ok response⟩, ?_, response, report, rfl, success, read, ?_⟩
  · obtain ⟨opening, course, quiet'', -⟩ := works.split
    obtain ⟨result?, carries⟩ := works.carries
    have unsent := carries.asked ((Task.asks_carryOut ..).mono fun _ =>
      Operation.isSend_of_isLocal)
    have sent : Exchange.creation? ⟨.send r, .ok response⟩ = some ⟨r.path, .ok response⟩ :=
      if_pos post
    rw [creations, if_pos creating, course]
    simp only [List.filterMap_append, List.filterMap_cons_some sent,
      filterMap_creation?_of_unsent unsent,
      filterMap_creation?_of_unsent fun exchange found => (quiet exchange found).1,
      filterMap_creation?_of_unsent fun exchange found => (quiet' exchange found).1,
      filterMap_creation?_of_unsent fun exchange found => (quiet'' exchange found).1]
    rfl
  · rw [Kind.path_item, Object.links_recordLinks, place]

/-- A turn that records the remote resource records the creation that tells its place. -/
theorem MakesRecord.recordedCreation? (h : t.MakesRecord) (goes : t.Goes ns name) :
  ∃ creation, t.recordedCreation? = some creation ∧ creation.Places t.after.endpoint.path
  := by
  obtain ⟨unstored, -⟩ | ⟨-, o, move, moves, after⟩ := goes.status
  · cases unstored h.stores
  have settled : move.phase = .provisioning ∨ move.phase = .created := by
    have moved : t.after.phase = some move.phase := Object.phase_congr after
    obtain provisioning | created := h.settled
    · exact .inl (Option.some.inj (moved.symm.trans provisioning))
    · exact .inr (Option.some.inj (moved.symm.trans created))
  cases moves with
  | preempts preempts =>
    obtain deleting | failed := Object.phase_of_preempting preempts.preempting
    · simp [deleting] at settled
    · simp [failed] at settled
  | works works leads makes =>
    have created := works.works
    rw [h.creating] at created
    obtain ⟨cause, -, rfl, rfl⟩ | ⟨report, o₁, creates, rfl, rfl⟩ := Work.takes_create created
    · obtain rfl := Option.some.inj makes
      rw [h.creating, Option.getD_some] at settled
      obtain same | failed := Move.phase_ofFailure .creating cause
      · simp [same] at settled
      · simp [failed] at settled
    · obtain ⟨creation, creations, places⟩ := works.creations_of_create h.creating creates
      refine ⟨creation, ?_, ?_⟩
      · rw [Turn.recordedCreation?, if_pos h.stores, creations]
        rfl
      · rw [Object.endpoint_congr after, Object.endpoint, Object.links_moved,
          Object.resourceID_moved, Object.links_recordID, Object.resourceID_recordID]
        apply places

end Turn

/-! ## Runs -/

/-- The last recorded creation tells the place of the remote resource, if the object has one. -/
def Addressed (turns : List (Turn K)) (o : Object K) : Prop :=
  o.phase ∈ Phase.present ∨ o.resourceID ≠ "" →
    ∃ creation, lastCreation? turns = some creation ∧ creation.Places o.endpoint.path

namespace Addressed

variable {turns : List (Turn K)} {o o' : Object K} {t : Turn K}

theorem of_status_eq_none (fresh : o.status = none) :
  Addressed [] o
  := by
  rintro (present | named)
  · simp [Object.phase, fresh, Phase.present] at present
  · simp [Object.resourceID, fresh] at named

theorem edited (h : Addressed turns o) (edit : o.StatusKept o') :
  Addressed turns o'
  := by
  rw [Addressed, Object.phase_congr edit, Object.resourceID_congr edit,
    Object.endpoint_congr edit]
  exact h

/-- A turn that keeps what is recorded of a remote resource records no creation. -/
theorem kept (h : Addressed turns t.stored) (recorded : Recorded turns t.stored)
    (keeps : t.KeepsRecord) :
  Addressed (t :: turns) t.after
  := by
  intro has
  have had : t.stored.phase ∈ Phase.present ∨ t.stored.resourceID ≠ "" := by
    obtain present | named := has
    · apply keeps.present present
    · exact .inr (keeps.resourceID ▸ named)
  have uncreating : t.stored.phase ≠ some .creating := by
    intro creating
    obtain present | named := had
    · simp [creating, Phase.present] at present
    · apply named (recorded.begun (.inr creating))
  have unrecorded : t.recordedCreation? = none := by
    simp [Turn.recordedCreation?, Turn.creations, uncreating]
  rw [keeps.endpoint, lastCreation?, List.findSome?_cons, unrecorded]
  exact h had

/-- A turn that records a creation makes it the last one. -/
theorem made (goes : t.Goes ns name) (makes : t.MakesRecord) :
  Addressed (t :: turns) t.after
  := by
  intro _
  obtain ⟨creation, records, places⟩ := makes.recordedCreation? goes
  refine ⟨creation, ?_, places⟩
  rw [lastCreation?, List.findSome?_cons, records]

end Addressed

namespace Run

variable {initial o : Object K} {turns later earlier : List (Turn K)} {t : Turn K}

theorem addressed (run : Run Object.StatusKept ns name initial turns o)
    (fresh : initial.status = none) :
  Addressed turns o
  := by
  induction run with
  | start => exact .of_status_eq_none fresh
  | edited _ edit ih => exact ih.edited edit
  | turned run goes ih =>
    obtain keeps | makes := goes.record
    · exact ih.kept (run.recorded fresh) keeps
    · exact .made goes makes

/-- Whatever is sent for an object creates its remote resource, or goes to the place that the
last creation tells whose outcome was stored by then, or to the data volumes there. -/
theorem requests_addressed
    (run : Run Object.StatusKept ns name initial (later ++ t :: earlier) o)
    (fresh : initial.status = none) {request : Request} {answer : Except String Response}
    (found : ⟨.send request, answer⟩ ∈ t.course) :
  request.method = .post ∧ t.stored.phase = some .creating ∧
      (∃ links, request.path = (K.collection links).path) ∨
    ∃ creation path, lastCreation? earlier = some creation ∧ creation.Places path ∧
      (request.method ≠ .post ∧ request.path = path ∨
        request.method = .post ∧ K = .cloudServer ∧ request.path = path ++ "/dataVolumes")
  := by
  obtain ⟨goes, run⟩ := run.of_append
  obtain creates | ⟨has, place⟩ := goes.isAddressed found
  · exact .inl creates
  · obtain ⟨creation, last, places⟩ := run.addressed fresh has
    exact .inr ⟨creation, _, last, places, place⟩

/-- A data volume of a server is put in place of another, where the server was created. -/
theorem requests_addressed_web :
  ∃ creation path, lastCreation? WebServer.history.tail = some creation ∧ creation.Places path ∧
    WebServer.swapping.sent = [(.post, path ++ "/dataVolumes")]
  := by
  have run : Run Object.StatusKept "shop" "web" WebServer.web
      ([] ++ WebServer.swapping :: WebServer.history.tail) WebServer.swapping.after :=
    WebServer.run_history
  have sent : WebServer.swapping.sent = [(.post,
      "/projects/prj-1/providers/Aruba.Compute/cloudServers/res-9/dataVolumes")] := by
    decide +kernel
  have updating : WebServer.swapping.stored.phase = some .updating := by
    decide +kernel
  obtain ⟨request, answer, found, post, place⟩ :=
    Turn.exists_of_mem_sent (sent ▸ List.mem_singleton_self _)
  obtain ⟨-, creating, -⟩ | ⟨creation, path, last, places, ⟨other, -⟩ | ⟨-, -, volumes⟩⟩ :=
    requests_addressed run rfl found
  · cases creating.symm.trans updating
  · cases other post
  · refine ⟨creation, path, last, places, ?_⟩
    rw [sent, ← place, volumes]

end Run

end CloudOperator
