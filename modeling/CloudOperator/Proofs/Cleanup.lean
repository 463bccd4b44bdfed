import CloudOperator.Proofs.PhaseOrder
import CloudOperator.Proofs.Run

/-!
# Cleaning up after objects

When the operator lets go of an object, the remote resources that were created for it
should be gone.  The operator knows of a remote resource by the status alone, so it
deletes those whose creation it recorded there, and no others
(`Run.deleted_iff_recorded`).  A turn keeps what the status tells of the remote resource, or it
records what was reported of its creation (`Turn.Goes.record`).

A status that is written after a creation may be refused, and then the creation is not
recorded: the resource is left behind, unless it is created once more in the same place.
-/

namespace CloudOperator

open Program

variable {K : Kind} {ns name : String}

/-- An edit that leaves the status. -/
def Object.StatusKept (o o' : Object K) : Prop :=
  o'.status = o.status

/-- The path of a resource is that of its collection, followed by its identifier. -/
theorem Kind.path_item (K : Kind) (links : K.Links) (id : String) :
  (K.item links id).path = (K.collection links).path ++ ("/" ++ id)
  := by
  cases K
  all_goals exact Endpoint.pathOf_concat (Endpoint.segments (Kind.collection _ links)) id

/-- The deletion of a remote resource is sent for an object that is being deleted and
whose remote resource is named, and by no other work. -/
theorem Work.asks_deletion_of_named (o : Object K) (actor : Actor) (settings : PassSettings)
    (now : Instant) :
  (ofPhase o.phase o actor settings now).Asks (Operation.SendsOnly fun r => r.method = .delete →
    o.resourceID ≠ "" ∧ r = o.request actor .delete none)
  := by
  have otherwise {may : Request → Prop} (other : ∀ r, may r → r.method ≠ .delete) :=
    @Operation.SendsOnly.mono may (fun r => r.method = .delete →
      o.resourceID ≠ "" ∧ r = o.request actor .delete none)
      fun r holds deletes => absurd deletes (other r holds)
  rcases o.phase with _ | phase
  · trivial
  cases phase with
  | creating =>
    apply (asks_create o actor).mono
    apply otherwise
    rintro r ⟨post, -⟩
    simp [post]
  | provisioning =>
    apply (asks_poll o actor).mono
    apply otherwise
    rintro r rfl
    nofun
  | created =>
    apply (asks_compare o actor).mono
    intro operation
    apply Operation.sendsOnly_of_isLoad
  | updating =>
    apply (asks_update o actor).mono
    apply otherwise
    rintro r ⟨⟨put, -⟩ | ⟨post, -⟩, -⟩
    · simp [put]
    · simp [post]
  | deleting =>
    change (delete o actor).Asks _
    by_cases unnamed : o.resourceID = ""
    · rw [delete, if_pos unnamed]
      trivial
    · apply (asks_delete o actor).mono
      apply Operation.SendsOnly.mono
      exact fun r same _ => ⟨unnamed, same⟩
  | failed =>
    apply asks_bind asks_ofOption
    intro result
    trivial

/-- What is sent is the one exchange amidst others that send nothing. -/
theorem Exchange.eq_of_mem_amidst {exchange amidst : Exchange Operation.Answer}
    {first rest : Course} (found : exchange ∈ first ++ amidst :: rest)
    (sends : exchange.question.isSend)
    (quiet : ∀ exchange ∈ first, exchange.question.isQuiet)
    (quiet' : ∀ exchange ∈ rest, exchange.question.isQuiet) :
  exchange = amidst
  := by
  have unsent (silent : exchange.question.isQuiet) : False := by
    rw [silent.1] at sends
    cases sends
  obtain found | found := List.mem_append.mp found
  · cases unsent (quiet exchange found)
  obtain same | found := List.mem_cons.mp found
  · apply same
  · cases unsent (quiet' exchange found)

/-- The creation of an object begins where it has no phase, or no remote resource. -/
theorem Phase.begun_of_creating_mem_next {id : String} {phase : Option Phase}
    (h : .creating ∈ Phase.next (id ≠ "") phase) :
  phase = none ∨ phase = some .creating ∨ id = ""
  := by
  rcases phase with _ | phase
  · exact .inl rfl
  · by_cases unnamed : id = ""
    · exact .inr (.inr unnamed)
    · cases phase <;> simp [next, unnamed] at h

/-- The phases of an object whose remote resource was created and is not to be deleted. -/
def Phase.present : List (Option Phase) :=
  [some provisioning, some created, some updating]

/-- Without a creation an object gets to these phases from one of them, or where its remote
resource is named. -/
theorem Phase.present_of_mem_next {id : String} {phase : Option Phase} {following : Phase}
    (h : following ∈ next (id ≠ "") phase) (follows : some following ∈ present)
    (uncreating : phase ≠ some .creating) :
  phase ∈ present ∨ id ≠ ""
  := by
  by_cases named : id = ""
  · rcases phase with _ | phase
    · obtain rfl | rfl : following = .creating ∨ following = .deleting := by
        simpa [next] using h
      · simp [present] at follows
      · simp [present] at follows
    cases phase with
    | creating => cases uncreating rfl
    | provisioning | created | updating => exact .inl (by simp [present])
    | deleting =>
      obtain rfl : following = .failed := by
        simpa [next] using h
      simp [present] at follows
    | failed =>
      obtain rfl | rfl : following = .creating ∨ following = .deleting := by
        simpa [next, named] using h
      · simp [present] at follows
      · simp [present] at follows
  · exact .inr named

namespace Turn

variable {t : Turn K}

/-- The turn asks for the creation of the remote resource, and the answer names it; the
path is that of the resource. -/
def Names (t : Turn K) (path : String) : Prop :=
  t.stored.phase = some .creating ∧ ∃ request response report,
    ⟨.send request, .ok response⟩ ∈ t.course ∧ request.method = .post ∧ response.isSuccess ∧
    (Json.read response.body).bind ResourceReport.codec.decode = some report ∧
    report.id ≠ "" ∧ path = request.path ++ ("/" ++ report.id)

/-- The turn asks for the creation of the remote resource, and the answer reports on it. -/
def Reports (t : Turn K) (report : ResourceReport) : Prop :=
  t.stored.phase = some .creating ∧ ∃ request response,
    ⟨.send request, .ok response⟩ ∈ t.course ∧ request.method = .post ∧ response.isSuccess ∧
    (Json.read response.body).bind ResourceReport.codec.decode = some report

/-- A resource that is named is one that is reported. -/
theorem Names.reports {path : String} (h : t.Names path) :
  ∃ report, t.Reports report
  := by
  obtain ⟨creating, request, response, report, found, post, success, read, -⟩ := h
  exact ⟨report, creating, request, response, found, post, success, read⟩

/-- The turn asks for the deletion of the resource at a path, and the answer says that it
is deleted, or that there is none. -/
def Deletes (t : Turn K) (path : String) : Prop :=
  ∃ request response, ⟨.send request, .ok response⟩ ∈ t.course ∧ request.method = .delete ∧
    request.path = path ∧ (response.isSuccess ∨ response.status = 404)

/-- The methods and the paths of the requests that a turn sends. -/
def sent (t : Turn K) : List (Method × String) :=
  t.course.filterMap fun exchange =>
    match exchange.question with
    | .send request => some (request.method, request.path)
    | _ => none

theorem exists_of_mem_sent {method : Method} {path : String} (found : (method, path) ∈ t.sent) :
  ∃ request answer, ⟨.send request, answer⟩ ∈ t.course ∧ request.method = method ∧
    request.path = path
  := by
  obtain ⟨⟨question, answer⟩, asked, same⟩ := List.mem_filterMap.mp found
  cases question with
  | send request =>
    cases same
    exact ⟨request, answer, asked, rfl, rfl⟩
  | _ => cases same

theorem Deletes.mem_sent {path : String} (h : t.Deletes path) :
  (.delete, path) ∈ t.sent
  := by
  obtain ⟨request, response, found, method, rfl, -⟩ := h
  rw [← method]
  exact List.mem_filterMap.mpr ⟨_, found, rfl⟩

/-- What is deleted is the remote resource that the object names. -/
theorem Goes.deletes (h : t.Goes ns name) {path : String} (deletes : t.Deletes path) :
  t.stored.resourceID ≠ "" ∧ t.stored.endpoint.path = path
  := by
  obtain ⟨request, response, found, method, rfl, -⟩ := deletes
  obtain ⟨-, actor, work, result?, found, takes⟩ := h.sent found rfl
  obtain ⟨named, rfl⟩ := takes.asked (Work.asks_deletion_of_named ..) _ found method
  exact ⟨named, rfl⟩

/-- What a creation comes to is what the answer to its one request reports. -/
theorem Works.eq_of_created {actor : Actor} {work carried : Course} {decision : Decision}
    {o : Object K} {result : Except Failure (ResourceReport × Object K)}
    (works : t.Works ns name actor work carried decision o)
    (creates : Takes (t.stored.create actor) work (some result)) {request : Request}
    {answer : Except String Response} (found : ⟨.send request, answer⟩ ∈ t.course) :
  ∃ links, request.path = (K.collection links).path ∧
    result = (request.reported answer).map fun report => (report, t.stored.recordLinks links)
  := by
  have sent := works.sent found rfl
  obtain ⟨-, quiet⟩ | ⟨links, r, answer, first, rest, rfl, quiet, quiet', -, place, same⟩ :=
    Object.takes_create creates
  · cases (quiet _ sent).1
  · cases Exchange.eq_of_mem_amidst sent rfl quiet quiet'
    exact ⟨links, place, same⟩

/-- Whatever is reported to a turn that creates the remote resource is what the creation comes
to. -/
theorem Works.eq_of_reported {actor : Actor} {work carried : Course} {decision : Decision}
    {o : Object K} {result : Except Failure (ResourceReport × Object K)}
    (works : t.Works ns name actor work carried decision o)
    (creates : Takes (t.stored.create actor) work (some result)) {request : Request}
    {response : Response} {report : ResourceReport}
    (found : ⟨.send request, .ok response⟩ ∈ t.course) (success : response.isSuccess)
    (read : (Json.read response.body).bind ResourceReport.codec.decode = some report) :
  ∃ o₁, result = .ok (report, o₁) ∧ request.path = (K.collection o₁.links).path
  := by
  obtain ⟨links, place, same⟩ := works.eq_of_created creates found
  rw [Request.reported_eq_ok.mpr ⟨response, rfl, success, read⟩] at same
  refine ⟨_, same, ?_⟩
  rw [Object.links_recordLinks, place]

/-- What a creation comes to is reported to the turn. -/
theorem Works.exists_reported {actor : Actor} {work carried : Course} {decision : Decision}
    {o o₁ : Object K} {report : ResourceReport}
    (works : t.Works ns name actor work carried decision o)
    (creates : Takes (t.stored.create actor) work (some (.ok (report, o₁)))) :
  ∃ request response, ⟨.send request, .ok response⟩ ∈ t.course ∧ request.method = .post ∧
    request.path = (K.collection o₁.links).path ∧ response.isSuccess ∧
    (Json.read response.body).bind ResourceReport.codec.decode = some report
  := by
  obtain ⟨⟨cause, ⟨⟩⟩, -⟩ | ⟨links, r, answer, first, rest, rfl, -, -, post, place, same⟩ :=
    Object.takes_create creates
  rcases reported : r.reported answer with cause | report'
  · rw [reported] at same
    cases same
  rw [reported] at same
  cases same
  obtain ⟨response, rfl, success, read⟩ := Request.reported_eq_ok.mp reported
  refine ⟨r, response, ?_, post, ?_, success, read⟩
  · obtain ⟨opening, course, -⟩ := works.split
    simp [course]
  · rw [Object.links_recordLinks, place]

/-- The names that a creation comes to are those that its answer tells. -/
theorem names_iff_of_create {actor : Actor} {work carried : Course} {decision : Decision}
    {o o₁ : Object K} {report : ResourceReport} {path : String}
    (works : t.Works ns name actor work carried decision o)
    (creating : t.stored.phase = some .creating)
    (creates : Takes (t.stored.create actor) work (some (.ok (report, o₁)))) :
  t.Names path ↔ report.id ≠ "" ∧ path = (K.item o₁.links report.id).path
  := by
  rw [Kind.path_item]
  constructor
  · rintro ⟨-, request, response, report', found, -, success, read, named, rfl⟩
    obtain ⟨_, ⟨⟩, place⟩ := works.eq_of_reported creates found success read
    rw [place]
    exact ⟨named, rfl⟩
  · rintro ⟨named, rfl⟩
    obtain ⟨request, response, found, post, place, success, read⟩ := works.exists_reported creates
    rw [← place]
    exact ⟨creating, request, response, report, found, post, success, read, named, rfl⟩

/-- A creation comes to the one report of its answer. -/
theorem reports_iff_of_create {actor : Actor} {work carried : Course} {decision : Decision}
    {o o₁ : Object K} {report other : ResourceReport}
    (works : t.Works ns name actor work carried decision o)
    (creating : t.stored.phase = some .creating)
    (creates : Takes (t.stored.create actor) work (some (.ok (report, o₁)))) :
  t.Reports other ↔ other = report
  := by
  constructor
  · rintro ⟨-, request, response, found, -, success, read⟩
    obtain ⟨_, ⟨⟩, -⟩ := works.eq_of_reported creates found success read
    rfl
  · rintro rfl
    obtain ⟨request, response, found, post, -, success, read⟩ := works.exists_reported creates
    exact ⟨creating, request, response, found, post, success, read⟩

/-- A creation that fails comes to no report. -/
theorem not_reports_of_create {actor : Actor} {work carried : Course} {decision : Decision}
    {o : Object K} {cause : Failure} {report : ResourceReport}
    (works : t.Works ns name actor work carried decision o)
    (fails : Takes (t.stored.create actor) work (some (.error cause))) :
  ¬ t.Reports report
  := by
  rintro ⟨-, request, response, found, -, success, read⟩
  obtain ⟨_, ⟨⟩, -⟩ := works.eq_of_reported fails found success read

/-- The turn keeps what the object records of its remote resource. -/
structure KeepsRecord (t : Turn K) : Prop where
  resourceID : t.after.resourceID = t.stored.resourceID
  endpoint : t.after.endpoint = t.stored.endpoint
  unreported : ∀ report, t.Reports report → ¬ t.StoresStatus
  begun : t.after.phase = none ∨ t.after.phase = some .creating →
    t.stored.phase = none ∨ t.stored.phase = some .creating ∨ t.stored.resourceID = ""
  present : t.after.phase ∈ Phase.present → t.stored.phase ∈ Phase.present ∨
    t.stored.resourceID ≠ ""

/-- The turn records the remote resource that it created. -/
structure MakesRecord (t : Turn K) : Prop where
  creating : t.stored.phase = some .creating
  stores : t.StoresStatus
  names : ∀ path, t.Names path ↔ t.after.resourceID ≠ "" ∧ t.after.endpoint.path = path
  reports : ∃ report, (∀ other, t.Reports other ↔ other = report) ∧
    t.after.resourceID = report.id
  settled : t.after.phase = some .provisioning ∨ t.after.phase = some .created

theorem KeepsRecord.of_unstored (unstored : ¬ t.StoresStatus)
    (same : t.after.status = t.stored.status) :
  t.KeepsRecord
  where
  resourceID := Object.resourceID_congr same
  endpoint := Object.endpoint_congr same
  unreported _ _ := unstored
  begun phase := by
    rw [Object.phase_congr same] at phase
    obtain none | creating := phase
    · exact .inl none
    · exact .inr (.inl creating)
  present phase := by
    rw [Object.phase_congr same] at phase
    exact .inl phase

/-- A move keeps what is recorded of the remote resource if the work did. -/
theorem KeepsRecord.of_move {o : Object K} {move : Move}
    (after : t.after.status = (o.moved move t.now).status) (rewired : t.stored.Rewired o)
    (reportless : ∀ report, ¬ t.Reports report)
    (begun : move.phase = .creating →
      t.stored.phase = none ∨ t.stored.phase = some .creating ∨ t.stored.resourceID = "")
    (present : some move.phase ∈ Phase.present →
      t.stored.phase ∈ Phase.present ∨ t.stored.resourceID ≠ "") :
  t.KeepsRecord
  := by
  have resourceID : t.after.resourceID = t.stored.resourceID := by
    rw [Object.resourceID_congr after, Object.resourceID_moved, rewired.resourceID]
  have phase : t.after.phase = some move.phase := Object.phase_congr after
  refine ⟨resourceID, ?_, fun report reports => absurd reports (reportless report), ?_, ?_⟩
  · rw [Object.endpoint, resourceID, Object.links_congr after, Object.links_moved, rewired.item,
      Object.endpoint]
  · rw [phase]
    rintro (none | creating)
    · cases none
    · apply begun (Option.some.inj creating)
  · rw [phase]
    apply present

theorem MakesRecord.of_create {actor : Actor} {work carried : Course} {o₁ : Object K}
    {report : ResourceReport}
    (works : t.Works ns name actor work carried (.ofCreated report.state?)
      (o₁.recordID report.id))
    (creating : t.stored.phase = some .creating)
    (creates : Takes (t.stored.create actor) work (some (.ok (report, o₁))))
    (stores : t.StoresStatus) {move : Move}
    (makes : (Decision.ofCreated report.state?).move? (o₁.recordID report.id) = some move)
    (after : t.after.status = ((o₁.recordID report.id).moved move t.now).status) :
  t.MakesRecord
  := by
  have resourceID : t.after.resourceID = report.id := by
    rw [Object.resourceID_congr after, Object.resourceID_moved, Object.resourceID_recordID]
  have links : t.after.links = o₁.links := by
    rw [Object.links_congr after, Object.links_moved, Object.links_recordID]
  have phase : t.after.phase = some move.phase := Object.phase_congr after
  refine ⟨creating, stores, ?_, ⟨report, ?_, resourceID⟩, ?_⟩
  · intro path
    rw [names_iff_of_create works creating creates, Object.endpoint, links, resourceID,
      eq_comm (a := path)]
  · exact fun other => reports_iff_of_create works creating creates
  · rw [phase]
    rw [Decision.ofCreated] at makes
    split at makes
    · obtain rfl := Option.some.inj makes
      exact .inl rfl
    · obtain rfl := Option.some.inj makes
      exact .inr rfl

/-- A turn keeps what is recorded of the remote resource, or records it. -/
theorem Goes.record (h : t.Goes ns name) :
  t.KeepsRecord ∨ t.MakesRecord
  := by
  obtain ⟨unstored, same⟩ | ⟨stores, o, move, moves, after⟩ := h.status
  · exact .inl (.of_unstored unstored same)
  cases moves with
  | preempts preempts =>
    left
    have taken := Object.phase_of_preempting preempts.preempting
    apply KeepsRecord.of_move after (.refl t.stored)
    · rintro report ⟨-, request, response, found, -⟩
      obtain ⟨unpreempted, -⟩ := h.sent found rfl
      cases preempts.preempting.symm.trans unpreempted
    · intro creating
      obtain deleting | failed := taken
      · cases creating.symm.trans deleting
      · cases creating.symm.trans failed
    · intro present
      obtain deleting | failed := taken
      · simp [deleting, Phase.present] at present
      · simp [failed, Phase.present] at present
  | works works leads makes =>
    by_cases creating : t.stored.phase = some .creating
    · have created := works.works
      rw [creating] at created
      obtain ⟨cause, fails, rfl, rfl⟩ | ⟨report, o₁, creates, rfl, rfl⟩ :=
        Work.takes_create created
      · left
        obtain rfl := Option.some.inj makes
        apply KeepsRecord.of_move after (.refl t.stored)
        · exact fun report => not_reports_of_create works fails
        · exact fun _ => .inr (.inl creating)
        · rw [creating, Option.getD_some]
          intro present
          obtain same | failed := Move.phase_ofFailure .creating cause
          · simp [same, Phase.present] at present
          · simp [failed, Phase.present] at present
      · exact .inr (.of_create works creating creates stores makes after)
    · left
      obtain ⟨-, -, -, other, -⟩ | rewired := leads.rewired
      · cases creating other
      apply KeepsRecord.of_move after rewired
      · exact fun report reports => creating reports.1
      · intro begins
        obtain same | follows := leads.next makes
        · rw [begins] at same
          cases creating same
        · rw [begins] at follows
          apply Phase.begun_of_creating_mem_next follows
      · intro present
        obtain same | follows := leads.next makes
        · rw [← same] at present
          exact .inl present
        · apply Phase.present_of_mem_next follows present creating

end Turn

/-- What an object records of its remote resource: nothing before the creation, and then
the one resource whose creation a turn recorded. -/
structure Recorded (turns : List (Turn K)) (o : Object K) : Prop where
  begun : o.phase = none ∨ o.phase = some .creating → o.resourceID = ""
  named : o.resourceID ≠ "" → ∃ t ∈ turns, t.Names o.endpoint.path ∧ t.StoresStatus
  recorded : ∀ t ∈ turns, ∀ path, t.Names path → t.StoresStatus →
    o.resourceID ≠ "" ∧ o.endpoint.path = path

namespace Recorded

variable {turns : List (Turn K)} {o o' : Object K} {t : Turn K}

theorem of_status_eq_none (fresh : o.status = none) :
  Recorded [] o
  where
  begun _ := by simp [Object.resourceID, fresh]
  named named := by simp [Object.resourceID, fresh] at named
  recorded := by simp

theorem edited (h : Recorded turns o) (edit : o.StatusKept o') :
  Recorded turns o'
  := by
  have resourceID : o'.resourceID = o.resourceID := Object.resourceID_congr edit
  have endpoint : o'.endpoint = o.endpoint := Object.endpoint_congr edit
  constructor
  · rw [resourceID, Object.phase_congr edit]
    apply h.begun
  · rw [resourceID, endpoint]
    apply h.named
  · rw [resourceID, endpoint]
    apply h.recorded

/-- A turn that keeps what is recorded makes no record of its own. -/
theorem kept (h : Recorded turns t.stored) (keeps : t.KeepsRecord) :
  Recorded (t :: turns) t.after
  := by
  constructor
  · intro phase
    rw [keeps.resourceID]
    obtain none | creating | unnamed := keeps.begun phase
    · apply h.begun (.inl none)
    · apply h.begun (.inr creating)
    · apply unnamed
  · rw [keeps.resourceID, keeps.endpoint]
    intro named
    obtain ⟨u, found, names, stores⟩ := h.named named
    exact ⟨u, List.mem_cons_of_mem _ found, names, stores⟩
  · rw [keeps.resourceID, keeps.endpoint]
    intro u found path names stores
    obtain rfl | found := List.mem_cons.mp found
    · obtain ⟨report, reports⟩ := names.reports
      cases keeps.unreported report reports stores
    · apply h.recorded u found path names stores

/-- A turn that makes a record finds none. -/
theorem made (h : Recorded turns t.stored) (makes : t.MakesRecord) :
  Recorded (t :: turns) t.after
  := by
  constructor
  · intro phase
    obtain provisioning | created := makes.settled
    · rw [provisioning] at phase
      obtain ⟨⟨⟩⟩ | ⟨⟨⟩⟩ := phase
    · rw [created] at phase
      obtain ⟨⟨⟩⟩ | ⟨⟨⟩⟩ := phase
  · intro named
    exact ⟨t, List.mem_cons_self, (makes.names _).mpr ⟨named, rfl⟩, makes.stores⟩
  · intro u found path names stores
    obtain rfl | found := List.mem_cons.mp found
    · exact (makes.names path).mp names
    · obtain ⟨named, -⟩ := h.recorded u found path names stores
      cases named (h.begun (.inr makes.creating))

theorem turned (h : Recorded turns t.stored) (goes : t.Goes ns name) :
  Recorded (t :: turns) t.after
  := by
  obtain keeps | makes := goes.record
  · apply h.kept keeps
  · apply h.made makes

end Recorded

namespace Run

variable {initial o : Object K} {turns : List (Turn K)} {t : Turn K}

theorem recorded (run : Run Object.StatusKept ns name initial turns o)
    (fresh : initial.status = none) :
  Recorded turns o
  := by
  induction run with
  | start => exact .of_status_eq_none fresh
  | edited _ edit ih => exact ih.edited edit
  | turned _ goes ih => exact ih.turned goes

/-- When the operator lets go of an object, the remote resources that were deleted are
those whose creation was recorded. -/
theorem deleted_iff_recorded (run : Run Object.StatusKept ns name initial turns t.stored)
    (fresh : initial.status = none) (goes : t.Goes ns name) (kept : t.stored.hasFinalizer)
    (letsGo : ¬ t.after.hasFinalizer) (path : String) :
  (∃ u ∈ t :: turns, u.Deletes path) ↔ ∃ u ∈ t :: turns, u.Names path ∧ u.StoresStatus
  := by
  constructor
  · rintro ⟨u, found, deletes⟩
    obtain ⟨goes', earlier, among, run'⟩ := (Run.turned run goes).of_mem found
    obtain ⟨named, rfl⟩ := goes'.deletes deletes
    obtain ⟨v, found', names, stores⟩ := (run'.recorded fresh).named named
    exact ⟨v, among v found', names, stores⟩
  · rintro ⟨u, found, names, stores⟩
    rw [Object.hasFinalizer] at kept letsGo
    obtain same | ⟨-, -, -, added⟩ | ⟨deleting, gone, -⟩ := goes.finalizers
    · rw [same] at letsGo
      cases letsGo kept
    · rw [added] at letsGo
      cases letsGo (by simp)
    obtain rfl | found := List.mem_cons.mp found
    · cases deleting.symm.trans names.1
    obtain ⟨named, same⟩ := (run.recorded fresh).recorded u found path names stores
    obtain unnamed | ⟨actor, response, found, done⟩ := gone
    · cases named unnamed
    · exact ⟨t, List.mem_cons_self, _, response, found, rfl, same, done⟩

namespace RefusedPayments

/-- The project is enrolled. -/
def enrolling : Turn .project :=
  .ofProject 0 .payments (Turn.reportOn "Active") none

/-- Its remote resource is created, but somebody else wrote the project meanwhile. -/
def creating : Turn .project :=
  .ofProject 1 enrolling.after (Turn.reportOn "Active") (some (.conflict "shop" "payments"))

/-- The project is to be deleted. -/
def doomed : Object .project :=
  { creating.after with
    metadata := { creating.after.metadata with deletionTimestamp := some ⟨2, 0⟩ } }

/-- The project is taken to its deletion. -/
def preempted : Turn .project :=
  .ofProject 2 doomed (Turn.reportOn "Active") none

/-- The operator lets go of the project, which names no remote resource. -/
def releasing : Turn .project :=
  .ofProject 3 preempted.after (Turn.reportOn "Active") none

theorem run :
  Run Object.StatusKept "shop" "payments" .payments [preempted, creating, enrolling]
    releasing.stored
  := by
  apply turned _ (Turn.goes_ofProject ..)
  apply edited (o := creating.after)
  · apply turned _ (Turn.goes_ofProject ..)
    apply turned _ (Turn.goes_ofProject ..)
    apply start
  · exact rfl

theorem letsGo :
  releasing.stored.hasFinalizer ∧ ¬ releasing.after.hasFinalizer
  := by
  decide +kernel

theorem sends :
  creating.stored.phase = some .creating ∧ creating.sent = [(.post, "/projects")] ∧
    enrolling.sent = [] ∧ preempted.sent = [] ∧ releasing.sent = []
  := by
  decide +kernel

theorem names :
  creating.Names "/projects/res-9"
  := by
  have told : (Json.read (Turn.reportOn "Active").body).bind ResourceReport.codec.decode
      = some ⟨"res-9", "", some "Active"⟩ := by
    decide +kernel
  obtain ⟨phase, sent, -⟩ := sends
  obtain ⟨request, answer, found, post, place⟩ :=
    Turn.exists_of_mem_sent (t := creating) (sent ▸ List.mem_singleton_self _)
  obtain rfl := Turn.answer_ofProject found
  refine ⟨phase, request, Turn.reportOn "Active", _, found, post, rfl, told, nofun, ?_⟩
  rw [place]
  rfl

end RefusedPayments

/-- The condition for the deletion, where the record of a creation was refused. -/
theorem deleted_iff_recorded_payments :
  (∃ u ∈ [RefusedPayments.releasing, RefusedPayments.preempted, RefusedPayments.creating,
      RefusedPayments.enrolling], u.Deletes "/projects/res-9") ↔
    ∃ u ∈ [RefusedPayments.releasing, RefusedPayments.preempted, RefusedPayments.creating,
      RefusedPayments.enrolling], u.Names "/projects/res-9" ∧ u.StoresStatus
  := deleted_iff_recorded RefusedPayments.run rfl (Turn.goes_ofProject ..)
    RefusedPayments.letsGo.1 RefusedPayments.letsGo.2 "/projects/res-9"

/-- A remote resource is left behind: the record of its creation was refused, and the
operator lets go of the object without a deletion. -/
theorem resource_left_behind :
  ∃ (turns : List (Turn .project)) (t : Turn .project) (path : String),
    Run Object.StatusKept "shop" "payments" .payments turns t.stored ∧
      Object.payments.status = none ∧ t.Goes "shop" "payments" ∧
      t.stored.hasFinalizer ∧ ¬ t.after.hasFinalizer ∧
      (∃ u ∈ t :: turns, u.Names path) ∧ ¬ ∃ u ∈ t :: turns, u.Deletes path
  := by
  obtain ⟨kept, letsGo⟩ := RefusedPayments.letsGo
  refine ⟨_, RefusedPayments.releasing, _, RefusedPayments.run, rfl, Turn.goes_ofProject ..,
    kept, letsGo, ⟨RefusedPayments.creating, by simp, RefusedPayments.names⟩, ?_⟩
  rintro ⟨u, found, deletes⟩
  have sent := deletes.mem_sent
  obtain ⟨-, created, enrolled, preempted, released⟩ := RefusedPayments.sends
  simp only [List.mem_cons, List.not_mem_nil, or_false] at found
  obtain rfl | rfl | rfl | rfl := found
  · rw [released] at sent
    cases sent
  · rw [preempted] at sent
    cases sent
  · rw [created] at sent
    simp at sent
  · rw [enrolled] at sent
    cases sent

end Run

end CloudOperator
