import CloudOperator.Proofs.Cleanup
import CloudOperator.Proofs.Delivery

/-!
# The identifier of the remote resource

The identifier of a remote resource is recorded once.  An object that is still to be created
names none, and an object that names one has left its creation for good (`Object.Settled`): no
turn takes it back there, so none changes the identifier or asks for another creation
(`Run.resourceID_written_once`).

A write that was applied though its answer was lost is that of a turn that was given up right
after it.
-/

namespace CloudOperator

open Program

variable {K : Kind} {ns name : String}

/-- A path ends in its last segment. -/
theorem Endpoint.suffix_pathOf_concat (segments : List String) (last : String) :
  last.toList <:+ (pathOf (segments ++ [last])).toList
  := by
  rw [pathOf_concat]
  exact ⟨(pathOf segments).toList ++ ['/'], by simp⟩

/-- No collection is in the place of the data volumes of a server. -/
theorem Kind.path_collection_ne_dataVolumes (K : Kind) (links : K.Links)
    (project server : String) :
  (K.collection links).path ≠ (Endpoint.dataVolumes project server).path
  := by
  obtain ⟨segments, last, place, other⟩ : ∃ segments last,
      (K.collection links).path = Endpoint.pathOf (segments ++ [last]) ∧
        ¬ (last.toList <:+ "dataVolumes".toList ∨ "dataVolumes".toList <:+ last.toList) := by
    cases K with
    | project => exact ⟨[], "projects", rfl, by decide⟩
    | vpc => exact ⟨Endpoint.network _ [], "vpcs", rfl, by decide⟩
    | subnet => exact ⟨Endpoint.network _ ["vpcs", _], "subnets", rfl, by decide⟩
    | securityGroup => exact ⟨Endpoint.network _ ["vpcs", _], "securityGroups", rfl, by decide⟩
    | securityRule =>
      exact ⟨Endpoint.network _ ["vpcs", _, "securityGroups", _], "securityRules", rfl, by decide⟩
    | keyPair => exact ⟨Endpoint.compute _ [], "keyPairs", rfl, by decide⟩
    | elasticIp => exact ⟨Endpoint.network _ [], "elasticIps", rfl, by decide⟩
    | blockStorage => exact ⟨Endpoint.storage _ [], "blockStorages", rfl, by decide⟩
    | cloudServer => exact ⟨Endpoint.compute _ [], "cloudServers", rfl, by decide⟩
  intro same
  have collection := Endpoint.suffix_pathOf_concat segments last
  have volumes : "dataVolumes".toList <:+ (Endpoint.dataVolumes project server).path.toList :=
    Endpoint.suffix_pathOf_concat (Endpoint.compute project ["cloudServers", server]) _
  rw [← place, same] at collection
  apply other (List.suffix_or_suffix_of_suffix collection volumes)

/-- What is posted creates the remote resource of an object that is to be created, or changes
the data volumes of a server. -/
theorem Work.asks_creation_of_creating (o : Object K) (actor : Actor) (settings : PassSettings)
    (now : Instant) :
  (ofPhase o.phase o actor settings now).Asks (Operation.SendsOnly fun r => r.method = .post →
    o.phase = some .creating ∨
      ∃ project server, r.path = (Endpoint.dataVolumes project server).path)
  := by
  have otherwise {may : Request → Prop} (other : ∀ r, may r → r.method ≠ .post) :=
    @Operation.SendsOnly.mono may (fun r => r.method = .post →
      o.phase = some .creating ∨
        ∃ project server, r.path = (Endpoint.dataVolumes project server).path)
      fun r holds posts => absurd posts (other r holds)
  rcases current : o.phase with _ | phase
  · trivial
  cases phase with
  | creating =>
    apply (asks_create o actor).mono
    apply Operation.SendsOnly.mono
    exact fun _ _ _ => .inl rfl
  | provisioning =>
    apply (asks_poll o actor).mono
    rw [← current]
    apply otherwise
    rintro r rfl
    nofun
  | created =>
    apply (asks_compare o actor).mono
    intro operation
    apply Operation.sendsOnly_of_isLoad
  | updating =>
    apply (asks_update o actor).mono
    apply Operation.SendsOnly.mono
    rintro r ⟨update, -⟩ posts
    exact .inr (update.dataVolumes posts)
  | deleting =>
    apply (asks_delete o actor).mono
    rw [← current]
    apply otherwise
    rintro r rfl
    nofun
  | failed =>
    apply asks_bind asks_ofOption
    intro result
    trivial

/-- The remote resource of the object is recorded by an identifier, and its creation is
over. -/
structure Object.Settled (o : Object K) (id : String) : Prop where
  named : id ≠ ""
  resourceID : o.resourceID = id
  enrolled : o.phase ≠ none
  created : o.phase ≠ some .creating

namespace Turn

variable {t : Turn K} {id : String}

/-- The turn asks for the creation of a remote resource of its kind. -/
def AsksToCreate (t : Turn K) : Prop :=
  ∃ request answer links, ⟨.send request, answer⟩ ∈ t.course ∧ request.method = .post ∧
    request.path = (K.collection links).path

theorem Goes.creating_of_asksToCreate (h : t.Goes ns name) (asks : t.AsksToCreate) :
  t.stored.phase = some .creating
  := by
  obtain ⟨request, answer, links, found, post, place⟩ := asks
  obtain ⟨-, actor, work, result?, found, takes⟩ := h.sent found rfl
  obtain creating | ⟨project, server, volumes⟩ :=
    takes.asked (Work.asks_creation_of_creating ..) _ found post
  · apply creating
  · cases K.path_collection_ne_dataVolumes links project server (place.symm.trans volumes)

/-- A turn leaves an object settled. -/
theorem Goes.settled (h : t.Goes ns name) (settled : t.stored.Settled id) :
  t.after.Settled id
  := by
  obtain keeps | makes := h.record
  · have begun (phase : t.after.phase = none ∨ t.after.phase = some .creating) : False := by
      obtain none | creating | unnamed := keeps.begun phase
      · apply settled.enrolled none
      · apply settled.created creating
      · apply settled.named (settled.resourceID.symm.trans unnamed)
    exact ⟨settled.named, keeps.resourceID.trans settled.resourceID, fun none => begun (.inl none),
      fun creating => begun (.inr creating)⟩
  · cases settled.created makes.creating

end Turn

theorem Object.Settled.edited {o o' : Object K} {id : String} (h : o.Settled id)
    (edit : o.StatusKept o') :
  o'.Settled id
  where
  named := h.named
  resourceID := (resourceID_congr edit).trans h.resourceID
  enrolled := phase_congr edit ▸ h.enrolled
  created := phase_congr edit ▸ h.created

theorem Recorded.settled {turns : List (Turn K)} {o : Object K} (h : Recorded turns o)
    (named : o.resourceID ≠ "") :
  o.Settled o.resourceID
  where
  named := named
  resourceID := rfl
  enrolled none := named (h.begun (.inl none))
  created creating := named (h.begun (.inr creating))

namespace Run

variable {initial o o' : Object K} {turns later : List (Turn K)} {id : String}

theorem settled (run : Run Object.StatusKept ns name o later o') (settled : o.Settled id) :
  o'.Settled id
  := by
  apply run.keeps (p := (·.Settled id)) _ _ settled
  · exact fun edit settled => settled.edited edit
  · exact Turn.Goes.settled

/-- An object that is being created names no remote resource; once it names one, no later turn
changes the name, or asks for another creation. -/
theorem resourceID_written_once (run : Run Object.StatusKept ns name initial turns o)
    (fresh : initial.status = none) :
  (o.phase = some .creating → o.resourceID = "") ∧
    (o.resourceID ≠ "" → ∀ later o', Run Object.StatusKept ns name o later o' →
      o'.resourceID = o.resourceID ∧
        ∀ t ∈ later, t.after.resourceID = o.resourceID ∧ ¬ t.AsksToCreate)
  := by
  have recorded := run.recorded fresh
  constructor
  · exact fun creating => recorded.begun (.inr creating)
  intro named later o' continued
  have settled := recorded.settled named
  refine ⟨(continued.settled settled).resourceID, fun t found => ?_⟩
  obtain ⟨goes, earlier, -, earlier_run⟩ := continued.of_mem found
  have stored := earlier_run.settled settled
  refine ⟨(goes.settled stored).resourceID, fun asks => ?_⟩
  apply stored.created (goes.creating_of_asksToCreate asks)

/-- The project is created, and its remote resource is recorded. -/
theorem Payments.created :
  Run Object.StatusKept "shop" "payments" .payments [creating, enrolling] creating.after
  := by
  apply turned _ (Turn.goes_ofProject ..)
  apply turned _ (Turn.goes_ofProject ..)
  apply start

/-- Then its specification changes, and the remote resource is found ready. -/
theorem Payments.polled :
  Run Object.StatusKept "shop" "payments" creating.after [polling] polling.after
  := by
  apply turned _ (Turn.goes_ofProject ..)
  apply edited start
  exact rfl

/-- The identifier of the remote resource of a project that is changed and looked at. -/
theorem resourceID_written_once_payments :
  Payments.creating.after.resourceID ≠ "" ∧
    Payments.polling.after.resourceID = Payments.creating.after.resourceID ∧
    ∀ t ∈ [Payments.polling],
      t.after.resourceID = Payments.creating.after.resourceID ∧ ¬ t.AsksToCreate
  := by
  have named : Payments.creating.after.resourceID ≠ "" := by
    decide +kernel
  exact ⟨named, (resourceID_written_once Payments.created rfl).2 named _ _ Payments.polled⟩

end Run

end CloudOperator
