import CloudOperator.Proofs.Convergence

/-!
# Troubles of the work of a phase

The work of a phase fails for an answer that it gets: a reference cannot be looked up or leads to
no remote resource, or the remote API cannot be reached or does not do what it is asked for.  Such
an answer means trouble (`Exchange.troubles`).

A program heeds troubles if it fails at the first one, for the cause that it gives, and at nothing
else (`Program.Heeds`).  Programs that heed troubles are composed to ones that do, and so the
troubles on a course of the work of a phase are the cause for which the work fails
(`Work.flatMap_troubles`).
-/

namespace CloudOperator

open Program

/-! ## Programs that heed troubles -/

/-- The cause for which something failed, if it failed. -/
def causes {ε α : Type} : Except ε α → List ε
  | .ok _ => []
  | .error cause => [cause]

/-- A value that is changed at the end is no other cause. -/
@[simp]
theorem causes_map {ε α β : Type} (f : α → β) (result : Except ε α) :
  causes (result.map f) = causes result
  := by
  cases result <;> rfl

namespace Program

variable {Question : Type} {Answer : Question → Type} {α β ε : Type}
  {troubles : Exchange Answer → List ε}

/-- A program comes to a result whatever it is answered, and the troubles on its course are the
cause for which it fails. -/
structure Heeds (troubles : Exchange Answer → List ε) (program : ExceptT ε (Program Answer) α) :
    Prop where
  stays : Stays program
  causes_eq : ∀ course result, Takes program course (some result) →
    course.flatMap troubles = causes result

/-- What asks nothing fails for nothing. -/
theorem heeds_pure (a : α) :
  Heeds troubles (pure a)
  where
  stays := trivial
  causes_eq course result h := by
    obtain ⟨rfl, ⟨⟩⟩ := takes_attempt_pure.mp h
    rfl

/-- A program that heeds its troubles, followed by others that do, heeds its troubles: the first
trouble ends it. -/
theorem Heeds.bind {program : ExceptT ε (Program Answer) α} {f : α → ExceptT ε (Program Answer) β}
    (first : Heeds troubles program) (second : ∀ a, Heeds troubles (f a)) :
  Heeds troubles (program >>= f)
  where
  stays := stays_attempt_bind first.stays fun a => (second a).stays
  causes_eq course result h := by
    obtain ⟨-, ⟨⟩⟩ | ⟨cause, fails, ⟨⟩⟩ | ⟨a, before, after, rfl, ends, goes⟩ :=
      takes_attempt_bind.mp h
    · exact first.causes_eq course _ fails
    · rw [List.flatMap_append, first.causes_eq before _ ends,
        (second a).causes_eq after result goes]
      rfl

/-- Programs that are carried out over a list heed their troubles if each one does. -/
theorem heeds_mapM {f : α → ExceptT ε (Program Answer) β} (h : ∀ a, Heeds troubles (f a))
    (list : List α) :
  Heeds troubles (list.mapM f)
  := by
  induction list with
  | nil =>
    rw [List.mapM_nil]
    apply heeds_pure
  | cons a list ih =>
    rw [List.mapM_cons]
    apply (h a).bind
    intro b
    apply ih.bind
    intro bs
    apply heeds_pure

end Program

/-! ## Troubles -/

/-- The causes for which the work of a phase fails at the answer to a request.  The answers to a
creation and to a poll have to report on the resource, and that there is no resource is no
failure of its deletion. -/
def Request.complaints (r : Request) (phase : Option Phase) (answer : Except String Response) :
    List Failure :=
  match phase with
  | some .creating | some .provisioning => causes (r.reported answer)
  | some .deleting => (causes (Request.outcome answer)).filter (!·.isNotFound)
  | _ => causes (Request.outcome answer)

/-- The causes for which the work of a phase fails at an exchange. -/
def Exchange.troubles (phase : Option Phase) : Exchange Operation.Answer → List Failure
  | ⟨.load _ _ _, .error cause⟩ => [.store cause]
  | ⟨.load K ns name, .ok none⟩ => [.referenceNotFound K.name ns name]
  | ⟨.load K ns name, .ok (some o)⟩ =>
    if o.resourceID = "" then [.dependencyNotReady K.name ns name] else []
  | ⟨.send request, answer⟩ => request.complaints phase answer
  | _ => []

variable {phase : Option Phase}

/-- What is only counted means no trouble. -/
theorem Exchange.flatMap_troubles_of_counts {course : Course}
    (counts : ∀ exchange ∈ course, ∃ counter, exchange.question = .count counter) :
  course.flatMap (troubles phase) = []
  := by
  apply List.flatMap_eq_nil_iff.mpr
  rintro ⟨question, answer⟩ found
  obtain ⟨counter, rfl⟩ := counts _ found
  rfl

/-! ## References -/

namespace Reference

/-- A reference is not resolved if its object cannot be loaded, is missing, or has no remote
resource yet, and for no other cause. -/
theorem heeds_resolve (ns : String) (K : Kind) (r : Reference) :
  Heeds (Exchange.troubles phase) (r.resolve ns K)
  where
  stays := stays_resolve ns K r
  causes_eq course result h := by
    obtain ⟨-, ⟨⟩⟩ | ⟨answer, rest, rfl, goes⟩ := takes_attempt_ask.mp h
    rcases answer with cause | _ | o
    · obtain ⟨rfl, ⟨⟩⟩ := takes_attempt_throw.mp goes
      rfl
    · obtain ⟨rfl, ⟨⟩⟩ := takes_attempt_throw.mp goes
      rfl
    · dsimp only at goes
      split at goes
      · obtain ⟨rfl, ⟨⟩⟩ := takes_attempt_throw.mp goes
        simp [Exchange.troubles, causes, *]
      · obtain ⟨rfl, ⟨⟩⟩ := takes_attempt_pure.mp goes
        simp [Exchange.troubles, causes, *]

theorem heeds_resolveAll (ns : String) (K : Kind) (rs : List Reference) :
  Heeds (Exchange.troubles phase) (resolveAll ns K rs)
  := heeds_mapM (heeds_resolve ns K) rs

theorem heeds_resolveIfAny (ns : String) (K : Kind) (r? : Option Reference) :
  Heeds (Exchange.troubles phase) (resolveIfAny ns K r?)
  := by
  cases r? with
  | none => apply heeds_pure
  | some r => apply heeds_resolve

end Reference

namespace Kind

open Reference

theorem heeds_resolveAttachments (ns : String) (s : CloudServerSpec) (l : ServerLinks) :
  Heeds (Exchange.troubles phase) (resolveAttachments ns s l)
  := by
  apply (heeds_resolveAll ..).bind
  intro subnets
  apply (heeds_resolveAll ..).bind
  intro groups
  apply (heeds_resolveIfAny ..).bind
  intro address
  apply heeds_pure

/-- The links of an object are not resolved for the trouble with the first reference that has one.
-/
theorem heeds_resolveLinks (ns : String) (K : Kind) (s : K.Spec) (l : K.Links) :
  Heeds (Exchange.troubles phase) (K.resolveLinks ns s l)
  := by
  cases K with
  | project => apply heeds_pure
  | vpc | keyPair | elasticIp | blockStorage =>
    apply (heeds_resolve ..).bind
    intro project
    apply heeds_pure
  | subnet | securityGroup =>
    apply (heeds_resolve ..).bind
    intro project
    apply (heeds_resolve ..).bind
    intro vpc
    apply heeds_pure
  | securityRule =>
    apply (heeds_resolve ..).bind
    intro project
    apply (heeds_resolve ..).bind
    intro vpc
    apply (heeds_resolve ..).bind
    intro group
    apply heeds_pure
  | cloudServer =>
    apply (heeds_resolve ..).bind
    intro project
    apply (heeds_resolve ..).bind
    intro vpc
    apply (heeds_resolve ..).bind
    intro volume
    apply (heeds_resolve ..).bind
    intro keyPair
    apply heeds_resolveAttachments

end Kind

/-! ## Requests -/

namespace Request

variable {r : Request} {course : Course}

/-- A request is answered, or it fails; it does not leave the calendar. -/
theorem stays_answer (r : Request) :
  Stays r.answer
  := by
  rintro (detail | response) _
  · trivial
  · change Stays (if response.isSuccess = true then _ else _)
    split
    · trivial
    · trivial

theorem stays_report (r : Request) :
  Stays r.report
  := by
  apply stays_attempt_bind r.stays_answer
  intro body
  split
  · trivial
  · trivial

theorem stays_succeed (r : Request) :
  Stays r.succeed
  := stays_attempt_bind r.stays_answer fun _ => trivial

/-- Whether an operation sends the request, or counts something. -/
def Makes (r : Request) (operation : Operation) : Prop :=
  operation = .send r ∨ ∃ counter, operation = .count counter

/-- Besides the request nothing means trouble. -/
theorem flatMap_troubles_of_makes {answer : Except String Response} {rest : Course}
    (quiet : ∀ exchange ∈ rest, exchange.question.isQuiet)
    (makes : ∀ exchange ∈ ⟨.send r, answer⟩ :: rest, r.Makes exchange.question) :
  (⟨.send r, answer⟩ :: rest).flatMap (Exchange.troubles phase) = r.complaints phase answer
  := by
  rw [List.flatMap_cons, Exchange.flatMap_troubles_of_counts, List.append_nil, Exchange.troubles]
  intro exchange found
  obtain sends | counts := makes exchange (List.mem_cons_of_mem _ found)
  · obtain ⟨unsent, -⟩ := quiet exchange found
    rw [sends] at unsent
    cases unsent
  · exact counts

/-- Where it is read what an answer reports, a request fails for the complaints about its answer. -/
theorem heeds_report (reads : phase = some .creating ∨ phase = some .provisioning) (r : Request) :
  Heeds (Exchange.troubles phase) r.report
  where
  stays := r.stays_report
  causes_eq course result h := by
    have makes : Asks r.Makes r.report :=
      asks_report_of (.inl rfl) fun _ _ => .inr ⟨_, rfl⟩
    obtain ⟨answer, rest, rfl, quiet, rfl⟩ := takes_report h
    rw [flatMap_troubles_of_makes quiet (h.asked makes)]
    obtain rfl | rfl := reads
    · rfl
    · rfl

/-- The troubles of a request whose answer has to be a success. -/
theorem flatMap_troubles_succeed {result : Except Failure Unit}
    (h : Takes r.succeed course (some result)) :
  ∃ answer, ⟨.send r, answer⟩ ∈ course ∧
    course.flatMap (Exchange.troubles phase) = r.complaints phase answer ∧
    result = (outcome answer).map fun _ => ()
  := by
  have makes : Asks r.Makes r.succeed :=
    asks_succeed_of (.inl rfl) fun _ _ => .inr ⟨_, rfl⟩
  obtain ⟨answer, rest, rfl, quiet, rfl⟩ := takes_succeed h
  exact ⟨answer, List.mem_cons_self, flatMap_troubles_of_makes quiet (h.asked makes), rfl⟩

/-- A request that has to succeed fails for the complaints about its answer. -/
theorem heeds_succeed (r : Request) :
  Heeds (Exchange.troubles (some .updating)) r.succeed
  where
  stays := r.stays_succeed
  causes_eq course result h := by
    obtain ⟨answer, -, same, rfl⟩ := flatMap_troubles_succeed h
    rw [same, causes_map]
    rfl

end Request

/-! ## Exchanges with a remote resource -/

namespace Object

variable {K : Kind}

/-- A creation fails for the troubles on its course. -/
theorem heeds_create (o : Object K) (actor : Actor) :
  Heeds (Exchange.troubles (some .creating)) (o.create actor)
  := by
  apply (Kind.heeds_resolveLinks ..).bind
  intro links
  apply (Request.heeds_report (.inl rfl) _).bind
  intro report
  apply heeds_pure

/-- So does a look at the remote resource. -/
theorem heeds_remoteState (o : Object K) (actor : Actor) :
  Heeds (Exchange.troubles (some .provisioning)) (o.remoteState actor)
  := by
  apply (Request.heeds_report (.inr rfl) _).bind
  intro report
  apply heeds_pure

/-- The change of the data volumes is not found for the troubles with their references. -/
theorem heeds_volumeChange (o : Object .cloudServer) (actor : Actor) :
  Heeds (Exchange.troubles phase) (o.volumeChange actor)
  := by
  apply Heeds.bind
  · apply (Reference.heeds_resolveAll ..).bind
    intro ids
    apply heeds_pure
  intro desired
  apply heeds_pure

/-- A comparison fails for the troubles with the references of the object. -/
theorem heeds_drift? (o : Object K) (actor : Actor) :
  Heeds (Exchange.troubles phase) (o.drift? actor)
  := by
  cases K with
  | cloudServer =>
    apply (o.heeds_volumeChange actor).bind
    intro change
    apply heeds_pure
  | _ => apply heeds_pure

theorem heeds_attach (o : Object .cloudServer) (actor : Actor) :
  Heeds (Exchange.troubles (some .updating)) (o.attach actor)
  := by
  apply (Kind.heeds_resolveAttachments ..).bind
  intro links
  apply (Request.heeds_succeed _).bind
  intro _
  apply heeds_pure

/-- The data volumes of a server are not brought in line for the troubles on the way. -/
theorem heeds_syncVolumes (o : Object .cloudServer) (actor : Actor) :
  Heeds (Exchange.troubles (some .updating)) (o.syncVolumes actor)
  := by
  apply (o.heeds_volumeChange actor).bind
  rintro ⟨change, desired⟩
  dsimp only
  split
  · apply heeds_pure
  · apply (Request.heeds_succeed _).bind
    intro _
    apply heeds_pure

theorem heeds_attach_of_changed (o : Object .cloudServer) (actor : Actor) (changed : Bool) :
  Heeds (Exchange.troubles (some .updating))
    (if changed then o.attach actor else return o : Attempt _)
  := by
  cases changed
  · apply heeds_pure
  · apply heeds_attach

/-- An update comes to a result, whatever it is answered. -/
theorem stays_update (o : Object K) (actor : Actor) (changed : Bool) :
  Stays (o.update actor changed)
  := by
  cases K with
  | cloudServer =>
    apply (o.heeds_attach_of_changed actor changed).stays.bind
    rintro (cause | o₁)
    · trivial
    apply (o₁.heeds_syncVolumes actor).stays.bind
    rintro (cause | o₂)
    · trivial
    · trivial
  | _ => exact (Request.stays_succeed _).bind fun _ => trivial

/-- An update fails for the troubles on its course. -/
theorem flatMap_troubles_update {o o' : Object K} {actor : Actor} {changed : Bool} {course : Course}
    {result : Except Failure Unit}
    (h : Takes (o.update actor changed) course (some (result, o'))) :
  course.flatMap (Exchange.troubles (some .updating)) = causes result
  := by
  cases K with
  | cloudServer =>
    obtain ⟨-, ⟨⟩⟩ | ⟨attached, first, rest, rfl, attaches, goes⟩ := takes_bind.mp h
    have first_eq := (o.heeds_attach_of_changed actor changed).causes_eq _ _ attaches
    rw [List.flatMap_append, first_eq]
    rcases attached with cause | o₁
    · obtain ⟨rfl, ⟨⟩⟩ := takes_done.mp goes
      rfl
    obtain ⟨-, ⟨⟩⟩ | ⟨synced, second, rest, rfl, syncs, goes⟩ := takes_bind.mp goes
    rw [List.flatMap_append, (o₁.heeds_syncVolumes actor).causes_eq _ _ syncs]
    rcases synced with cause | o₂
    · obtain ⟨rfl, ⟨⟩⟩ := takes_done.mp goes
      rfl
    · obtain ⟨rfl, ⟨⟩⟩ := takes_done.mp goes
      rfl
  | _ =>
    obtain ⟨-, ⟨⟩⟩ | ⟨sent, first, rest, rfl, sends, goes⟩ := takes_bind.mp h
    obtain ⟨rfl, ⟨⟩⟩ := takes_done.mp goes
    rw [List.append_nil]
    exact (Request.heeds_succeed _).causes_eq _ _ sends

end Object

/-! ## The work of the phases -/

/-- The cause for which the work of a phase failed, if the decision is about that. -/
def Decision.causes : Decision → List Failure
  | .fail cause => [cause]
  | _ => []

namespace Work

variable {K : Kind} {o o' : Object K} {actor : Actor} {settings : PassSettings} {now : Instant}
  {course : Course} {decision : Decision}

/-- The work of a phase comes to a decision, unless the object failed. -/
theorem stays_ofPhase (working : phase ≠ some .failed) :
  (ofPhase phase o actor settings now).Stays
  := by
  cases phase with
  | none => trivial
  | some phase =>
    cases phase with
    | creating =>
      apply (o.heeds_create actor).stays.bind
      rintro (cause | created)
      · trivial
      · trivial
    | provisioning =>
      apply (o.heeds_remoteState actor).stays.bind
      rintro (cause | state)
      · trivial
      · trivial
    | created =>
      apply (o.stays_drift? actor).bind
      intro found
      trivial
    | updating =>
      apply (o.stays_update actor _).bind
      intro updated
      trivial
    | deleting =>
      change (delete o actor).Stays
      rw [delete]
      split
      · trivial
      · apply (Request.stays_succeed _).bind
        intro deleted
        trivial
    | failed => cases working rfl

/-- A deletion fails for the complaints about its answer, and none is that there is no resource. -/
theorem causes_ofDeletion (r : Request) (answer : Except String Response) :
  (Decision.ofDeletion ((Request.outcome answer).map fun _ => ())).causes =
    r.complaints (some .deleting) answer
  := by
  rw [Request.complaints]
  rcases Request.outcome answer with cause | body
  · by_cases gone : cause.isNotFound
    · simp [Except.map, Decision.ofDeletion, gone, Decision.causes, causes]
    · simp [Except.map, Decision.ofDeletion, gone, Decision.causes, causes]
  · rfl

/-- The work of a phase fails for the troubles on its course. -/
theorem flatMap_troubles (working : phase ≠ some .failed)
    (h : (ofPhase phase o actor settings now).Takes course (some (decision, o'))) :
  course.flatMap (Exchange.troubles phase) = decision.causes
  := by
  cases phase with
  | none =>
    obtain ⟨rfl, ⟨⟩⟩ := takes_done.mp h
    rfl
  | some phase =>
    cases phase with
    | creating =>
      obtain ⟨cause, creates, rfl, -⟩ | ⟨report, o₁, creates, rfl, -⟩ := takes_create h
      · exact (o.heeds_create actor).causes_eq _ _ creates
      · rw [(o.heeds_create actor).causes_eq _ _ creates, Decision.ofCreated]
        split
        · rfl
        · rfl
    | provisioning =>
      obtain ⟨-, ⟨cause, polls, rfl⟩ | ⟨state, polls, rfl⟩⟩ := takes_poll h
      · exact (o.heeds_remoteState actor).causes_eq _ _ polls
      · rw [(o.heeds_remoteState actor).causes_eq _ _ polls]
        unfold Decision.ofState
        split
        · rfl
        · split
          · rfl
          · split
            · rfl
            · rfl
    | created =>
      obtain ⟨-, found, compares, rfl⟩ := takes_drift? h
      rw [(o.heeds_drift? actor).causes_eq _ _ compares]
      rcases found with cause | _ | drift
      · rfl
      · simp only [Object.decideCreated, Object.decideUnchanged]
        split
        · rfl
        · rfl
      · rfl
    | updating =>
      obtain ⟨result, updates, rfl⟩ := takes_update h
      rw [Object.flatMap_troubles_update updates]
      rcases result with cause | _
      · rfl
      · rfl
    | deleting =>
      change (delete o actor).Takes course _ at h
      rw [delete] at h
      split at h
      · obtain ⟨rfl, ⟨⟩⟩ := takes_done.mp h
        rfl
      · obtain ⟨-, ⟨⟩⟩ | ⟨result, first, second, rfl, deletes, goes⟩ := takes_bind.mp h
        obtain ⟨rfl, ⟨⟩⟩ := takes_done.mp goes
        obtain ⟨answer, -, same, rfl⟩ := Request.flatMap_troubles_succeed deletes
        rw [List.append_nil, same, causes_ofDeletion]
    | failed => cases working rfl

end Work

end CloudOperator
