import CloudOperator.Proofs.DataVolumes
import CloudOperator.Proofs.Deletion

/-!
# Converged objects

An object that was created, or that failed, is left alone as long as nothing changes: it is to
be kept, its generation was taken note of, and a server lists the data volumes that its
references lead to (`Object.IsConverged`).  A turn over such an object has nothing to do, and an
update that succeeds leads to such an object (`Run.converged_left_alone`).

The comparison and the update of a server look its references up separately, each with its own
repetitions and in its own order.  They agree since both ask for a change only where the sets
differ (`VolumeChange.isNone_between`), and the update records the set that it found.
-/

namespace CloudOperator

open Program

variable {K : Kind} {ns name : String} {course : Course}

/-! ## Looking references up -/

/-- The identifier of the remote resource that an object is found to have. -/
def Operation.foundID? : Except StoreFailure (Option (Object K)) → Option String
  | .ok (some o) => if o.resourceID = "" then none else some o.resourceID
  | _ => none

namespace Reference

variable {r : Reference} {rs : List Reference}

/-- A reference is resolved by one answer. -/
theorem takes_resolve {result? : Option (Except Failure String)}
    (h : Takes (r.resolve ns K) course result?) :
  course = [] ∧ result? = none ∨
    ∃ answer result, course = [⟨.load K (r.namespaceOr ns) r.name, answer⟩] ∧
      result? = some result ∧ result.toOption = Operation.foundID? answer
  := by
  obtain ⟨rfl, rfl⟩ | ⟨answer, rest, rfl, goes⟩ := takes_attempt_ask.mp h
  · exact .inl ⟨rfl, rfl⟩
  right
  rcases answer with cause | _ | o
  · obtain ⟨rfl, rfl⟩ := takes_attempt_throw.mp goes
    exact ⟨_, _, rfl, rfl, rfl⟩
  · obtain ⟨rfl, rfl⟩ := takes_attempt_throw.mp goes
    exact ⟨_, _, rfl, rfl, rfl⟩
  · dsimp only at goes
    split at goes
    · obtain ⟨rfl, rfl⟩ := takes_attempt_throw.mp goes
      exact ⟨_, _, rfl, rfl, (if_pos ‹_›).symm⟩
    · obtain ⟨rfl, rfl⟩ := takes_attempt_pure.mp goes
      exact ⟨_, _, rfl, rfl, (if_neg ‹_›).symm⟩

theorem stays_resolve (ns : String) (K : Kind) (r : Reference) :
  Stays (r.resolve ns K)
  := by
  rintro (cause | _ | o)
  · trivial
  · trivial
  · change Stays (if o.resourceID = "" then _ else _)
    split
    · trivial
    · trivial

/-- References are looked up one after the other, until one leads nowhere. -/
theorem takes_resolveAll_cons {result : Except Failure (List String)}
    (h : Takes (resolveAll ns K (r :: rs)) course (some result)) :
  ∃ answer rest, course = ⟨.load K (r.namespaceOr ns) r.name, answer⟩ :: rest ∧
    (Operation.foundID? answer = none ∧ (∃ cause, result = .error cause) ∨
      ∃ id others, Operation.foundID? answer = some id ∧
        Takes (resolveAll ns K rs) rest (some others) ∧ result = others.map (id :: ·))
  := by
  rw [resolveAll, List.mapM_cons] at h
  obtain ⟨-, ⟨⟩⟩ | ⟨cause, fails, ⟨⟩⟩ | ⟨id, first, rest, rfl, resolves, goes⟩ :=
    takes_attempt_bind.mp h
  · obtain ⟨-, ⟨⟩⟩ | ⟨answer, _, rfl, ⟨⟩, found⟩ := takes_resolve fails
    exact ⟨answer, [], rfl, .inl ⟨found.symm, cause, rfl⟩⟩
  · obtain ⟨-, ⟨⟩⟩ | ⟨answer, _, rfl, ⟨⟩, found⟩ := takes_resolve resolves
    obtain ⟨others, resolves, rfl⟩ := takes_attempt_map goes
    exact ⟨answer, rest, rfl, .inr ⟨id, others, found.symm, resolves, rfl⟩⟩

/-- References are resolved to what they are found to lead to. -/
theorem takes_resolveAll_of_found {found : Reference → String}
    {result : Except Failure (List String)}
    (h : Takes (resolveAll ns K rs) course (some result))
    (told : ∀ r ∈ rs, ∀ answer, ⟨.load K (r.namespaceOr ns) r.name, answer⟩ ∈ course →
      Operation.foundID? answer = some (found r)) :
  result = .ok (rs.map found)
  := by
  induction rs generalizing course result with
  | nil =>
    obtain ⟨-, ⟨⟩⟩ := takes_attempt_pure.mp h
    rfl
  | cons r rs ih =>
    obtain ⟨first, later⟩ := List.forall_mem_cons.mp told
    obtain ⟨answer, rest, rfl, ⟨lost, -⟩ | ⟨id, others, leads, resolves, rfl⟩⟩ :=
      takes_resolveAll_cons h
    · cases lost.symm.trans (first answer (by simp))
    · obtain rfl := Option.some.inj (leads.symm.trans (first answer (by simp)))
      obtain rfl := ih resolves fun r among answer found => later r among answer (by simp [found])
      rfl

end Reference

/-- A block storage is looked up: where that is done, and the identifier that is found. -/
structure VolumeRead where
  ns : String
  name : String
  id? : Option String

/-- Where a reference of an object is looked up, and the identifier that it leads to. -/
def Reference.leadsTo (ns : String) (r : Reference) (id : String) : VolumeRead :=
  ⟨r.namespaceOr ns, r.name, some id⟩

/-- No block storage is looked up. -/
def Operation.SparesVolumes : Operation → Prop
  | load .blockStorage _ _ => False
  | _ => True

theorem Operation.sparesVolumes_of_isLocal {operation : Operation} (isLocal : operation.isLocal) :
  operation.SparesVolumes
  := by
  cases operation with
  | load K ns name => cases isLocal
  | _ => trivial

theorem Operation.sparesVolumes_of_isAccess {operation : Operation}
    (accesses : operation.isAccess) :
  operation.SparesVolumes
  := by
  cases operation with
  | load K ns name => cases accesses
  | _ => trivial

/-- None of the attachments of a server is a volume. -/
theorem Operation.sparesVolumes_of_attachment {s : CloudServerSpec} (operation : Operation)
    (h : operation.Resolves ns (Kind.attachmentReferences s)) :
  operation.SparesVolumes
  := by
  obtain ⟨r, found, rfl⟩ := h
  simp only [Kind.attachmentReferences, List.mem_append, List.mem_map] at found
  obtain (⟨_, -, rfl⟩ | ⟨_, -, rfl⟩) | ⟨_, -, rfl⟩ := found
  · trivial
  · trivial
  · trivial

/-- What is looked up among the block storages. -/
def Exchange.volumeRead? : Exchange Operation.Answer → Option VolumeRead
  | ⟨.load .blockStorage ns name, answer⟩ => some ⟨ns, name, Operation.foundID? answer⟩
  | _ => none

theorem Exchange.filterMap_volumeRead?
    (unread : ∀ exchange ∈ course, exchange.question.SparesVolumes) :
  course.filterMap volumeRead? = []
  := by
  apply List.filterMap_eq_nil_iff.mpr
  rintro ⟨question, answer⟩ found
  have spares := unread _ found
  cases question with
  | load K ns name =>
    cases K with
    | blockStorage => cases spares
    | _ => rfl
  | _ => rfl

/-- References to data volumes are resolved by looking each up in order. -/
theorem Reference.reads_resolveAll {rs : List Reference} {ids : List String}
    (h : Takes (resolveAll ns .blockStorage rs) course (some (.ok ids))) :
  ids.length = rs.length ∧
    course.filterMap Exchange.volumeRead? = List.zipWith (leadsTo ns) rs ids
  := by
  induction rs generalizing course ids with
  | nil =>
    obtain ⟨rfl, ⟨⟩⟩ := takes_attempt_pure.mp h
    exact ⟨rfl, rfl⟩
  | cons r rs ih =>
    obtain ⟨answer, rest, rfl, ⟨-, cause, ⟨⟩⟩ | ⟨id, others, leads, resolves, same⟩⟩ :=
      takes_resolveAll_cons h
    rcases others with cause | others
    · cases same
    obtain rfl := Except.ok.inj same
    obtain ⟨length, reads⟩ := ih resolves
    refine ⟨congrArg (· + 1) length, ?_⟩
    rw [List.filterMap_cons, reads, Exchange.volumeRead?, leads]
    rfl

/-! ## Volumes that are listed -/

namespace Object

/-- The references of an object to data volumes; only a server has any. -/
def volumeReferences : {K : Kind} → Object K → List Reference
  | .cloudServer, o => CloudServerSpec.dataVolumes o.spec
  | _, _ => []

/-- The data volumes that the status of an object lists; only a server has any. -/
def listedVolumes : {K : Kind} → Object K → List String
  | .cloudServer, o => o.dataVolumes
  | _, _ => []

theorem listedVolumes_congr {o o' : Object K} (h : o.status = o'.status) :
  o.listedVolumes = o'.listedVolumes
  := by
  cases K with
  | cloudServer => exact dataVolumes_congr h
  | _ => rfl

theorem listedVolumes_moved (o : Object K) (move : Move) (now : Instant) :
  (o.moved move now).listedVolumes = o.listedVolumes
  := by
  cases K <;> rfl

/-- An object that is as it should be: it is to be kept, its generation was taken note of, and it
failed, or it was created and lists the data volumes with the given identifiers. -/
structure IsConverged (o : Object K) (ids : List String) : Prop where
  kept : ¬ o.isDeletionRequested
  observed : o.observedGeneration = o.generation
  settled : o.phase = some .failed ∨
    o.phase = some .created ∧ ∀ id, id ∈ o.listedVolumes ↔ id ∈ ids

/-- On a course the references of an object to data volumes lead to the given identifiers
wherever they are looked up. -/
def Resolves (o : Object K) (ns : String) (ids : List String) (course : Course) : Prop :=
  ∃ found : Reference → String,
    (∀ r ∈ o.volumeReferences, ∀ answer,
      ⟨.load .blockStorage (r.namespaceOr ns) r.name, answer⟩ ∈ course →
        Operation.foundID? answer = some (found r)) ∧
    ∀ id, id ∈ ids ↔ ∃ r ∈ o.volumeReferences, found r = id

variable {o o' : Object K} {actor : Actor} {ids : List String}

theorem stays_drift? (o : Object K) (actor : Actor) :
  Stays (o.drift? actor)
  := by
  cases K with
  | cloudServer =>
    apply stays_attempt_bind
    · apply stays_attempt_bind
      · apply stays_attempt_bind
        · apply stays_attempt_mapM (Reference.stays_resolve actor.ns .blockStorage)
        intro ids
        trivial
      intro desired
      trivial
    intro change
    trivial
  | _ => trivial

/-- What has to change in the data volumes of a server is what its references, each looked up
once more, lead to in place of what it lists. -/
theorem takes_volumeChange {o : Object .cloudServer}
    {result : Except Failure (VolumeChange × List String)}
    (h : Takes (o.volumeChange actor) course (some result)) :
  ∃ resolved, Takes (Reference.resolveAll actor.ns .blockStorage o.volumeReferences) course
      (some resolved) ∧
    result = resolved.map fun ids => (.between ids.eraseDups o.dataVolumes, ids.eraseDups)
  := by
  obtain ⟨desired, finds, rfl⟩ := takes_attempt_map h
  obtain ⟨resolved, resolves, rfl⟩ := takes_attempt_map finds
  refine ⟨resolved, resolves, ?_⟩
  cases resolved <;> rfl

/-- The comparison of a server finds no drift where the data volumes that it lists are those that
its references lead to. -/
theorem drift?_of_resolves {result : Except Failure (Option Drift)}
    (h : Takes (o.drift? actor) course (some result)) (resolves : o.Resolves actor.ns ids course)
    (listed : ∀ id, id ∈ o.listedVolumes ↔ id ∈ ids) :
  result = .ok none
  := by
  cases K with
  | cloudServer =>
    obtain ⟨found, told, leads⟩ := resolves
    obtain ⟨change, compares, rfl⟩ := takes_attempt_map h
    obtain ⟨resolved, looksUp, rfl⟩ := takes_volumeChange compares
    obtain rfl := Reference.takes_resolveAll_of_found looksUp told
    have same : (VolumeChange.between (o.volumeReferences.map found).eraseDups
        o.dataVolumes).isNone := by
      rw [VolumeChange.isNone_between]
      intro id
      rw [List.mem_eraseDups, List.mem_map, ← leads id]
      apply listed
    exact congrArg Except.ok (if_pos same)
  | _ =>
    obtain ⟨-, ⟨⟩⟩ := takes_attempt_pure.mp h
    rfl

theorem Resolves.of_subset {course' : Course} (h : o.Resolves ns ids course)
    (among : ∀ exchange ∈ course', exchange ∈ course) :
  o.Resolves ns ids course'
  := by
  obtain ⟨found, told, leads⟩ := h
  exact ⟨found, fun r referred answer asked => told r referred answer (among _ asked), leads⟩

/-! ## What an update lists -/

/-- On a course the references of an object to data volumes are looked up, each once and in order,
and lead to the given identifiers. -/
def ReadsVolumes (o : Object K) (ns : String) (ids : List String) (course : Course) : Prop :=
  ids.length = o.volumeReferences.length ∧
    course.filterMap Exchange.volumeRead?
      = List.zipWith (Reference.leadsTo ns) o.volumeReferences ids

theorem ReadsVolumes.amidst (h : o.ReadsVolumes ns ids course) {first rest : Course}
    (unread : ∀ exchange ∈ first, exchange.question.SparesVolumes)
    (unread' : ∀ exchange ∈ rest, exchange.question.SparesVolumes) :
  o.ReadsVolumes ns ids (first ++ (course ++ rest))
  := by
  refine ⟨h.1, ?_⟩
  rw [List.filterMap_append, List.filterMap_append, Exchange.filterMap_volumeRead? unread,
    Exchange.filterMap_volumeRead? unread', List.nil_append, List.append_nil, h.2]

/-- The data volumes of a server are brought in line with those that its references lead to. -/
theorem reads_syncVolumes {o o' : Object .cloudServer}
    (h : Takes (o.syncVolumes actor) course (some (.ok o'))) :
  ∃ ids, o.ReadsVolumes actor.ns ids course ∧ ∀ id, id ∈ o'.dataVolumes ↔ id ∈ ids
  := by
  obtain ⟨⟨change, desired⟩, first, second, rfl, compares, goes⟩ := takes_attempt_bind_ok h
  obtain ⟨cause | ids, looksUp, same⟩ := takes_volumeChange compares
  · cases same
  obtain ⟨rfl, rfl⟩ := Prod.mk.inj (Except.ok.inj same)
  have reads := Reference.reads_resolveAll looksUp
  dsimp only at goes
  split at goes
  · obtain ⟨rfl, ⟨⟩⟩ := takes_attempt_pure.mp goes
    refine ⟨ids, by rwa [List.append_nil], fun id => ?_⟩
    rw [VolumeChange.isNone_between.mp ‹_› id, List.mem_eraseDups]
  · obtain ⟨_, third, fourth, rfl, succeeds, returns⟩ := takes_attempt_bind_ok goes
    obtain ⟨rfl, ⟨⟩⟩ := takes_attempt_pure.mp returns
    have unread : ∀ exchange ∈ third, exchange.question.SparesVolumes :=
      succeeds.asked (Request.asks_succeed_of trivial fun _ _ => trivial)
    rw [List.append_nil]
    have reads : o.ReadsVolumes actor.ns ids first := reads
    refine ⟨ids, reads.amidst (List.forall_mem_nil _) unread, fun id => ?_⟩
    rw [dataVolumes_recordLinks, List.mem_eraseDups]

/-- The attachments of a server are recorded without a look at its data volumes. -/
theorem unread_attach {changed : Bool} {o o₁ : Object .cloudServer}
    (h : Takes (if changed then o.attach actor else return o : Attempt _) course (some (.ok o₁))) :
  (∀ exchange ∈ course, exchange.question.SparesVolumes) ∧ o₁.spec = o.spec
  := by
  have attached : o.Attached o₁ := h.ends (o.ends_attach_of_changed ..)
  refine ⟨?_, attached.spec⟩
  cases changed with
  | false =>
    obtain ⟨rfl, -⟩ := takes_done.mp h
    exact List.forall_mem_nil _
  | true =>
    have asks : Asks Operation.SparesVolumes (o.attach actor) :=
      asks_attach_of ⟨Operation.sparesVolumes_of_attachment, fun _ _ => trivial⟩ fun _ => trivial
    exact h.asked asks

/-- An update of a server that succeeds lists the data volumes that its references lead to. -/
theorem reads_update {changed : Bool} {o o' : Object .cloudServer}
    (h : Takes (o.update actor changed) course (some (.ok (), o'))) :
  ∃ ids, o.ReadsVolumes actor.ns ids course ∧ ∀ id, id ∈ o'.dataVolumes ↔ id ∈ ids
  := by
  obtain ⟨-, ⟨⟩⟩ | ⟨attached, first, second, rfl, attaches, goes⟩ := takes_bind.mp h
  rcases attached with cause | o₁
  · cases goes
  obtain ⟨unread, spec⟩ := unread_attach attaches
  obtain ⟨-, ⟨⟩⟩ | ⟨synced, third, fourth, rfl, syncs, returns⟩ := takes_bind.mp goes
  rcases synced with cause | o₂
  · cases returns
  obtain ⟨rfl, ⟨⟩⟩ := takes_done.mp returns
  obtain ⟨ids, reads, listed⟩ := reads_syncVolumes syncs
  have references : o₁.volumeReferences = o.volumeReferences :=
    congrArg CloudServerSpec.dataVolumes spec
  rw [ReadsVolumes, references] at reads
  exact ⟨ids, ReadsVolumes.amidst reads unread (by simp), listed⟩

end Object

/-! ## Turns over converged objects -/

variable {ids : List String}

theorem Object.IsConverged.unpreempted {o : Object K} (h : o.IsConverged ids)
    (settings : PassSettings) (now : Instant) :
  o.preempting? settings now = none
  := by
  obtain failed | ⟨created, -⟩ := h.settled
  · simp [preempting?, isOverdue, isToBeDeleted, failed, Phase.isTransitioning]
  · apply unpreempted_of_created created h.kept

theorem Object.IsConverged.generationChanged {o : Object K} (h : o.IsConverged ids) :
  o.generationChanged = false
  := by
  simp [Object.generationChanged, h.observed]

/-- What follows the authentication for a converged object asks nothing but what its references
lead to, and does nothing. -/
theorem Task.takes_proceed_of_converged {t : Task K} {settings : PassSettings} {actor : Actor}
    {now : Instant} {result? : Option (Outcome K)} (converged : t.object.IsConverged ids)
    (resolves : t.object.phase = some .created → t.object.Resolves actor.ns ids course)
    (h : (t.proceed settings actor now).Takes course result?) :
  (∀ exchange ∈ course, exchange.question.isQuiet) ∧
    ((t.proceed settings actor now).Awaits course ∨ result? = some (.ok .done, t))
  := by
  rw [proceed_of_unpreempted (converged.unpreempted settings now)] at h ⊢
  obtain failed | ⟨created, listed⟩ := converged.settled
  · have rests : t.object.decideFailed? settings.requeueInterval now = some .rest := by
      simp [Object.decideFailed?, converged.kept, converged.generationChanged]
    rw [failed, Work.ofPhase, rests] at h
    obtain ⟨rfl, rfl⟩ := takes_done.mp h
    exact ⟨by simp, .inr rfl⟩
  · rw [created] at h ⊢
    have quiet {work : Course} {result? : Option (Decision × Object K)}
        (compares : (Work.compare t.object actor).Takes work result?) :
        ∀ exchange ∈ work, exchange.question.isQuiet :=
      compares.asked ((Work.asks_compare t.object actor).mono fun _ =>
        Operation.isQuiet_of_isLoad)
    obtain ⟨waits, rfl⟩ | ⟨⟨decision, o⟩, work, carried, rfl, compares, carries⟩ :=
      takes_bind.mp h
    · have stays : (Work.compare t.object actor).Stays :=
        (t.object.stays_drift? actor).bind fun _ => trivial
      exact ⟨quiet waits, .inl (stays.awaits waits).bind⟩
    · obtain ⟨rfl, found, finds, rfl⟩ := Work.takes_drift? compares
      have among : t.object.Resolves actor.ns ids work :=
        (resolves created).of_subset fun _ => List.mem_append_left carried
      obtain rfl := Object.drift?_of_resolves finds among listed
      rw [Object.decideCreated, Object.decideUnchanged, converged.generationChanged] at carries
      obtain ⟨rfl, rfl⟩ := takes_done.mp carries
      rw [List.append_nil]
      exact ⟨quiet compares, .inr rfl⟩

namespace Turn

variable {t : Turn K}

/-- The turn sends nothing to the remote API and writes nothing; where it reaches the object and
is not given up, it is done. -/
def Rests (t : Turn K) (ns name : String) : Prop :=
  (∀ exchange ∈ t.course, exchange.question.isQuiet) ∧
    ∀ actor rest, t.Reaches ns name actor rest →
      t.GivenUp ns name ∨ ∃ memory, t.result? = some (.ok .done, memory)

theorem Rests.after (h : t.Rests ns name) :
  t.after = t.stored
  := Object.after_of_isQuiet t.stored h.1

/-- A turn over a converged object has nothing to do. -/
theorem Goes.rests (h : t.Goes ns name) (converged : t.stored.IsConverged ids)
    (resolves : t.stored.phase = some .created → t.stored.Resolves ns ids t.course) :
  t.Rests ns name
  := by
  have proceeds {actor : Actor} {rest : Course} (reaches : t.Reaches ns name actor rest) :
      (∀ exchange ∈ rest, exchange.question.isQuiet) ∧
        (t.GivenUp ns name ∨ ∃ memory, t.result? = some (.ok .done, memory)) := by
    obtain ⟨tokens, result?, takes, ends, waits⟩ := h.proceeds reaches
    obtain ⟨opening, course, -⟩ := isQuiet_of_reaches reaches
    obtain ⟨quiet, gives | rfl⟩ := Task.takes_proceed_of_converged converged (fun created => by
      rw [reaches.1]
      apply (resolves created).of_subset
      rw [course]
      exact fun _ => List.mem_append_right opening) takes
    · exact ⟨quiet, .inl (waits gives)⟩
    · exact ⟨quiet, .inr ⟨_, ends⟩⟩
  refine ⟨?_, fun actor rest reaches => (proceeds reaches).2⟩
  obtain ⟨quiet, -⟩ | ⟨actor, rest, reaches⟩ := h.quiet_or_reaches
  · apply quiet
  · obtain ⟨opening, course, quiet⟩ := isQuiet_of_reaches reaches
    rw [course]
    exact List.forall_mem_append.mpr ⟨quiet, (proceeds reaches).1⟩

/-! ## Turns that update -/

/-- A turn over a server looks up its data volumes in the work of the phase. -/
theorem Works.readsVolumes {t : Turn .cloudServer} {actor : Actor} {work carried : Course}
    {decision : Decision} {o : Object .cloudServer}
    (works : t.Works ns name actor work carried decision o)
    (reads : t.stored.ReadsVolumes ns ids work) :
  t.stored.ReadsVolumes ns ids t.course
  := by
  obtain ⟨-, tokens, opening, course, authenticates⟩ := works.reaches
  have opened := authenticates.asked (TokenCache.asks_authenticate_of
    (fun _ => Operation.sparesVolumes_of_isAccess) trivial (fun _ => trivial) ..)
  obtain ⟨result?, carries⟩ := works.carries
  have unread := carries.asked ((Task.asks_carryOut ..).mono fun _ =>
    Operation.sparesVolumes_of_isLocal)
  rw [course, ← List.cons_append]
  apply reads.amidst _ unread
  exact List.forall_mem_cons.mpr ⟨trivial, opened⟩

/-- A turn that takes an object from its update to where it is created leaves it converged. -/
theorem Goes.converges (h : t.Goes ns name) (updating : t.stored.phase = some .updating)
    (stores : t.StoresStatus) (created : t.after.phase = some .created) :
  ∃ ids, (K = .cloudServer → t.stored.ReadsVolumes ns ids t.course) ∧ t.after.IsConverged ids
  := by
  obtain ⟨unstored, -⟩ | ⟨-, o, move, moves, after⟩ := h.status
  · cases unstored stores
  obtain ⟨phase, observed⟩ := moves.shows after
  have keeps := moves.keeps
  have creates : move.phase = .created := Option.some.inj (phase.symm.trans created)
  rw [updating, creates, if_pos ⟨by decide, rfl⟩] at observed
  cases moves with
  | preempts preempts =>
    obtain deleting | failed := Object.phase_of_preempting preempts.preempting
    · cases creates.symm.trans deleting
    · cases creates.symm.trans failed
  | works works leads makes =>
    have does := works.works
    rw [updating] at does
    obtain ⟨result, updates, rfl⟩ := Work.takes_update does
    rcases result with cause | _
    · obtain rfl := Option.some.inj makes
      rw [keeps.phase, updating, Option.getD_some] at creates
      obtain same | failed := Move.phase_ofFailure .updating cause
      · cases creates.symm.trans same
      · cases creates.symm.trans failed
    obtain rfl := Option.some.inj makes
    have kept : ¬ t.after.isDeletionRequested := by
      rw [Turn.after, Object.isDeletionRequested_after]
      intro requested
      obtain deleting | failed := Object.phase_of_unpreempted requested works.unpreempted
      · cases updating.symm.trans deleting
      · cases updating.symm.trans failed
    have converged {ids : List String} (listed : ∀ id, id ∈ o.listedVolumes ↔ id ∈ ids) :
        t.after.IsConverged ids := by
      refine ⟨kept, observed.trans t.generation_after.symm, .inr ⟨created, ?_⟩⟩
      rw [Object.listedVolumes_congr after, Object.listedVolumes_moved]
      apply listed
    cases K with
    | cloudServer =>
      obtain ⟨ids, reads, listed⟩ := Object.reads_update updates
      rw [works.reaches.1] at reads
      exact ⟨ids, fun _ => works.readsVolumes reads, converged listed⟩
    | _ => exact ⟨[], by simp, converged fun _ => Iff.rfl⟩

end Turn

/-! ## Runs -/

/-- An edit that leaves the status, the generation, which counts the changes of the specification,
and whether the object is to be deleted. -/
structure Object.Undisturbed (o o' : Object K) : Prop where
  status : o'.status = o.status
  generation : o'.generation = o.generation
  requested : o'.isDeletionRequested = o.isDeletionRequested

theorem Object.IsConverged.edited {o o' : Object K} (h : o.IsConverged ids)
    (edit : o.Undisturbed o') :
  o'.IsConverged ids
  where
  kept := by
    rw [edit.requested]
    apply h.kept
  observed := by
    rw [observedGeneration_congr edit.status, edit.generation]
    apply h.observed
  settled := by
    rw [phase_congr edit.status, listedVolumes_congr edit.status]
    apply h.settled

namespace Run

variable {initial o : Object K} {turns : List (Turn K)}

/-- A run leaves a converged object as it is, as long as its references lead to the same data
volumes. -/
theorem rests (run : Run Object.Undisturbed ns name initial turns o)
    (converged : initial.IsConverged ids)
    (resolves : ∀ t ∈ turns, t.stored.phase = some .created →
      t.stored.Resolves ns ids t.course) :
  o.IsConverged ids ∧ o.status = initial.status ∧ ∀ t ∈ turns, t.Rests ns name
  := by
  induction run with
  | start => exact ⟨converged, rfl, by simp⟩
  | edited run edit ih =>
    obtain ⟨converged, same, rests⟩ := ih resolves
    exact ⟨converged.edited edit, edit.status.trans same, rests⟩
  | @turned turns t run goes ih =>
    obtain ⟨last, earlier⟩ := List.forall_mem_cons.mp resolves
    obtain ⟨converged, same, rests⟩ := ih earlier
    have rests_last := goes.rests converged last
    rw [rests_last.after]
    exact ⟨converged, same, List.forall_mem_cons.mpr ⟨rests_last, rests⟩⟩

/-- The turns over a converged object send nothing, write nothing and are done, however many
there are and whenever they come, and leave its status; and an update that succeeds leads to an
object that is converged with the data volumes that its references were found to lead to. -/
theorem converged_left_alone (K : Kind) (ns name : String) :
  (∀ ids initial turns (o : Object K), Run Object.Undisturbed ns name initial turns o →
    initial.IsConverged ids →
    (∀ t ∈ turns, t.stored.phase = some .created → t.stored.Resolves ns ids t.course) →
      o.status = initial.status ∧ ∀ t ∈ turns, t.Rests ns name) ∧
  ∀ t : Turn K, t.Goes ns name → t.stored.phase = some .updating → t.StoresStatus →
    t.after.phase = some .created →
      ∃ ids, (K = .cloudServer → t.stored.ReadsVolumes ns ids t.course) ∧
        t.after.IsConverged ids
  := by
  constructor
  · intro ids initial turns o run converged resolves
    exact (run.rests converged resolves).2
  · intro t goes updating stores created
    apply goes.converges updating stores created

namespace WebServer

/-- The server is looked at once its data volume is attached. -/
def idling : Turn .cloudServer :=
  turn 40 attaching.after (some (volume "vol-1"))

theorem run_idling :
  Run Object.Undisturbed "shop" "web" attaching.after [idling] idling.after
  := by
  apply turned (t := idling) _ (goes_turn ..)
  apply start

theorem resolves_idling :
  idling.stored.Resolves "shop" ["vol-1"] idling.course
  := by
  refine ⟨fun _ => "vol-1", ?_, ?_⟩
  · intro r referred answer asked
    obtain ⟨s, rfl⟩ := exists_state_of_mem_courseIn _ asked
    obtain rfl : r = ⟨"data", none⟩ := List.mem_singleton.mp referred
    rfl
  · intro id
    have references : idling.stored.volumeReferences = [⟨"data", none⟩] := rfl
    simp [references, eq_comm]

theorem updated :
  attaching.stored.phase = some .updating ∧ attaching.StoresStatus ∧
    attaching.after.phase = some .created
  := by
  decide +kernel

theorem converged :
  attaching.after.IsConverged ["vol-1"]
  where
  kept := by decide +kernel
  observed := by decide +kernel
  settled := by
    have listed : attaching.after.listedVolumes = ["vol-1"] := by
      decide +kernel
    exact .inr ⟨updated.2.2, fun id => by rw [listed]⟩

end WebServer

/-- The data volume of a server is attached, and then the server is left alone. -/
theorem converged_left_alone_web :
  (∃ ids, WebServer.attaching.stored.ReadsVolumes "shop" ids WebServer.attaching.course ∧
      WebServer.attaching.after.IsConverged ids) ∧
    WebServer.idling.Rests "shop" "web"
  := by
  obtain ⟨rests, converges⟩ := converged_left_alone .cloudServer "shop" "web"
  obtain ⟨updating, stores, created⟩ := WebServer.updated
  obtain ⟨ids, reads, converged⟩ :=
    converges WebServer.attaching (WebServer.goes_turn ..) updating stores created
  obtain ⟨-, all⟩ := rests ["vol-1"] _ _ _ WebServer.run_idling WebServer.converged (by
    simp [WebServer.resolves_idling])
  exact ⟨⟨ids, reads rfl, converged⟩, all _ List.mem_cons_self⟩

end Run

end CloudOperator
