import CloudOperator.Proofs.DataVolumes
import CloudOperator.Proofs.Tenancy

/-!
# Effects of a turn

Whatever a turn does outside of itself is a request to the remote API or a write of its
object.  A turn sends its requests before it writes: at most one request, or at most one
update of a server and one change of its data volumes; then it writes the finalizers at
most once, and the status at most once (`Turn.Goes.effects_bounded`).

* `Program.SendsOnce` bounds the requests of a program, `Work.requests_ofPhase` those of
  the work of each phase.
* `Task.effects_carryOut` bounds the writes.
* `Turn.HoldsBack` tells where a turn sends nothing.
* `Turn.Performs` lists what a turn asks for, also where it is left without an answer.
-/

namespace CloudOperator

open Program

variable {K : Kind} {ns name : String}

/-! ## Effects -/

namespace Operation

/-- Whether something is sent to the remote API, or an object is written. -/
def isEffect (operation : Operation) : Bool :=
  operation.isSend || operation.isWrite

/-- The request that is sent. -/
def request? : Operation → Option Request
  | send request => some request
  | _ => none

theorem isEffect_of_isQuiet {operation : Operation} (quiet : operation.isQuiet) :
  operation.isEffect = false
  := by
  rw [isEffect, quiet.1, quiet.2, Bool.or_self]

theorem request?_of_unsent {operation : Operation} (unsent : operation.isSend = false) :
  operation.request? = none
  := by
  cases operation with
  | send request => cases unsent
  | _ => rfl

end Operation

namespace Course

/-- What is asked on a course. -/
def questions (course : Course) : List Operation :=
  course.map (·.question)

/-- The effects of a course, in order. -/
def effects (course : Course) : List Operation :=
  (questions course).filter Operation.isEffect

/-- The requests that are sent on a course, in order. -/
def requests (course : Course) : List Request :=
  (questions course).filterMap Operation.request?

variable {course first second : Course}

@[simp]
theorem effects_append :
  effects (first ++ second) = effects first ++ effects second
  := by
  simp [effects, questions]

@[simp]
theorem requests_append :
  requests (first ++ second) = requests first ++ requests second
  := by
  simp [requests, questions]

/-- A course on which nothing is sent or written has no effects. -/
theorem effects_of_isQuiet (quiet : ∀ exchange ∈ course, exchange.question.isQuiet) :
  effects course = []
  := by
  apply List.filter_eq_nil_iff.mpr
  rintro _ asked
  obtain ⟨exchange, found, rfl⟩ := List.mem_map.mp asked
  simp [Operation.isEffect_of_isQuiet (quiet exchange found)]

/-- A course on which nothing is sent has no requests. -/
theorem requests_of_unsent (unsent : ∀ exchange ∈ course, exchange.question.isSend = false) :
  requests course = []
  := by
  apply List.filterMap_eq_nil_iff.mpr
  rintro _ asked
  obtain ⟨exchange, found, rfl⟩ := List.mem_map.mp asked
  exact Operation.request?_of_unsent (unsent exchange found)

/-- A course without writes has no effects but its requests. -/
theorem effects_of_unwritten (unwritten : ∀ exchange ∈ course, exchange.question.isWrite = false) :
  effects course = (requests course).map .send
  := by
  induction course with
  | nil => rfl
  | cons exchange course ih =>
    obtain ⟨first, rest⟩ := List.forall_mem_cons.mp unwritten
    have later := ih rest
    obtain ⟨question, answer⟩ := exchange
    cases question with
    | writeStatus K o | writeFinalizers K o => cases first
    | send request => exact congrArg (_ :: ·) later
    | load | readSecret | logIn | count => exact later

theorem mem_requests {request : Request} {answer : Except String Response}
    (found : ⟨.send request, answer⟩ ∈ course) :
  request ∈ requests course
  := List.mem_filterMap.mpr ⟨_, List.mem_map_of_mem found, rfl⟩

/-- The requests are among the effects. -/
theorem filterMap_effects (course : Course) :
  (effects course).filterMap Operation.request? = requests course
  := by
  rw [effects, List.filterMap_filter, requests]
  apply List.filterMap_congr
  intro operation _
  cases operation with
  | send request => rfl
  | _ => exact ite_self none

/-- A request that is sent is sent at an exchange of the course. -/
theorem exists_of_mem_requests {request : Request} (sent : request ∈ requests course) :
  ∃ exchange ∈ course, exchange.question = .send request
  := by
  obtain ⟨operation, asked, same⟩ := List.mem_filterMap.mp sent
  obtain ⟨exchange, found, rfl⟩ := List.mem_map.mp asked
  refine ⟨exchange, found, ?_⟩
  cases question : exchange.question with
  | send request' =>
    rw [question] at same
    rw [Option.some.inj same]
  | _ =>
    rw [question] at same
    cases same

end Course

open Course

/-- The method and the path of a request. -/
def Request.call (r : Request) : Method × String :=
  (r.method, r.path)

/-! ## Requests of programs -/

namespace Program

/-- A program sends at most one request, also where it is given up. -/
def SendsOnce {α : Type} (program : Pass α) : Prop :=
  ∀ course result?, program.Takes course result? → (requests course).length ≤ 1

variable {α β : Type}

/-- A program that may not send has no requests on its courses. -/
theorem requests_of_asks {program : Pass α} (unsent : program.Asks (·.isSend = false))
    {course : Course} {result? : Option α} (h : program.Takes course result?) :
  requests course = []
  := requests_of_unsent (h.asked unsent)

theorem sendsOnce_of_asks {program : Pass α} (unsent : program.Asks (·.isSend = false)) :
  program.SendsOnce
  := by
  intro course result? h
  rw [requests_of_asks unsent h]
  exact Nat.zero_le 1

/-- A program that asks nothing of the remote API after its first question. -/
theorem sendsOnce_attempt_ask {operation : Operation} {next : operation.Answer → Attempt α}
    (unsent : ∀ answer, Asks (·.isSend = false) (next answer)) :
  SendsOnce (liftM (Program.question operation) >>= next : Attempt α)
  := by
  intro course result? h
  obtain ⟨rfl, -⟩ | ⟨answer, course, rfl, goes⟩ := takes_attempt_ask.mp h
  · exact Nat.zero_le 1
  · rw [← List.singleton_append, requests_append, requests_of_asks (unsent answer) goes,
      List.append_nil]
    apply List.length_filterMap_le

/-- What follows a program that sends nothing sends at most one request. -/
theorem sendsOnce_bind_of_asks {program : Pass α} {f : α → Pass β}
    (unsent : program.Asks (·.isSend = false)) (second : ∀ result, (f result).SendsOnce) :
  (program.bind f).SendsOnce
  := by
  intro course result? h
  obtain ⟨stops, -⟩ | ⟨result, opening, rest, rfl, ends, goes⟩ := takes_bind.mp h
  · exact sendsOnce_of_asks unsent _ _ stops
  · rw [requests_append, requests_of_asks unsent ends, List.nil_append]
    exact second result _ _ goes

/-- A program that sends at most one request still does with one that sends none after it. -/
theorem SendsOnce.bind {program : Pass α} {f : α → Pass β} (first : program.SendsOnce)
    (unsent : ∀ result, (f result).Asks (·.isSend = false)) :
  (program.bind f).SendsOnce
  := by
  intro course result? h
  obtain ⟨stops, -⟩ | ⟨result, opening, rest, rfl, ends, goes⟩ := takes_bind.mp h
  · exact first _ _ stops
  · rw [requests_append, requests_of_asks (unsent result) goes, List.append_nil]
    exact first _ _ ends

theorem sendsOnce_attempt_bind_of_asks {program : Attempt α} {f : α → Attempt β}
    (unsent : Asks (·.isSend = false) program) (second : ∀ result, SendsOnce (f result)) :
  SendsOnce (program >>= f : Attempt β)
  := by
  apply sendsOnce_bind_of_asks unsent
  rintro (cause | result)
  · exact sendsOnce_of_asks trivial
  · apply second

theorem sendsOnce_attempt_bind {program : Attempt α} {f : α → Attempt β}
    (first : SendsOnce program) (unsent : ∀ result, Asks (·.isSend = false) (f result)) :
  SendsOnce (program >>= f : Attempt β)
  := by
  apply SendsOnce.bind first
  rintro (cause | result)
  · trivial
  · apply unsent

/-- A program that sends at most one request, and only a certain one. -/
theorem SendsOnce.calls {program : Pass α} (once : program.SendsOnce)
    {call : Method × String} (only : program.Asks (Operation.SendsOnly (·.call = call)))
    {course : Course} {result? : Option α} (h : program.Takes course result?) :
  ((requests course).map Request.call).Sublist [call]
  := by
  have bound := once course result? h
  have same : ∀ request ∈ requests course, request.call = call := by
    intro request sent
    obtain ⟨exchange, found, question⟩ := exists_of_mem_requests sent
    have sends := h.asked only exchange found
    rwa [question] at sends
  match sent : requests course with
  | [] => exact List.nil_sublist _
  | [request] =>
    rw [sent] at same
    rw [List.map_singleton, same request (List.mem_singleton_self _)]
  | _ :: _ :: _ =>
    rw [sent] at bound
    simp at bound

end Program

namespace Request

/-- A request is sent once, and its answer is counted. -/
theorem sendsOnce_answer (r : Request) :
  SendsOnce r.answer
  := by
  apply sendsOnce_attempt_ask
  rintro (detail | response)
  · exact ⟨rfl, fun _ => trivial⟩
  · refine ⟨rfl, fun _ => ?_⟩
    change Asks _ (if response.isSuccess then pure response.body else throw _ : Attempt String)
    split
    · trivial
    · trivial

theorem sendsOnce_report (r : Request) :
  SendsOnce r.report
  := by
  apply sendsOnce_attempt_bind r.sendsOnce_answer
  intro body
  split
  · trivial
  · trivial

theorem sendsOnce_succeed (r : Request) :
  SendsOnce r.succeed
  := by
  apply sendsOnce_attempt_bind r.sendsOnce_answer
  intro body
  trivial

end Request

/-- To resolve references is to send nothing. -/
theorem Operation.Resolves.unsent {ns : String} {references : List (Kind × Reference)}
    (operation : Operation) (h : operation.Resolves ns references) :
  operation.isSend = false
  := h.isQuiet.1

namespace Object

/-- A creation sends at most one request: none if a reference leads nowhere. -/
theorem sendsOnce_create (o : Object K) (actor : Actor) :
  SendsOnce (o.create actor)
  := by
  apply sendsOnce_attempt_bind_of_asks
  · exact (Kind.asks_resolveLinks ..).mono Operation.Resolves.unsent
  intro links
  apply sendsOnce_attempt_bind (Request.sendsOnce_report _)
  intro report
  trivial

theorem sendsOnce_remoteState (o : Object K) (actor : Actor) :
  SendsOnce (o.remoteState actor)
  := by
  apply sendsOnce_attempt_bind (Request.sendsOnce_report _)
  intro report
  trivial

theorem sendsOnce_delete (o : Object K) (actor : Actor) :
  SendsOnce (o.delete actor)
  := Request.sendsOnce_succeed _

theorem sendsOnce_sendUpdate (o : Object K) (actor : Actor) (links : K.Links) :
  SendsOnce (o.sendUpdate actor links)
  := Request.sendsOnce_succeed _

/-- The attachments of a server are sent in one request. -/
theorem sendsOnce_attach (o : Object .cloudServer) (actor : Actor) :
  SendsOnce (o.attach actor)
  := by
  apply sendsOnce_attempt_bind_of_asks
  · exact (Kind.asks_resolveAttachments ..).mono Operation.Resolves.unsent
  intro links
  apply sendsOnce_attempt_bind (o.sendsOnce_sendUpdate actor links)
  intro _
  trivial

/-- The data volumes of a server are changed in one request, if at all. -/
theorem sendsOnce_syncVolumes (o : Object .cloudServer) (actor : Actor) :
  SendsOnce (o.syncVolumes actor)
  := by
  apply sendsOnce_attempt_bind_of_asks
  · exact (o.asks_volumeChange actor).mono Operation.Resolves.unsent
  rintro ⟨change, desired⟩
  dsimp only
  split
  · exact sendsOnce_of_asks trivial
  · apply sendsOnce_attempt_bind (Request.sendsOnce_succeed _)
    intro _
    trivial

/-! ### Updates of servers -/

/-- What is sent of the attachments is put to the place of the server. -/
theorem asks_attach_put (o : Object .cloudServer) (actor : Actor) (changed : Bool) :
  Asks (Operation.SendsOnly (·.call = (.put, o.endpoint.path)))
    (if changed then o.attach actor else return o : Attempt _)
  := by
  cases changed with
  | false => trivial
  | true => exact asks_attach_of Operation.admits_sendsOnly fun _ => rfl

/-- What is sent of the data volumes is posted below the server. -/
theorem asks_syncVolumes_post (o : Object .cloudServer) (actor : Actor) :
  Asks (Operation.SendsOnly (·.call = (.post, o.endpoint.path ++ "/dataVolumes")))
    (o.syncVolumes actor)
  := asks_syncVolumes_of Operation.admits_sendsOnly fun _ => rfl

end Object

/-- An update of a server sends its properties, and then changes its data volumes. -/
theorem Object.calls_updateServer {o : Object .cloudServer} {actor : Actor} {changed : Bool}
    {course : Course} {result? : Option (Except Failure Unit × Object .cloudServer)}
    (h : (o.updateServer actor changed).Takes course result?) :
  ((requests course).map Request.call).Sublist
    [(.put, o.endpoint.path), (.post, o.endpoint.path ++ "/dataVolumes")]
  := by
  have attaches : SendsOnce (if changed then o.attach actor else return o : Attempt _) := by
    cases changed with
    | false => exact sendsOnce_of_asks trivial
    | true => exact o.sendsOnce_attach actor
  obtain ⟨stops, -⟩ | ⟨cause | o₁, first, second, rfl, attached, goes⟩ := takes_bind.mp h
  · exact (attaches.calls (o.asks_attach_put ..) stops).trans (List.sublist_append_left _ [_])
  · obtain ⟨rfl, -⟩ := takes_done.mp goes
    rw [List.append_nil]
    exact (attaches.calls (o.asks_attach_put ..) attached).trans (List.sublist_append_left _ [_])
  rw [requests_append, List.map_append]
  apply List.Sublist.append (attaches.calls (o.asks_attach_put ..) attached)
  -- the server is in its place while its attachments are recorded
  have recorded : o.Attached o₁ := attached.ends (o.ends_attach_of_changed ..)
  rw [← recorded.rewired.endpoint]
  refine SendsOnce.calls (SendsOnce.bind (o₁.sendsOnce_syncVolumes actor) ?_)
    (asks_bind (o₁.asks_syncVolumes_post actor) ?_) goes
  · rintro (cause | o₂)
    · trivial
    · trivial
  · rintro (cause | o₂)
    · trivial
    · trivial

/-! ## Requests of a phase -/

/-- The requests of the work of a phase: at most one; or those of an update of a server, for
its properties and then for its data volumes, each at most once. -/
def Object.AreRequests (o : Object K) (phase : Option Phase) (requests : List Request) : Prop :=
  requests.length ≤ 1 ∨
    K = .cloudServer ∧ phase = some .updating ∧
      (requests.map Request.call).Sublist
        [(.put, o.endpoint.path), (.post, o.endpoint.path ++ "/dataVolumes")]

namespace Work

variable {o : Object K} {actor : Actor} {settings : PassSettings} {now : Instant}
  {course : Course} {result? : Option (Decision × Object K)}

theorem requests_update (h : (update o actor).Takes course result?) :
  o.AreRequests (some .updating) (requests course)
  := by
  obtain ⟨updates, -⟩ | ⟨result, first, second, rfl, updates, returns⟩ := takes_bind.mp h
  · exact calls_update updates
  · obtain ⟨rfl, -⟩ := takes_done.mp returns
    rw [List.append_nil]
    exact calls_update updates
where
  calls_update {course : Course} {result? : Option (Except Failure Unit × Object K)}
      (h : (o.update actor o.generationChanged).Takes course result?) :
    o.AreRequests (some .updating) (requests course)
    := by
    cases K with
    | cloudServer => exact .inr ⟨rfl, rfl, Object.calls_updateServer h⟩
    | _ =>
      left
      apply SendsOnce.bind (o.sendsOnce_sendUpdate actor o.links) _ _ _ h
      intro result
      trivial

theorem sendsOnce_create (o : Object K) (actor : Actor) :
  (create o actor).SendsOnce
  := by
  apply SendsOnce.bind (o.sendsOnce_create actor)
  rintro (cause | ⟨report, o'⟩)
  · trivial
  · trivial

theorem sendsOnce_poll (o : Object K) (actor : Actor) :
  (poll o actor).SendsOnce
  := by
  apply SendsOnce.bind (o.sendsOnce_remoteState actor)
  rintro (cause | state)
  · trivial
  · trivial

theorem sendsOnce_compare (o : Object K) (actor : Actor) :
  (compare o actor).SendsOnce
  := sendsOnce_of_asks <|
  (asks_compare o actor).mono fun _ loads => (Operation.isQuiet_of_isLoad loads).1

theorem sendsOnce_delete (o : Object K) (actor : Actor) :
  (delete o actor).SendsOnce
  := by
  rw [delete]
  split
  · apply sendsOnce_of_asks
    trivial
  · apply SendsOnce.bind (o.sendsOnce_delete actor)
    intro result
    trivial

/-- Nothing is sent for an object that is yet to be enrolled, or that failed. -/
theorem requests_of_idle {phase : Option Phase} (idle : phase = none ∨ phase = some .failed)
    (h : (ofPhase phase o actor settings now).Takes course result?) :
  requests course = []
  := by
  obtain rfl | rfl := idle
  · obtain ⟨rfl, -⟩ := takes_done.mp h
    rfl
  · apply requests_of_asks _ h
    apply asks_bind asks_ofOption
    intro decision
    trivial

/-- The work of a phase sends the requests of its phase. -/
theorem requests_ofPhase {phase : Option Phase}
    (h : (ofPhase phase o actor settings now).Takes course result?) :
  o.AreRequests phase (requests course)
  := by
  cases phase with
  | none =>
    obtain ⟨rfl, -⟩ := takes_done.mp h
    exact .inl (Nat.zero_le 1)
  | some phase =>
    cases phase with
    | creating => exact .inl (sendsOnce_create o actor _ _ h)
    | provisioning => exact .inl (sendsOnce_poll o actor _ _ h)
    | created => exact .inl (sendsOnce_compare o actor _ _ h)
    | updating => exact requests_update h
    | deleting => exact .inl (sendsOnce_delete o actor _ _ h)
    | failed =>
      rw [requests_of_idle (.inr rfl) h]
      exact .inl (Nat.zero_le 1)

end Work

/-! ## Writes -/

/-- A program that asks nothing that matters after its first question. -/
theorem effects_question_bind {α : Type} {operation : Operation} {next : operation.Answer → Pass α}
    (quiet : ∀ answer, (next answer).Asks Operation.isQuiet) {course : Course} {result? : Option α}
    (h : ((Program.question operation).bind next).Takes course result?) :
  (effects course).Sublist [operation]
  := by
  obtain ⟨rfl, -⟩ | ⟨answer, rest, rfl, goes⟩ := takes_question_bind.mp h
  · exact List.nil_sublist _
  · rw [← List.singleton_append, effects_append, effects_of_isQuiet (goes.asked (quiet answer)),
      List.append_nil]
    apply List.filter_sublist

/-- The finalizers of an object are written at most once, and then its status is written at
most once. -/
def AreWrites (K : Kind) (operations : List Operation) : Prop :=
  ∃ kept moved : Object K, operations.Sublist [.writeFinalizers K kept, .writeStatus K moved]

namespace AreWrites

variable {operations : List Operation} {o : Object K}

theorem nil (o : Object K) :
  AreWrites K []
  := ⟨o, o, List.nil_sublist _⟩

theorem status (h : operations.Sublist [.writeStatus K o]) :
  AreWrites K operations
  := ⟨o, o, h.trans (List.sublist_cons_self ..)⟩

theorem finalizers (h : operations.Sublist [.writeFinalizers K o]) :
  AreWrites K operations
  := ⟨o, o, h.trans (List.sublist_append_left _ [_])⟩

/-- Nothing is sent by a write. -/
theorem filterMap_request? (h : AreWrites K operations) :
  operations.filterMap Operation.request? = []
  := by
  obtain ⟨kept, moved, sublist⟩ := h
  exact List.sublist_nil.mp (sublist.filterMap Operation.request?)

end AreWrites

namespace Task

variable {t : Task K} {settings : PassSettings} {now : Instant} {course : Course}
  {result? : Option (Outcome K)}

/-- A move writes the status of the moved object, unless it has to wait. -/
theorem effects_move {move : Move} (h : (t.move settings move now).Takes course result?) :
  (effects course).Sublist [.writeStatus K (t.object.moved move now)]
  := by
  obtain ⟨decides, -⟩ | ⟨wait?, first, second, rfl, decides, goes⟩ := takes_bind.mp h
  · obtain ⟨rfl, -⟩ := takes_ofOption.mp decides
    exact List.nil_sublist _
  obtain ⟨rfl, -⟩ := takes_ofOption.mp decides
  rw [List.nil_append]
  cases wait? with
  | some duration =>
    have quiet : ∀ exchange ∈ second, exchange.question.isQuiet :=
      goes.asked (asks_question_bind (Operation.isQuiet_count _) fun _ => trivial)
    rw [effects_of_isQuiet quiet]
    exact List.nil_sublist _
  | none =>
    apply effects_question_bind _ goes
    rintro (cause | stored)
    · trivial
    · dsimp only
      split
      · apply asks_question_bind (Operation.isQuiet_count _)
        intro _
        trivial
      · trivial

/-- The finalizers are written once. -/
theorem effects_writeFinalizers {o : Object K}
    {result? : Option (Except PassFailure Unit × Task K)}
    (h : (t.writeFinalizers o).Takes course result?) :
  (effects course).Sublist [.writeFinalizers K o]
  := by
  apply effects_question_bind _ h
  rintro (cause | stored)
  · trivial
  · trivial

theorem effects_keep {result? : Option (Except PassFailure Unit × Task K)}
    (h : t.keep.Takes course result?) :
  (effects course).Sublist [.writeFinalizers K t.object.addFinalizer]
  := by
  rw [keep] at h
  split at h
  · obtain ⟨rfl, -⟩ := takes_done.mp h
    exact List.nil_sublist _
  · exact effects_writeFinalizers h

theorem effects_letGo {result? : Option (Except PassFailure Unit × Task K)}
    (h : t.letGo.Takes course result?) :
  (effects course).Sublist [.writeFinalizers K t.object.removeFinalizer]
  := by
  rw [letGo] at h
  split at h
  · exact effects_writeFinalizers h
  · obtain ⟨rfl, -⟩ := takes_done.mp h
    exact List.nil_sublist _

/-- Carrying out a decision writes the finalizers at most once, and then the status at most
once. -/
theorem effects_carryOut {decision : Decision}
    (h : (t.carryOut settings now decision).Takes course result?) :
  AreWrites K (effects course)
  := by
  cases decision with
  | rest | wait =>
    obtain ⟨rfl, -⟩ := takes_done.mp h
    exact .nil t.object
  | move m => exact .status (effects_move h)
  | fail cause =>
    obtain ⟨rfl, -⟩ | ⟨answer, rest, rfl, goes⟩ := takes_question_bind.mp h
    · exact .nil t.object
    · change AreWrites K (effects rest)
      exact .status (effects_move goes)
  | enroll =>
    obtain ⟨stops, -⟩ | ⟨⟨cause | _, kept⟩, first, second, rfl, keeps, goes⟩ := takes_bind.mp h
    · exact .finalizers (effects_keep stops)
    · obtain ⟨rfl, -⟩ := takes_done.mp goes
      rw [List.append_nil]
      exact .finalizers (effects_keep keeps)
    · rw [effects_append]
      exact ⟨_, _, (effects_keep keeps).append (effects_move goes)⟩
  | release =>
    obtain ⟨stops, -⟩ | ⟨⟨cause | _, kept⟩, first, second, rfl, releases, goes⟩ :=
      takes_bind.mp h
    · exact .finalizers (effects_letGo stops)
    · obtain ⟨rfl, -⟩ := takes_done.mp goes
      rw [List.append_nil]
      exact .finalizers (effects_letGo releases)
    · obtain ⟨rfl, -⟩ := takes_done.mp goes
      rw [List.append_nil]
      exact .finalizers (effects_letGo releases)

end Task

/-! ## Answers that find nothing -/

/-- Whether an object is loaded and found. -/
def Exchange.findsObject : Exchange Operation.Answer → Bool
  | ⟨.load .., .ok (some _)⟩ => true
  | _ => false

/-- Any operation may be answered without an object that is found. -/
theorem Operation.exists_unfound (operation : Operation) :
  ∃ answer : operation.Answer, Exchange.findsObject ⟨operation, answer⟩ = false
  := by
  cases operation with
  | load K ns name => exact ⟨.ok none, rfl⟩
  | writeStatus K o | writeFinalizers K o => exact ⟨.ok o, rfl⟩
  | readSecret tenant => exact ⟨.ok [], rfl⟩
  | logIn credentials realm => exact ⟨.ok ⟨"", 0⟩, rfl⟩
  | send request => exact ⟨.error "", rfl⟩
  | count counter => exact ⟨(), rfl⟩

/-! ## Turns -/

namespace Turn

variable {t : Turn K}

/-- The turn has no business with the remote API: the object is yet to be enrolled, or it
failed; a move comes before the work of the phase; or there is nobody to work for. -/
inductive HoldsBack (t : Turn K) (ns name : String) : Prop
  | absent (phase : t.stored.phase = none)
  | failed (phase : t.stored.phase = some .failed)
  | overdue (overdue : t.stored.isOverdue t.settings.phaseTimeout t.now)
  | toBeDeleted (toBeDeleted : t.stored.isToBeDeleted)
  | tenantless (blank : t.tenant = "")
  | unauthenticated {opening rest : Course} {cause : AccessFailure} {tokens : TokenCache}
      (course : t.course = ⟨.load K ns name, .ok (some t.stored)⟩ :: (opening ++ rest))
      (fails : t.authenticating.Takes opening (some (.error cause, tokens)))

/-- The effects of a turn: its requests, which are those of its phase, and none where it holds
back; and then its writes. -/
def HasEffects (t : Turn K) (ns name : String) (operations : List Operation) : Prop :=
  ∃ requests writes, operations.filter Operation.isEffect = requests.map .send ++ writes ∧
    t.stored.AreRequests t.stored.phase requests ∧ AreWrites K writes ∧
    (t.HoldsBack ns name → requests = [])

/-- What a turn does before it reaches its object has no effects. -/
theorem effects_of_reaches {actor : Actor} {rest : Course}
    (reaches : t.Reaches ns name actor rest) :
  effects t.course = effects rest
  := by
  obtain ⟨opening, course, quiet⟩ := isQuiet_of_reaches reaches
  rw [course, effects_append, effects_of_isQuiet quiet, List.nil_append]

/-- A turn that holds back and does the work of the phase is one over an object that is yet to
be enrolled, or that failed. -/
theorem Goes.idle_of_holdsBack (h : t.Goes ns name) (back : t.HoldsBack ns name) {actor : Actor}
    {rest : Course} (reaches : t.Reaches ns name actor rest)
    (unpreempted : t.stored.preempting? t.settings t.now = none) :
  t.stored.phase = none ∨ t.stored.phase = some .failed
  := by
  cases back with
  | absent phase => exact .inl phase
  | failed phase => exact .inr phase
  | overdue overdue => simp [Object.preempting?, overdue] at unpreempted
  | toBeDeleted toBeDeleted =>
    cases Object.not_isToBeDeleted_of_unpreempted unpreempted toBeDeleted
  | tenantless blank => cases h.tenant_ne reaches blank
  | unauthenticated course fails =>
    obtain ⟨-, tokens, opening, course', authenticates⟩ := reaches
    obtain ⟨-, same⟩ := List.cons.inj (course.symm.trans course')
    obtain ⟨-, ⟨⟩, -⟩ := fails.unique authenticates same

/-- A turn has the effects of its phase, on whatever course it goes. -/
theorem Goes.hasEffects (h : t.Goes ns name) :
  t.HasEffects ns name (questions t.course)
  := by
  obtain quiet | ⟨actor, ⟨carried, move, preempts⟩ | ⟨work, stalls⟩ |
    ⟨work, carried, decision, o, works⟩⟩ := h.cases
  · exact ⟨[], [], effects_of_isQuiet quiet, .inl (Nat.zero_le 1), .nil t.stored, fun _ => rfl⟩
  · obtain ⟨result?, carries⟩ := preempts.carries
    exact ⟨[], _, effects_of_reaches preempts.reaches, .inl (Nat.zero_le 1),
      .status (Task.effects_move carries), fun _ => rfl⟩
  · have unwritten := stalls.stalls.asked ((Work.asks_ofPhase ..).mono fun _ =>
      Operation.isWrite_of_sendsOnly)
    refine ⟨requests work, [], ?_, Work.requests_ofPhase stalls.stalls, .nil t.stored, ?_⟩
    · rw [List.append_nil, ← effects_of_unwritten unwritten]
      exact effects_of_reaches stalls.reaches
    · intro back
      have idle := h.idle_of_holdsBack back stalls.reaches stalls.unpreempted
      exact Work.requests_of_idle idle stalls.stalls
  · have unwritten := works.works.asked ((Work.asks_ofPhase ..).mono fun _ =>
      Operation.isWrite_of_sendsOnly)
    obtain ⟨result?, carries⟩ := works.carries
    refine ⟨requests work, effects carried, ?_, Work.requests_ofPhase works.works,
      Task.effects_carryOut carries, ?_⟩
    · rw [← effects_of_unwritten unwritten, ← effects_append]
      exact effects_of_reaches works.reaches
    · intro back
      have idle := h.idle_of_holdsBack back works.reaches works.unpreempted
      exact Work.requests_of_idle idle works.works

/-- A turn sends the requests of the phase of its object. -/
theorem Goes.areRequests (h : t.Goes ns name) :
  t.stored.AreRequests t.stored.phase (requests t.course)
  := by
  obtain ⟨sent, writes, all, are, written, -⟩ := h.hasEffects
  have same : requests t.course = sent := by
    rw [← filterMap_effects, effects, all, List.filterMap_append, written.filterMap_request?,
      List.append_nil, List.filterMap_map]
    exact List.filterMap_some
  rw [same]
  exact are

/-- The operations that a turn asks for, in order: those that are answered, and the one that it
is left with if it is given up. -/
inductive Performs (t : Turn K) (ns name : String) : List Operation → Prop
  | answered : Performs t ns name (questions t.course)
  | left {operation : Operation}
      (pends : (t.memory.pass t.settings t.now K ns name).Pends t.course operation) :
      Performs t ns name (questions t.course ++ [operation])

/-- A turn that is left with a question is the beginning of one that is answered, and that finds
no other object stored. -/
theorem Goes.goesOn (h : t.Goes ns name) {operation : Operation}
    (pends : (t.memory.pass t.settings t.now K ns name).Pends t.course operation) :
  ∃ answer result?, Turn.Goes
    { t with course := t.course ++ [⟨operation, answer⟩], result? := result? } ns name
  := by
  obtain ⟨answer, unfound⟩ := operation.exists_unfound
  obtain ⟨result?, takes⟩ := pends.goesOn answer
  refine ⟨answer, result?, takes, fun o found => ?_⟩
  obtain found | found := List.mem_append.mp found
  · exact h.loads o found
  · rw [← List.mem_singleton.mp found] at unfound
    cases unfound

theorem HoldsBack.goesOn (back : t.HoldsBack ns name) (later : Course)
    (result? : Option (Except PassFailure Directive × Memory)) :
  Turn.HoldsBack { t with course := t.course ++ later, result? := result? } ns name
  := by
  cases back with
  | absent phase => exact .absent phase
  | failed phase => exact .failed phase
  | overdue overdue => exact .overdue overdue
  | toBeDeleted toBeDeleted => exact .toBeDeleted toBeDeleted
  | tenantless blank => exact .tenantless blank
  | @unauthenticated opening rest cause tokens course fails =>
    have course' : t.course ++ later =
        ⟨.load K ns name, .ok (some t.stored)⟩ :: (opening ++ (rest ++ later)) := by
      rw [course, List.cons_append, List.append_assoc]
    exact .unauthenticated course' fails

/-- **The effects of a turn.**  A turn sends its requests before it writes anything: at most one,
or else those of an update of a server, at most one for its properties and then at most one for its
data volumes; and none where it holds back.  Then it writes the finalizers at most once, and the
status at most once. -/
theorem Goes.effects_bounded (h : t.Goes ns name) {operations : List Operation}
    (performs : t.Performs ns name operations) :
  t.HasEffects ns name operations
  := by
  cases performs with
  | answered => exact h.hasEffects
  | left pends =>
    obtain ⟨answer, result?, goes⟩ := h.goesOn pends
    obtain ⟨requests, writes, effects, sent, written, idle⟩ := goes.hasEffects
    refine ⟨requests, writes, ?_, sent, written, fun back => idle (back.goesOn _ _)⟩
    rw [← effects, questions, questions, List.map_append, List.map_singleton]

namespace Web

open Run (WebServer.rewired WebServer.turn WebServer.volume)

/-- The server `web` with another data volume, in a generation that is not taken note of. -/
def edited : Object .cloudServer :=
  { WebServer.rewired with metadata := { WebServer.rewired.metadata with generation := some 2 } }

/-- Its data volumes are found to differ. -/
def differing : Turn .cloudServer :=
  WebServer.turn 60 edited (some (WebServer.volume "vol-2"))

/-- Its properties are sent, and its data volumes are changed. -/
def updating : Turn .cloudServer :=
  WebServer.turn 61 differing.after (some (WebServer.volume "vol-2"))

end Web

/-- A server whose properties and data volumes differ is updated by one request each. -/
theorem effects_bounded_web :
  Web.updating.Goes "shop" "web" ∧ Web.updating.stored.phase = some .updating ∧
    ((requests Web.updating.course).map Request.call =
      [(.put, "/projects/prj-1/providers/Aruba.Compute/cloudServers/res-9"),
        (.post, "/projects/prj-1/providers/Aruba.Compute/cloudServers/res-9/dataVolumes")]) ∧
    Web.updating.HasEffects "shop" "web" (questions Web.updating.course)
  := by
  have goes : Web.updating.Goes "shop" "web" := Run.WebServer.goes_turn ..
  have phase : Web.updating.stored.phase = some .updating := by
    decide +kernel
  refine ⟨goes, phase, ?_, goes.effects_bounded .answered⟩
  decide +kernel

end Turn

end CloudOperator
