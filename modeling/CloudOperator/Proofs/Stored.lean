import CloudOperator.Operation
import CloudOperator.Proofs.Course
import CloudOperator.Reconcile.Move

/-!
# What a course leaves stored

`Object.after` is the object that is stored after a course, if it was stored as given
before: an accepted write of the status puts the written status in place of the stored
one, an accepted write of the finalizers does so with the finalizers, and nothing else
changes what is stored.  In particular a write that is refused changes nothing.

The other clients of the cluster are left to `Proofs/Run`, which lets them change the
object between two passes; what they do during a pass makes its writes be refused.
-/

namespace CloudOperator

/-- What a pass asks and is answered. -/
abbrev Course :=
  List (Exchange Operation.Answer)

namespace Operation

/-- Whether a request goes to the remote API. -/
def isSend : Operation → Bool
  | send _ => true
  | _ => false

/-- Whether an object is written. -/
def isWrite : Operation → Bool
  | writeStatus .. | writeFinalizers .. => true
  | _ => false

/-- Whether an object is loaded. -/
def isLoad : Operation → Bool
  | load .. => true
  | _ => false

/-- Whether the secret of a tenant is read or exchanged for a token. -/
def isAccess : Operation → Bool
  | readSecret _ | logIn _ _ => true
  | _ => false

/-- Whether an object is written or something is counted. -/
def isLocal : Operation → Bool
  | writeStatus .. | writeFinalizers .. | count _ => true
  | _ => false

/-- Whether nothing is written and nothing goes to the remote API. -/
def isQuiet (operation : Operation) : Prop :=
  operation.isSend = false ∧ operation.isWrite = false

theorem isSend_of_isLocal {operation : Operation} (isLocal : operation.isLocal) :
  operation.isSend = false
  := by
  cases operation with
  | send request => cases isLocal
  | _ => rfl

/-- To authenticate a tenant is to send nothing to the remote API and to write nothing. -/
theorem isQuiet_of_isAccess {operation : Operation} (accesses : operation.isAccess) :
  operation.isQuiet
  := by
  cases operation with
  | readSecret tenant | logIn credentials realm => exact ⟨rfl, rfl⟩
  | _ => cases accesses

theorem isAccess_of_isLocal {operation : Operation} (isLocal : operation.isLocal) :
  operation.isAccess = false
  := by
  cases operation with
  | readSecret tenant | logIn credentials realm => cases isLocal
  | _ => rfl

end Operation

namespace Exchange

/-- Whether a status is stored. -/
def storesStatus : Exchange Operation.Answer → Bool
  | ⟨.writeStatus _ _, .ok _⟩ => true
  | _ => false

/-- Whether finalizers are stored. -/
def storesFinalizers : Exchange Operation.Answer → Bool
  | ⟨.writeFinalizers _ _, .ok _⟩ => true
  | _ => false

/-- Whether nothing is stored and nothing goes to the remote API. -/
def isSilent (exchange : Exchange Operation.Answer) : Prop :=
  exchange.question.isSend = false ∧ exchange.storesStatus = false ∧
    exchange.storesFinalizers = false

/-- An exchange without a write stores nothing. -/
theorem unstored_of_isWrite {exchange : Exchange Operation.Answer}
    (unwritten : exchange.question.isWrite = false) :
  exchange.storesStatus = false ∧ exchange.storesFinalizers = false
  := by
  obtain ⟨question, answer⟩ := exchange
  cases question with
  | writeStatus K o => cases unwritten
  | writeFinalizers K o => cases unwritten
  | load K ns name => exact ⟨rfl, rfl⟩
  | readSecret tenant => exact ⟨rfl, rfl⟩
  | logIn credentials realm => exact ⟨rfl, rfl⟩
  | send request => exact ⟨rfl, rfl⟩
  | count counter => exact ⟨rfl, rfl⟩

end Exchange

namespace Object

variable {K : Kind}

/-- The stored object after the status of `written` was stored; the version is that of
the answer. -/
def storing (stored written answer : Object K) : Object K :=
  { stored with status := written.status }.adoptVersion answer

/-- The stored object after the finalizers of `written` were stored; the version is that
of the answer. -/
def storingFinalizers (stored written answer : Object K) : Object K :=
  (stored.withFinalizers written.metadata.finalizerList).adoptVersion answer

/-- What is stored after an exchange. -/
def afterExchange (stored : Object K) : Exchange Operation.Answer → Object K
  | ⟨.writeStatus K' written, .ok answer⟩ =>
    if same : K' = K then stored.storing (same ▸ written) (same ▸ answer) else stored
  | ⟨.writeFinalizers K' written, .ok answer⟩ =>
    if same : K' = K then stored.storingFinalizers (same ▸ written) (same ▸ answer) else stored
  | _ => stored

/-- What is stored after a course. -/
def after (stored : Object K) (course : Course) : Object K :=
  course.foldl afterExchange stored

/-! ## What the status shows -/

/-- The text of the time at which the phase of the object started. -/
def phaseStartTime (o : Object K) : Option String :=
  o.status.bind (·.phaseStartTime)

@[simp]
theorem phaseStartTime_statusOrInitial (o : Object K) :
  o.statusOrInitial.phaseStartTime = o.phaseStartTime
  := by
  cases h : o.status <;>
    simp [statusOrInitial, phaseStartTime, h, Status.initial, CommonStatus.initial]

@[simp]
theorem phaseStartTime_withStatus (o : Object K) (status : Status K) :
  (o.withStatus status).phaseStartTime = status.phaseStartTime
  := rfl

theorem phaseStartTime_congr {o o' : Object K} (h : o.status = o'.status) :
  o.phaseStartTime = o'.phaseStartTime
  := by
  rw [phaseStartTime, h, phaseStartTime]

/-- The phase is read from the status alone. -/
theorem phase_congr {o o' : Object K} (h : o.status = o'.status) :
  o.phase = o'.phase
  := by
  rw [phase, h, phase]

theorem resourceID_congr {o o' : Object K} (h : o.status = o'.status) :
  o.resourceID = o'.resourceID
  := by
  rw [resourceID, h, resourceID]

theorem observedGeneration_congr {o o' : Object K} (h : o.status = o'.status) :
  o.observedGeneration = o'.observedGeneration
  := by
  rw [observedGeneration, h, observedGeneration]

theorem links_congr {o o' : Object K} (h : o.status = o'.status) :
  o.links = o'.links
  := by
  rw [links, statusOrInitial, h, links, statusOrInitial]

/-- So is the place of the remote resource. -/
theorem endpoint_congr {o o' : Object K} (h : o.status = o'.status) :
  o.endpoint = o'.endpoint
  := by
  rw [endpoint, links_congr h, resourceID_congr h, endpoint]

/-! ## What the two writes change -/

/-- An accepted write of the status stores the status that was written. -/
@[simp]
theorem status_storing (stored written answer : Object K) :
  (stored.storing written answer).status = written.status
  := rfl

/-- It leaves the finalizers as they are stored. -/
@[simp]
theorem finalizerList_storing (stored written answer : Object K) :
  (stored.storing written answer).metadata.finalizerList = stored.metadata.finalizerList
  := rfl

/-- An accepted write of the finalizers leaves the stored status. -/
@[simp]
theorem status_storingFinalizers (stored written answer : Object K) :
  (stored.storingFinalizers written answer).status = stored.status
  := rfl

/-- It stores the finalizers that were written. -/
@[simp]
theorem finalizerList_storingFinalizers (stored written answer : Object K) :
  (stored.storingFinalizers written answer).metadata.finalizerList
    = written.metadata.finalizerList
  := rfl

theorem afterExchange_writeStatus (stored written answer : Object K) :
  stored.afterExchange ⟨.writeStatus K written, .ok answer⟩ = stored.storing written answer
  := by
  simp [afterExchange]

theorem afterExchange_writeFinalizers (stored written answer : Object K) :
  stored.afterExchange ⟨.writeFinalizers K written, .ok answer⟩
    = stored.storingFinalizers written answer
  := by
  simp [afterExchange]

/-- An exchange leaves an object as it is stored, or it is an accepted write of it. -/
theorem afterExchange_cases (stored : Object K) (exchange : Exchange Operation.Answer) :
  stored.afterExchange exchange = stored ∨
    (∃ written answer, stored.afterExchange exchange = stored.storing written answer) ∨
    ∃ written answer, stored.afterExchange exchange = stored.storingFinalizers written answer
  := by
  unfold afterExchange
  split
  · split
    · exact .inr (.inl ⟨_, _, rfl⟩)
    · exact .inl rfl
  · split
    · exact .inr (.inr ⟨_, _, rfl⟩)
    · exact .inl rfl
  · exact .inl rfl

/-- An exchange that stores nothing leaves the object as it is stored. -/
theorem afterExchange_of_unstored (stored : Object K) {exchange : Exchange Operation.Answer}
    (unstored : exchange.storesStatus = false ∧ exchange.storesFinalizers = false) :
  stored.afterExchange exchange = stored
  := by
  obtain ⟨status, finalizers⟩ := unstored
  unfold afterExchange
  split
  · cases status
  · cases finalizers
  · rfl

/-- The status changes only where a status is stored. -/
theorem status_afterExchange (stored : Object K) {exchange : Exchange Operation.Answer}
    (unstored : exchange.storesStatus = false) :
  (stored.afterExchange exchange).status = stored.status
  := by
  unfold afterExchange
  split
  · cases unstored
  · split
    · apply status_storingFinalizers
    · rfl
  · rfl

/-- The finalizers change only where finalizers are stored. -/
theorem finalizerList_afterExchange (stored : Object K) {exchange : Exchange Operation.Answer}
    (unstored : exchange.storesFinalizers = false) :
  (stored.afterExchange exchange).metadata.finalizerList = stored.metadata.finalizerList
  := by
  unfold afterExchange
  split
  · split
    · apply finalizerList_storing
    · rfl
  · cases unstored
  · rfl

/-! ## Courses -/

@[simp]
theorem after_nil (stored : Object K) :
  stored.after [] = stored
  := rfl

@[simp]
theorem after_cons (stored : Object K) (exchange : Exchange Operation.Answer) (course : Course) :
  stored.after (exchange :: course) = (stored.afterExchange exchange).after course
  := rfl

/-- What is stored after a course is stored before the next one. -/
@[simp]
theorem after_append (stored : Object K) (first second : Course) :
  stored.after (first ++ second) = (stored.after first).after second
  := List.foldl_append

/-- A course without an accepted write leaves the object. -/
theorem after_of_unstored (stored : Object K) {course : Course}
    (unstored : ∀ exchange ∈ course,
      exchange.storesStatus = false ∧ exchange.storesFinalizers = false) :
  stored.after course = stored
  := by
  induction course with
  | nil => rfl
  | cons exchange course ih =>
    obtain ⟨first, rest⟩ := List.forall_mem_cons.mp unstored
    rw [after_cons, afterExchange_of_unstored stored first, ih rest]

/-- A course without accepted writes leaves the object as it is stored. -/
theorem after_of_isSilent (stored : Object K) {course : Course}
    (silent : ∀ exchange ∈ course, exchange.isSilent) :
  stored.after course = stored
  := after_of_unstored stored fun exchange found => (silent exchange found).2

/-- So does a course without writes. -/
theorem after_of_isQuiet (stored : Object K) {course : Course}
    (quiet : ∀ exchange ∈ course, exchange.question.isQuiet) :
  stored.after course = stored
  := after_of_unstored stored fun exchange found =>
    Exchange.unstored_of_isWrite (quiet exchange found).2

/-- A course without an accepted write of the status leaves the status. -/
theorem status_after {course : Course}
    (unstored : ∀ exchange ∈ course, exchange.storesStatus = false) (stored : Object K) :
  (stored.after course).status = stored.status
  := by
  induction course generalizing stored with
  | nil => rfl
  | cons exchange course ih =>
    obtain ⟨first, rest⟩ := List.forall_mem_cons.mp unstored
    rw [after_cons, ih rest, status_afterExchange stored first]

/-- A course without an accepted write of the finalizers leaves the finalizers. -/
theorem finalizerList_after {course : Course}
    (unstored : ∀ exchange ∈ course, exchange.storesFinalizers = false) (stored : Object K) :
  (stored.after course).metadata.finalizerList = stored.metadata.finalizerList
  := by
  induction course generalizing stored with
  | nil => rfl
  | cons exchange course ih =>
    obtain ⟨first, rest⟩ := List.forall_mem_cons.mp unstored
    rw [after_cons, ih rest, finalizerList_afterExchange stored first]

/-- No course changes a view of the object that neither write changes. -/
theorem view_after {α : Type} (view : Object K → α)
    (status : ∀ stored written answer, view (stored.storing written answer) = view stored)
    (finalizers : ∀ stored written answer,
      view (stored.storingFinalizers written answer) = view stored)
    (stored : Object K) (course : Course) :
  view (stored.after course) = view stored
  := by
  induction course generalizing stored with
  | nil => rfl
  | cons exchange course ih =>
    rw [after_cons, ih]
    obtain same | ⟨written, answer, same⟩ | ⟨written, answer, same⟩ :=
      afterExchange_cases stored exchange
    · rw [same]
    · rw [same, status]
    · rw [same, finalizers]

/-- No write changes the generation, which is for the cluster to count. -/
@[simp]
theorem generation_after (stored : Object K) (course : Course) :
  (stored.after course).generation = stored.generation
  := view_after generation (fun _ _ _ => rfl) (fun _ _ _ => rfl) stored course

/-- No write takes back the request for the deletion of the object. -/
@[simp]
theorem isDeletionRequested_after (stored : Object K) (course : Course) :
  (stored.after course).isDeletionRequested = stored.isDeletionRequested
  := view_after isDeletionRequested (fun _ _ _ => rfl) (fun _ _ _ => rfl) stored course

end Object

end CloudOperator
