import CloudOperator.Proofs.Cleanup

/-!
# The condition of created objects

The condition `Synchronized` of an object that was created, that did not change and in whose
remote resource no drift is found should hold.

It does unless a comparison failed (`Run.isSynchronized_iff_not_stumbled`).  A turn that cannot
compare the object with its remote resource reports so in the condition, and says that it will
be tried again.  The turns that succeed later find nothing to do and report nothing, so the
condition stays as it is until the object is updated.
-/

namespace CloudOperator

open Program

variable {K : Kind} {ns name : String}

namespace Object

variable {o o' : Object K}

/-- Whether the condition of the object that moves report holds. -/
def isSynchronized (o : Object K) : Bool :=
  (o.status.bind (·.condition? Move.conditionType)).any (·.status = .holds)

theorem isSynchronized_congr (h : o.status = o'.status) :
  o.isSynchronized = o'.isSynchronized
  := by
  rw [isSynchronized, h, isSynchronized]

theorem isSynchronized_moved (o : Object K) (move : Move) (now : Instant) :
  (o.moved move now).isSynchronized ↔ move.status = .holds
  := by
  obtain ⟨c, told, status, -⟩ := o.condition?_moved move now
  rw [isSynchronized, told, Option.any_some, decide_eq_true_iff, status]

theorem eq_error_of_decideCreated {found : Except Failure (Option Drift)} {cause : Failure}
    (fails : o.decideCreated found = .fail cause) :
  found = .error cause
  := by
  rcases found with cause' | _ | drift
  · rw [Decision.fail.inj fails]
  · rw [decideCreated, decideUnchanged] at fails
    split at fails
    · cases fails
    · cases fails
  · cases fails

/-- Nothing comes before the work of an object that is created and is to be kept. -/
theorem unpreempted_of_created {settings : PassSettings} {now : Instant}
    (created : o.phase = some .created) (kept : ¬ o.isDeletionRequested) :
  o.preempting? settings now = none
  := by
  simp [preempting?, isOverdue, isToBeDeleted, created, kept, Phase.isTransitioning]

end Object

namespace Turn

variable {t : Turn K}

/-- The turn cannot compare a created object with its remote resource. -/
def FailsToCompare (t : Turn K) (ns name : String) : Prop :=
  t.stored.phase = some .created ∧ ∃ actor work carried cause,
    t.Reaches ns name actor (work ++ carried) ∧
    Takes (t.stored.drift? actor) work (some (.error cause))

/-- Since the object was last brought to the phase `Created`, a turn stored that it could not be
compared with its remote resource. -/
def Stumbled (ns name : String) : List (Turn K) → Prop
  | [] => False
  | t :: turns =>
    t.stored.phase = some .created ∧
      (t.FailsToCompare ns name ∧ t.StoresStatus ∨ Stumbled ns name turns)

/-- The turn finds a created object that is to be kept, did not change, and does not differ from
its remote resource. -/
structure FindsInSync (t : Turn K) (ns name : String) : Prop where
  created : t.stored.phase = some .created
  kept : ¬ t.stored.isDeletionRequested
  observed : t.stored.observedGeneration = t.stored.generation
  compared : ∃ actor rest, t.Reaches ns name actor rest ∧
    Takes (t.stored.drift? actor) rest (some (.ok none))

/-- A created object stays so only if it cannot be compared, and then the condition does not
hold.  One that becomes created is reported as such. -/
theorem Moves.synchronizes {o : Object K} {move : Move} (h : t.Moves ns name o move)
    (created : move.phase = .created) :
  t.stored.phase = some .created ∧ t.FailsToCompare ns name ∧ move.status = .fails ∨
    t.stored.phase ≠ some .created ∧ move.status = .holds
  := by
  cases h with
  | preempts preempts =>
    obtain deleting | failed := Object.phase_of_preempting preempts.preempting
    · cases created.symm.trans deleting
    · cases created.symm.trans failed
  | works works leads makes =>
    cases leads with
    | created phase _ settled =>
      cases makes
      obtain rfl | rfl := settled
      · cases created
      · exact .inr ⟨by simp [phase], rfl⟩
    | polled phase told =>
      cases makes
      obtain rfl | rfl | ⟨state, rfl⟩ := told
      · cases created
      · exact .inr ⟨by simp [phase], rfl⟩
      · cases created
    | updated phase =>
      cases makes
      exact .inr ⟨by simp [phase], rfl⟩
    | @failed _ phase cause current working unanswered rewired =>
      cases makes
      rw [rewired.phase, current, Option.getD_some] at created ⊢
      obtain same | failed := Move.phase_ofFailure phase cause
      · -- the failure keeps the phase, so it is one of the work of a created object
        obtain rfl : phase = .created := same.symm.trans created
        have compares := works.works
        rw [current] at compares
        obtain ⟨-, found, compares, decides⟩ := Work.takes_drift? compares
        obtain rfl := Object.eq_error_of_decideCreated decides.symm
        exact .inl ⟨rfl, ⟨current, _, _, _, cause, works.reaches, compares⟩,
          Move.status_ofFailure ..⟩
      · cases created.symm.trans failed
    | enrolled | drifted | changed | deleted | retried | resumed =>
      cases makes
      cases created
    | matching | released | resting | waiting => cases makes

/-- A turn that finds an object in sync has nothing to do. -/
theorem FindsInSync.rests (h : t.FindsInSync ns name) (goes : t.Goes ns name) :
  (∃ memory, t.result? = some (.ok .done, memory)) ∧ t.after = t.stored
  := by
  obtain ⟨actor, rest, reaches, compares⟩ := h.compared
  obtain ⟨tokens, result?, proceeds, ends, -⟩ := goes.proceeds reaches
  have unchanged : t.stored.decideUnchanged = .rest := by
    simp [Object.decideUnchanged, Object.generationChanged, h.observed]
  have works : (Work.ofPhase t.stored.phase t.stored actor t.settings t.now).Takes rest
      (some (.rest, t.stored)) := by
    rw [h.created, ← unchanged]
    apply takes_bind.mpr
    exact .inr ⟨_, rest, [], (List.append_nil rest).symm, compares, takes_done.mpr ⟨rfl, rfl⟩⟩
  constructor
  · rw [Task.proceed_of_unpreempted (Object.unpreempted_of_created h.created h.kept),
      ← List.append_nil rest] at proceeds
    obtain ⟨-, rfl⟩ := takes_done.mp (proceeds.rest works)
    exact ⟨_, ends⟩
  · obtain ⟨opening, course, quiet⟩ := isQuiet_of_reaches reaches
    apply Object.after_of_isQuiet
    rw [course, List.forall_mem_append]
    refine ⟨quiet, fun exchange found => ?_⟩
    apply Operation.isQuiet_of_isLoad (compares.asked (t.stored.asks_drift? actor) exchange found)

end Turn

open Turn

namespace Run

variable {initial o : Object K} {turns : List (Turn K)} {t : Turn K}

/-- The condition of a created object holds unless it was reported since then that the object
could not be compared. -/
theorem isSynchronized_iff (run : Run Object.StatusKept ns name initial turns o)
    (fresh : initial.status = none) (created : o.phase = some .created) :
  o.isSynchronized ↔ ¬ Stumbled ns name turns
  := by
  induction run with
  | start => simp [Object.phase, fresh] at created
  | edited run edit ih =>
    rw [Object.phase_congr edit] at created
    rw [Object.isSynchronized_congr edit]
    apply ih created
  | @turned turns t run goes ih =>
    obtain ⟨unstored, same⟩ | ⟨stores, o, move, moves, after⟩ := goes.status
    · rw [Object.phase_congr same] at created
      simp [Object.isSynchronized_congr same, ih created, Stumbled, created, unstored]
    · rw [Object.phase_congr after, Object.phase_moved] at created
      rw [Object.isSynchronized_congr after, Object.isSynchronized_moved]
      obtain ⟨stays, fails, status⟩ | ⟨enters, status⟩ :=
        moves.synchronizes (Option.some.inj created)
      · simp [Stumbled, stays, fails, stores, status]
      · simp [Stumbled, enters, status]

/-- A turn that finds an object in sync has nothing to do, and leaves the condition: it holds
unless it was reported since the object became created that it could not be compared. -/
theorem isSynchronized_iff_not_stumbled
    (run : Run Object.StatusKept ns name initial turns t.stored) (fresh : initial.status = none)
    (goes : t.Goes ns name) (inSync : t.FindsInSync ns name) :
  (∃ memory, t.result? = some (.ok .done, memory)) ∧ t.after = t.stored ∧
    (t.stored.isSynchronized ↔ ¬ Stumbled ns name turns)
  := by
  obtain ⟨done, same⟩ := inSync.rests goes
  exact ⟨done, same, run.isSynchronized_iff fresh inSync.created⟩

namespace WebServer

/-- An object whose remote resource is named. -/
def named (spec : K.Spec) (id : String) : Object K where
  metadata := Object.payments.metadata
  spec := spec
  status := some { Status.initial K with phase := some .created, resourceID := id }

/-- The project that the server lies in. -/
def project : Object .project :=
  named Object.payments.spec "prj-1"

/-- The virtual private cloud that the server lies in. -/
def vpc : Object .vpc :=
  named ⟨"ARU-1", [], ⟨"ITBG-Bergamo"⟩, false, false, ⟨"payments", none⟩⟩ "vpc-1"

/-- The key pair of the server. -/
def keyPair : Object .keyPair :=
  named ⟨"ARU-1", [], ⟨"ITBG-Bergamo"⟩, "ssh-ed25519", ⟨"payments", none⟩⟩ "key-1"

/-- A volume of the server. -/
def volume (id : String) : Object .blockStorage :=
  named ⟨"ARU-1", [], ⟨"ITBG-Bergamo"⟩, 40, "Hour", "ITBG-1", "", false, "", ⟨"payments", none⟩⟩ id

/-- The server `web` in the namespace `shop` before its first pass. -/
def web : Object .cloudServer where
  metadata := { Object.payments.metadata with name := some "web" }
  spec :=
    { tenant := "ARU-1", tags := [], location := ⟨"ITBG-Bergamo"⟩, dataCenter := "ITBG-1"
      vpcPreset := false, flavorName := "CSO4A8", project := ⟨"payments", none⟩
      vpc := ⟨"main", none⟩, bootVolume := ⟨"boot", none⟩, keyPair := ⟨"ops", none⟩
      subnets := [], securityGroups := [], elasticIp := none, dataVolumes := [⟨"data", none⟩] }
  status := none

/-- Surroundings in which the server is stored with all that it refers to, except that its data
volume may be missing.  The remote API answers every request with a success. -/
def surroundings (stored : Object .cloudServer) (data? : Option (Object .blockStorage)) :
    (operation : Operation) → StateM Unit operation.Answer
  | .load .cloudServer _ _ => return .ok (some stored)
  | .load .vpc _ _ => return .ok (some vpc)
  | .load .keyPair _ _ => return .ok (some keyPair)
  | .load .blockStorage _ name =>
    return .ok (if name = "boot" then some (volume "vol-0") else data?)
  | operation => projectSurroundings project (reportOn "Active") none operation

/-- A turn of the server, by the second of its time. -/
def turn (second : Int) (stored : Object .cloudServer) (data? : Option (Object .blockStorage)) :
    Turn .cloudServer :=
  taken .empty ⟨10_000_000_000, 3600_000_000_000, "cloud"⟩ ⟨second, 0⟩ stored "shop" "web"
    (surroundings stored data?) ()

theorem goes_turn (second : Int) (stored : Object .cloudServer)
    (data? : Option (Object .blockStorage)) :
  (turn second stored data?).Goes "shop" "web"
  := goes_taken fun _ => rfl

theorem stored_turn (second : Int) (stored : Object .cloudServer)
    (data? : Option (Object .blockStorage)) :
  (turn second stored data?).stored = stored
  := rfl

/-- The server is enrolled. -/
def enrolling : Turn .cloudServer :=
  turn 0 web (some (volume "vol-1"))

/-- Its remote resource is created. -/
def creating : Turn .cloudServer :=
  turn 1 enrolling.after (some (volume "vol-1"))

/-- Its data volume is to be attached. -/
def drifting : Turn .cloudServer :=
  turn 2 creating.after (some (volume "vol-1"))

/-- Its data volume is attached. -/
def attaching : Turn .cloudServer :=
  turn 3 drifting.after (some (volume "vol-1"))

/-- The data volume is not found any more. -/
def stumbling : Turn .cloudServer :=
  turn 20 attaching.after none

/-- The data volume is found again, and there is nothing to do. -/
def resting : Turn .cloudServer :=
  turn 40 stumbling.after (some (volume "vol-1"))

theorem run :
  Run Object.StatusKept "shop" "web" web [stumbling, attaching, drifting, creating, enrolling]
    resting.stored
  := by
  rw [resting, stored_turn]
  apply turned (t := stumbling) _ (goes_turn ..)
  apply turned (t := attaching) _ (goes_turn ..)
  apply turned (t := drifting) _ (goes_turn ..)
  apply turned (t := creating) _ (goes_turn ..)
  apply turned (t := enrolling) _ (goes_turn ..)
  apply start

theorem goes :
  resting.Goes "shop" "web"
  := by
  apply goes_turn

theorem shown :
  resting.stored.phase = some .created ∧ ¬ resting.stored.isDeletionRequested ∧
    resting.stored.observedGeneration = resting.stored.generation ∧
    ¬ resting.stored.isSynchronized
  := by
  decide +kernel

set_option maxRecDepth 10000 in
theorem compared :
  ∃ actor rest, resting.Reaches "shop" "web" actor rest ∧
    Takes (resting.stored.drift? actor) rest (some (.ok none))
  := by
  let answer := surroundings resting.stored (some (volume "vol-1"))
  let login := TokenCache.authenticate [] "ARU-1" "cloud" ⟨40, 0⟩
  let drift := resting.stored.drift? ⟨"token", "shop"⟩
  -- after the comparison nothing is left to be asked
  have course : resting.course = ⟨.load .cloudServer "shop" "web", .ok (some resting.stored)⟩ ::
      (login.courseIn answer () ++ courseIn answer drift ()) := rfl
  have tenant : trimBlanks resting.stored.tenant = "ARU-1" := rfl
  obtain ⟨tokens, logsIn⟩ : ∃ tokens, (login.run answer ()).1 = some (.ok "token", tokens) :=
    ⟨_, rfl⟩
  have matching : (Program.run answer drift ()).1 = some (.ok none) := rfl
  refine ⟨⟨"token", "shop"⟩, _, ⟨rfl, tokens, _, course, ?_⟩, ?_⟩
  · rw [← logsIn, tenant]
    apply takes_courseIn
  · rw [← matching]
    apply takes_courseIn

theorem inSync :
  resting.FindsInSync "shop" "web"
  where
  created := shown.1
  kept := shown.2.1
  observed := shown.2.2.1
  compared := compared

end WebServer

/-- The exact condition, where the data volume of a server was missing for a while. -/
theorem isSynchronized_iff_not_stumbled_web :
  (∃ memory, WebServer.resting.result? = some (.ok .done, memory)) ∧
    WebServer.resting.after = WebServer.resting.stored ∧
    (WebServer.resting.stored.isSynchronized ↔
      ¬ Stumbled "shop" "web" [WebServer.stumbling, WebServer.attaching, WebServer.drifting,
        WebServer.creating, WebServer.enrolling])
  := isSynchronized_iff_not_stumbled WebServer.run rfl WebServer.goes WebServer.inSync

/-- The condition stays false: a server is in sync again after its data volume was missing for a
while, but the condition still reports the failure. -/
theorem failure_kept_in_sync :
  ∃ (turns : List (Turn .cloudServer)) (t : Turn .cloudServer),
    Run Object.StatusKept "shop" "web" WebServer.web turns t.stored ∧
      WebServer.web.status = none ∧ t.Goes "shop" "web" ∧ t.FindsInSync "shop" "web" ∧
      ¬ t.stored.isSynchronized
  := ⟨_, _, WebServer.run, rfl, WebServer.goes, WebServer.inSync, WebServer.shown.2.2.2⟩

end Run

end CloudOperator
