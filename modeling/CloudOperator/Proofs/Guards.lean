import CloudOperator.Proofs.PassFailure

/-!
# What a pass has in hand

A pass writes the object that it loaded, with the version that it has in hand: the loaded one, or
that of the object that its last write stored.  It ends where a write is refused.

`Program.Guards` says so of programs, and is kept where one program follows another one
(`Program.guards_bind`); `Memory.guards_pass` says that passes are such programs.
-/

namespace CloudOperator

open Program

/-- What is written is the object in hand: its status, or its finalizers, among which are all that
others gave it. -/
def Operation.WritesHand (K : Kind) (hand : Metadata) : Operation → Prop
  | writeStatus K' o => K' = K ∧ o.metadata = hand
  | writeFinalizers K' o => K' = K ∧ ∃ finalizers,
      o.metadata = { hand with finalizers := some finalizers } ∧
        ∀ finalizer ∈ hand.finalizerList, finalizer ≠ K.finalizer → finalizer ∈ finalizers
  | _ => True

/-- The metadata in hand after an exchange: after an accepted write they are those of the object
that was written, with the version of what was stored. -/
def Exchange.handAfter (hand : Metadata) : Exchange Operation.Answer → Metadata
  | ⟨.writeStatus _ o, .ok stored⟩ => (o.adoptVersion stored).metadata
  | ⟨.writeFinalizers _ o, .ok stored⟩ => (o.adoptVersion stored).metadata
  | _ => hand

namespace Program

variable {K : Kind} {α β : Type} {ends : Metadata → α → Prop} {fails : StoreFailure → α → Prop}
  {hand : Metadata}

/-- A program writes nothing but the object in hand.  It ends with what is in hand then, and it
ends at once where a write is refused. -/
def Guards (K : Kind) (ends : Metadata → α → Prop) (fails : StoreFailure → α → Prop) :
    Pass α → Metadata → Prop
  | done result, hand => ends hand result
  | overflow, _ => True
  | ask operation next, hand => operation.WritesHand K hand ∧ ∀ answer,
      match Exchange.refusal? ⟨operation, answer⟩ with
      | some cause => ∃ result, next answer = done result ∧ fails cause result
      | none => (next answer).Guards K ends fails (Exchange.handAfter hand ⟨operation, answer⟩)

theorem guards_bind {ends' : Metadata → β → Prop} {fails' : StoreFailure → β → Prop}
    {program : Pass α} {f : α → Pass β} (first : program.Guards K ends fails hand)
    (second : ∀ hand result, ends hand result → (f result).Guards K ends' fails' hand)
    (stops : ∀ cause result, fails cause result →
      ∃ result', f result = done result' ∧ fails' cause result') :
  (program.bind f).Guards K ends' fails' hand
  := by
  induction program generalizing hand with
  | done result => exact second hand result first
  | overflow => trivial
  | ask operation next ih =>
    obtain ⟨writes, goes⟩ := first
    refine ⟨writes, fun answer => ?_⟩
    have goes := goes answer
    split
    · rename_i refused
      rw [refused] at goes
      obtain ⟨result, ended, failed⟩ := goes
      obtain ⟨result', same, failed'⟩ := stops _ result failed
      exact ⟨result', (congrArg (·.bind f) ended).trans same, failed'⟩
    · rename_i accepted
      rw [accepted] at goes
      exact ih answer goes

/-- A program that writes nothing leaves what is in hand to the one that follows it. -/
theorem guards_bind_of_asks {ends : Metadata → β → Prop} {fails : StoreFailure → β → Prop}
    {program : Pass α} {f : α → Pass β} (silent : program.Asks (·.isWrite = false))
    (second : ∀ course result, program.Takes course (some result) →
      (f result).Guards K ends fails hand) :
  (program.bind f).Guards K ends fails hand
  := by
  induction program with
  | done result => exact second [] result (.done result)
  | overflow => trivial
  | ask operation next ih =>
    obtain ⟨reads, silent⟩ := silent
    have answered (answer : operation.Answer) :
        ((next answer).bind f).Guards K ends fails hand :=
      ih answer (silent answer) fun course result takes => second _ result (.answered takes)
    cases operation with
    | writeStatus | writeFinalizers => cases reads
    | load | readSecret | logIn | send | count => exact ⟨trivial, answered⟩

end Program

/-- The outcome is that an object was not written for a cause. -/
def PassFailure.Persists {ρ σ : Type} (cause : StoreFailure) (outcome : Except PassFailure ρ × σ) :
    Prop :=
  outcome.1 = .error (.persistence cause)

namespace Task

variable {K : Kind}

/-- The task that a step leaves has in hand what is in hand after the step. -/
def HasInHand (hand : Metadata) (outcome : Except PassFailure Unit × Task K) : Prop :=
  outcome.1 = .ok () ∧ outcome.2.object.metadata = hand

/-- A move writes the status of the object in hand. -/
theorem guards_move (t : Task K) (settings : PassSettings) (move : Move) (now : Instant) :
  (t.move settings move now).Guards K (fun _ _ => True) PassFailure.Persists t.object.metadata
  := by
  apply guards_bind_of_asks asks_ofOption
  rintro - (_ | duration) -
  · refine ⟨⟨rfl, rfl⟩, ?_⟩
    rintro (cause | stored)
    · exact ⟨_, rfl, rfl⟩
    · change Guards _ _ _ (if _ then _ else _) _
      split
      · exact ⟨trivial, fun _ => trivial⟩
      · trivial
  · exact ⟨trivial, fun _ => trivial⟩

/-- A write of finalizers writes the object in hand if it keeps the finalizers of others. -/
theorem guards_writeFinalizers (t : Task K) {o : Object K} {finalizers : List String}
    (same : o.metadata = { t.object.metadata with finalizers := some finalizers })
    (others : ∀ finalizer ∈ t.object.metadata.finalizerList, finalizer ≠ K.finalizer →
      finalizer ∈ finalizers) :
  (t.writeFinalizers o).Guards K HasInHand PassFailure.Persists t.object.metadata
  := by
  refine ⟨⟨rfl, finalizers, same, others⟩, ?_⟩
  rintro (cause | stored)
  · exact ⟨_, rfl, rfl⟩
  · exact ⟨rfl, rfl⟩

theorem guards_keep (t : Task K) :
  t.keep.Guards K HasInHand PassFailure.Persists t.object.metadata
  := by
  rw [keep]
  split
  · exact ⟨rfl, rfl⟩
  · apply t.guards_writeFinalizers rfl
    intro finalizer found _
    apply List.mem_append_left _ found

theorem guards_letGo (t : Task K) :
  t.letGo.Guards K HasInHand PassFailure.Persists t.object.metadata
  := by
  rw [letGo]
  split
  · apply t.guards_writeFinalizers rfl
    intro finalizer found other
    apply List.mem_filter.mpr ⟨found, by simpa using other⟩
  · exact ⟨rfl, rfl⟩

theorem guards_carryOut (t : Task K) (settings : PassSettings) (now : Instant)
    (decision : Decision) :
  (t.carryOut settings now decision).Guards K (fun _ _ => True) PassFailure.Persists
    t.object.metadata
  := by
  cases decision with
  | rest | wait => trivial
  | move move => apply guards_move
  | fail cause => exact ⟨trivial, fun _ => guards_move ..⟩
  | enroll =>
    apply guards_bind t.guards_keep
    · rintro _ ⟨_, t'⟩ ⟨rfl, rfl⟩
      apply guards_move
    · rintro cause ⟨_, t'⟩ ⟨⟩
      exact ⟨_, rfl, rfl⟩
  | release =>
    apply guards_bind t.guards_letGo
    · rintro _ ⟨_, t'⟩ ⟨rfl, rfl⟩
      trivial
    · rintro cause ⟨_, t'⟩ ⟨⟩
      exact ⟨_, rfl, rfl⟩

/-- The work of a phase writes nothing and keeps the metadata, so that what is carried out after
it is done with the object in hand. -/
theorem guards_proceed (t : Task K) (settings : PassSettings) (actor : Actor) (now : Instant) :
  (t.proceed settings actor now).Guards K (fun _ _ => True) PassFailure.Persists
    t.object.metadata
  := by
  cases preempting : t.object.preempting? settings now with
  | some move =>
    rw [proceed_of_preempting preempting]
    apply guards_move
  | none =>
    rw [proceed_of_unpreempted preempting]
    apply guards_bind_of_asks
    · exact (Work.asks_ofPhase ..).mono fun _ => Operation.isWrite_of_sendsOnly
    · rintro course ⟨decision, o⟩ works
      rw [← (Work.leads works).keeps.metadata]
      exact guards_carryOut ⟨o, t.history⟩ settings now decision

end Task

/-- Once a pass loaded its object, it writes only what it has in hand, and fails where a write is
refused; if it did not load one then it ends. -/
theorem Memory.guards_pass (memory : Memory) (settings : PassSettings) (now : Instant) (K : Kind)
    (ns name : String) :
  ∃ next, memory.pass settings now K ns name = ask (.load K ns name) next ∧
    (∀ answer, (∀ o, answer ≠ .ok (some o)) → ∃ result, next answer = done result) ∧
    ∀ o, (next (.ok (some o))).Guards K (fun _ _ => True) PassFailure.Persists o.metadata
  := by
  refine ⟨_, rfl, ?_, ?_⟩
  · rintro (cause | _ | o) other
    · exact ⟨_, rfl⟩
    · exact ⟨_, rfl⟩
    · cases other o rfl
  · intro o
    change Guards _ _ _ (if _ then _ else _) _
    split
    · trivial
    apply guards_bind_of_asks ((TokenCache.asks_authenticate ..).mono fun _ => And.right)
    rintro course ⟨cause | bearer, tokens⟩ -
    · trivial
    · apply guards_bind (Task.guards_proceed ⟨o, memory.writes⟩ settings ⟨bearer, ns⟩ now)
      · exact fun _ _ _ => trivial
      · rintro cause ⟨_, t⟩ ⟨⟩
        exact ⟨_, rfl, rfl⟩

end CloudOperator
