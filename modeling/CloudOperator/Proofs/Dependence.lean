import CloudOperator.Cluster.Client
import CloudOperator.Proofs.Coupling
import CloudOperator.Proofs.Moves

/-!
# What a pass depends on

A pass depends on little of what surrounds it.  Its token only goes into the requests that it
sends; what was written before matters for the key of its object alone; and it loads no objects
but its own and those that the references of its object lead to.

So two passes over one object go side by side if these are the same for both, and the remote API
answers them alike, whatever else differs.

* `Work.coupled_ofPhase` says that the work of a phase goes side by side for two tokens.
* `Task.coupled_proceed` says so of all that follows the authentication, for two histories that
  agree on the key of the object.  What comes of it is the same, and the same is done to both
  histories (`Task.EndsAlike`).
-/

namespace CloudOperator

open Program

variable {K : Kind} {ns : String} {references : List (Kind × Reference)}

/-! ## The work of a phase with two tokens -/

/-- The work on an object is served alike for two tokens: the objects that its references lead to
are the same, and the remote API gives the same answers to requests that differ in the token. -/
structure Coupling.Serves (c : Coupling Operation.Answer) (ns bearer bearer' : String)
    (references : List (Kind × Reference)) : Prop where
  counts : ∀ counter, c.Shares (.count counter)
  loads : ∀ operation, operation.Resolves ns references → c.Shares operation
  sends : ∀ method path body,
    c.asks (.send ⟨method, path, bearer, body⟩) (.send ⟨method, path, bearer', body⟩)
  sent : ∀ request request' answer answer',
    c.answers (.send request) (.send request') answer answer' → answer = answer'

variable {c : Coupling Operation.Answer} {bearer bearer' : String}

/-- A program that only resolves references comes to the same on both sides. -/
theorem Coupling.Serves.coupled_self {α : Type} (h : c.Serves ns bearer bearer' references)
    {program : Pass α} (resolves : program.Asks (Operation.Resolves ns references)) :
  program.Coupled c Eq program
  := Program.coupled_self (resolves.mono h.loads)

namespace Request

variable (h : c.Serves ns bearer bearer' references) (method : Method) (path : String)
  (body : Option Json)

include h

/-- A request is answered alike with two tokens, and the same is counted. -/
theorem coupled_answer :
  Coupled c Eq (answer ⟨method, path, bearer, body⟩) (answer ⟨method, path, bearer', body⟩)
  := by
  rw [answer, answer]
  apply coupled_attempt_ask (h.sends method path body)
  intro answer answer' alike
  obtain rfl := h.sent _ _ answer answer' alike
  rcases answer with detail | response
  · exact Program.coupled_self (asks_attempt_ask (h.counts _) fun _ => trivial)
  · apply Program.coupled_self
    apply asks_attempt_ask (h.counts _)
    intro _
    split
    · trivial
    · trivial

/-- What is reported of a resource is the same for two tokens. -/
theorem coupled_report :
  Coupled c Eq (report ⟨method, path, bearer, body⟩) (report ⟨method, path, bearer', body⟩)
  := by
  apply (coupled_answer h method path body).attempt_bind
  intro answered
  apply Program.coupled_self
  split
  · trivial
  · trivial

theorem coupled_succeed :
  Coupled c Eq (succeed ⟨method, path, bearer, body⟩) (succeed ⟨method, path, bearer', body⟩)
  := by
  apply (coupled_answer h method path body).attempt_bind
  intro _
  exact .done rfl

end Request

namespace Object

/-- A creation comes to the same with two tokens that the work is served alike for. -/
theorem coupled_create {o : Object K}
    (h : c.Serves ns bearer bearer' (K.references o.spec)) :
  Coupled c Eq (o.create ⟨bearer, ns⟩) (o.create ⟨bearer', ns⟩)
  := by
  apply (h.coupled_self (Kind.asks_resolveLinks ..)).attempt_bind
  intro links
  apply (Request.coupled_report h ..).attempt_bind
  intro report
  exact .done rfl

theorem coupled_remoteState {o : Object K}
    (h : c.Serves ns bearer bearer' (K.references o.spec)) :
  Coupled c Eq (o.remoteState ⟨bearer, ns⟩) (o.remoteState ⟨bearer', ns⟩)
  := by
  apply (Request.coupled_report h ..).attempt_bind
  intro report
  exact .done rfl

/-- A deletion comes to the same with two tokens, since its request differs in the token alone. -/
theorem coupled_delete {o : Object K}
    (h : c.Serves ns bearer bearer' (K.references o.spec)) :
  Coupled c Eq (o.delete ⟨bearer, ns⟩) (o.delete ⟨bearer', ns⟩)
  := Request.coupled_succeed h ..

theorem coupled_sendUpdate {o : Object K}
    (h : c.Serves ns bearer bearer' (K.references o.spec)) (links : K.Links) :
  Coupled c Eq (o.sendUpdate ⟨bearer, ns⟩ links) (o.sendUpdate ⟨bearer', ns⟩ links)
  := Request.coupled_succeed h ..

/-- The attachments of a server are resolved, sent and recorded alike with two tokens. -/
theorem coupled_attach {o : Object .cloudServer}
    (h : c.Serves ns bearer bearer' (Kind.cloudServer.references o.spec)) :
  Coupled c Eq (o.attach ⟨bearer, ns⟩) (o.attach ⟨bearer', ns⟩)
  := by
  have resolves := (Kind.asks_resolveAttachments ns o.spec o.links).mono
    (Operation.Resolves.of_subset (Kind.attachmentReferences_subset o.spec))
  apply (h.coupled_self resolves).attempt_bind
  intro links
  apply (coupled_sendUpdate h links).attempt_bind
  intro _
  exact .done rfl

/-- The data volumes of a server are brought in line alike with two tokens. -/
theorem coupled_syncVolumes {o : Object .cloudServer}
    (h : c.Serves ns bearer bearer' (Kind.cloudServer.references o.spec)) :
  Coupled c Eq (o.syncVolumes ⟨bearer, ns⟩) (o.syncVolumes ⟨bearer', ns⟩)
  := by
  apply (h.coupled_self (o.asks_volumeChange ⟨bearer, ns⟩)).attempt_bind
  rintro ⟨change, desired⟩
  dsimp only
  split
  · exact .done rfl
  · apply (Request.coupled_succeed h ..).attempt_bind
    intro _
    exact .done rfl

/-- An update of a server comes to the same with two tokens: its attachments are the same, and then
its data volumes are. -/
theorem coupled_updateServer {o : Object .cloudServer}
    (h : c.Serves ns bearer bearer' (Kind.cloudServer.references o.spec)) (changed : Bool) :
  (o.updateServer ⟨bearer, ns⟩ changed).Coupled c Eq (o.updateServer ⟨bearer', ns⟩ changed)
  := by
  have synced (o' : Object .cloudServer) (spec : o'.spec = o.spec) :
      Coupled c Eq (o'.syncVolumes ⟨bearer, ns⟩) (o'.syncVolumes ⟨bearer', ns⟩) :=
    coupled_syncVolumes (spec ▸ h)
  cases changed with
  | false =>
    apply (synced o rfl).bind
    rintro (cause | o') _ rfl
    · exact .done rfl
    · exact .done rfl
  | true =>
    -- the data volumes are those of the specification that the attachments are recorded beside
    apply ((coupled_attach h).of_takes fun _ _ goes => goes.ends (o.ends_attach _)).bind
    rintro (cause | o₁) _ ⟨rfl, attached⟩
    · exact .done rfl
    · apply (synced o₁ attached.spec).bind
      rintro (cause | o₂) _ rfl
      · exact .done rfl
      · exact .done rfl

/-- An update comes to the same with two tokens, whatever kind the object is of. -/
theorem coupled_update {o : Object K}
    (h : c.Serves ns bearer bearer' (K.references o.spec)) (changed : Bool) :
  (o.update ⟨bearer, ns⟩ changed).Coupled c Eq (o.update ⟨bearer', ns⟩ changed)
  := by
  cases K with
  | cloudServer => exact coupled_updateServer h changed
  | _ =>
    apply (coupled_sendUpdate h o.links).bind
    rintro result _ rfl
    exact .done rfl

theorem coupled_drift? {o : Object K}
    (h : c.Serves ns bearer bearer' (K.references o.spec)) :
  Coupled c Eq (o.drift? ⟨bearer, ns⟩) (o.drift? ⟨bearer', ns⟩)
  := by
  cases K with
  | cloudServer =>
    apply (h.coupled_self (o.asks_volumeChange ⟨bearer, ns⟩)).attempt_bind
    intro change
    exact .done rfl
  | _ => exact .done rfl

end Object

/-- The work of a phase comes to the same with two tokens that it is served alike for. -/
theorem Work.coupled_ofPhase {o : Object K} (h : c.Serves ns bearer bearer' (K.references o.spec))
    (phase : Option Phase) (settings : PassSettings) (now : Instant) :
  (ofPhase phase o ⟨bearer, ns⟩ settings now).Coupled c Eq
    (ofPhase phase o ⟨bearer', ns⟩ settings now)
  := by
  cases phase with
  | none => exact .done rfl
  | some phase =>
    cases phase with
    | creating =>
      apply (Object.coupled_create h).bind
      rintro (cause | ⟨report, o⟩) _ rfl
      · exact .done rfl
      · exact .done rfl
    | provisioning =>
      apply (Object.coupled_remoteState h).bind
      rintro (cause | state) _ rfl
      · exact .done rfl
      · exact .done rfl
    | created =>
      apply (Object.coupled_drift? h).bind
      rintro found _ rfl
      exact .done rfl
    | updating =>
      apply (Object.coupled_update h o.generationChanged).bind
      rintro result _ rfl
      exact .done rfl
    | deleting =>
      rw [ofPhase, ofPhase, delete, delete]
      split
      · exact .done rfl
      · apply (Object.coupled_delete h).bind
        rintro result _ rfl
        exact .done rfl
    | failed => exact Program.coupled_self (asks_bind asks_ofOption fun _ => trivial)

/-! ## Writes with two histories -/

namespace WriteHistory

/-- What is done to what is remembered of the writes for a key. -/
inductive Edit where
  | keep
  | record (phase : Phase) (now : Instant)
  | forget

namespace Edit

/-- The history after an edit for a key. -/
def apply (edit : Edit) (key : String) (history : WriteHistory) : WriteHistory :=
  match edit with
  | keep => history
  | record phase now => history.record key phase now
  | forget => history.forget key

variable {history history' : WriteHistory} {key key' : String}

/-- An edit for a key leaves what is remembered for other keys. -/
theorem find?_apply_of_ne (edit : Edit) (other : key ≠ key') :
  Table.find? (edit.apply key history) key' = Table.find? history key'
  := by
  cases edit with
  | keep => rfl
  | record phase now => simp [apply, WriteHistory.record, other]
  | forget => simp [apply, WriteHistory.forget, other]

/-- An edit leaves histories that agree on a key in agreement on it. -/
theorem find?_apply_congr (edit : Edit)
    (agree : Table.find? history key' = Table.find? history' key') :
  Table.find? (edit.apply key history) key' = Table.find? (edit.apply key history') key'
  := by
  cases edit with
  | keep => exact agree
  | record phase now => simp [apply, WriteHistory.record, agree]
  | forget => simp [apply, WriteHistory.forget, agree]

/-- Edits for different keys leave the same history in either order. -/
theorem find?_apply_comm (edit edit' : Edit) (different : key ≠ key') (history : WriteHistory)
    (other : String) :
  Table.find? (edit.apply key (edit'.apply key' history)) other
    = Table.find? (edit'.apply key' (edit.apply key history)) other
  := by
  by_cases own : key = other
  · subst own
    rw [find?_apply_of_ne edit' different.symm]
    exact find?_apply_congr edit (find?_apply_of_ne edit' different.symm)
  · rw [find?_apply_of_ne edit own]
    exact find?_apply_congr edit' (find?_apply_of_ne edit own).symm

end Edit

end WriteHistory

/-- A move has to wait for the writes for the key of its object, and for no other ones. -/
theorem Object.debounce?_congr {o : Object K} {history history' : WriteHistory}
    (agree : Table.find? history o.key = Table.find? history' o.key) (interval : Nat) (move : Move)
    (now : Instant) :
  o.debounce? history interval move now = o.debounce? history' interval move now
  := by
  have last : history.lastIn? o.key move.phase = history'.lastIn? o.key move.phase := by
    rw [WriteHistory.lastIn?, agree, WriteHistory.lastIn?]
  rw [debounce?, anchor?, last, debounce?, anchor?]

/-- An object has the names of another one. -/
structure Object.Namesake (o o' : Object K) : Prop where
  ns : o'.ns = o.ns
  name : o'.metadata.displayName = o.metadata.displayName

namespace Object.Namesake

variable {o o' o'' : Object K}

theorem refl (o : Object K) :
  o.Namesake o
  := ⟨rfl, rfl⟩

theorem trans (h : o.Namesake o') (h' : o'.Namesake o'') :
  o.Namesake o''
  := ⟨h'.ns.trans h.ns, h'.name.trans h.name⟩

/-- Objects with the same names have the same key. -/
theorem key (h : o.Namesake o') :
  o'.key = o.key
  := by
  rw [Object.key, h.name]
  exact congrArg (K.key · _) h.ns

theorem of_metadata (same : o'.metadata = o.metadata) :
  o.Namesake o'
  := ⟨congrArg (fun m : Metadata => m.ns.getD "") same, congrArg Metadata.displayName same⟩

end Object.Namesake

/-- An object is written alike, whatever it becomes under its names. -/
structure Coupling.Stores (c : Coupling Operation.Answer) (o : Object K) : Prop where
  counts : ∀ counter, c.Shares (.count counter)
  statuses : ∀ o', o.Namesake o' → c.Shares (.writeStatus K o')
  finalizers : ∀ o', o.Namesake o' → c.Shares (.writeFinalizers K o')

theorem Coupling.Stores.of_namesake {o o' : Object K} (h : c.Stores o) (named : o.Namesake o') :
  c.Stores o'
  where
  counts := h.counts
  statuses o'' named' := h.statuses o'' (named.trans named')
  finalizers o'' named' := h.finalizers o'' (named.trans named')

namespace Task

variable {o : Object K} {history history' : WriteHistory} {settings : PassSettings} {now : Instant}

/-- Two tasks end with the same result and the same object, and the same was done to their
histories for a key. -/
inductive EndsAlike (key : String) (history history' : WriteHistory) :
    Outcome K → Outcome K → Prop
  | edited (result : Except PassFailure Directive) (o : Object K) (edit : WriteHistory.Edit) :
      EndsAlike key history history' (result, ⟨o, edit.apply key history⟩)
        (result, ⟨o, edit.apply key history'⟩)

/-- Two tasks go on with the same object, which has the names that it had, and with their
histories. -/
inductive GoOn (o : Object K) (history history' : WriteHistory) :
    Except PassFailure Unit × Task K → Except PassFailure Unit × Task K → Prop
  | kept (result : Except PassFailure Unit) {o' : Object K} (named : o.Namesake o') :
      GoOn o history history' (result, ⟨o', history⟩) (result, ⟨o', history'⟩)

/-- A move is made alike with two histories that agree on the key of the object, and is remembered
in both. -/
theorem coupled_move (h : c.Stores o)
    (agree : Table.find? history o.key = Table.find? history' o.key) (move : Move) :
  (Task.move ⟨o, history⟩ settings move now).Coupled c (EndsAlike o.key history history')
    (Task.move ⟨o, history'⟩ settings move now)
  := by
  rw [Task.move, Task.move, Object.debounce?_congr agree]
  apply (Program.coupled_self asks_ofOption).bind
  rintro (_ | duration) _ rfl
  · apply coupled_question_bind_of_shares (h.statuses (o.moved move now) ⟨rfl, rfl⟩)
    rintro (cause | stored)
    · exact .done (.edited _ _ .keep)
    · dsimp only
      split
      · apply coupled_question_bind_of_shares (h.counts _)
        intro _
        exact .done (.edited _ _ (.record move.phase now))
      · exact .done (.edited _ _ (.record move.phase now))
  · apply coupled_question_bind_of_shares (h.counts _)
    intro _
    exact .done (.edited _ _ .keep)

/-- The finalizers are written alike, and nothing is remembered of that. -/
theorem coupled_writeFinalizers (h : c.Stores o) {o' : Object K} (named : o.Namesake o') :
  (writeFinalizers ⟨o, history⟩ o').Coupled c (GoOn o history history')
    (writeFinalizers ⟨o, history'⟩ o')
  := by
  apply coupled_question_bind_of_shares (h.finalizers o' named)
  rintro (cause | stored)
  · exact .done (.kept _ named)
  · exact .done (.kept _ ⟨named.ns, named.name⟩)

/-- An object is kept alike with two histories. -/
theorem coupled_keep (h : c.Stores o) :
  (keep ⟨o, history⟩).Coupled c (GoOn o history history') (keep ⟨o, history'⟩)
  := by
  rw [keep, keep]
  split
  · exact .done (.kept _ (.refl o))
  · exact coupled_writeFinalizers h ⟨rfl, rfl⟩

theorem coupled_letGo (h : c.Stores o) :
  (letGo ⟨o, history⟩).Coupled c (GoOn o history history') (letGo ⟨o, history'⟩)
  := by
  rw [letGo, letGo]
  split
  · exact coupled_writeFinalizers h ⟨rfl, rfl⟩
  · exact .done (.kept _ (.refl o))

/-- A decision is carried out in the same way with two histories that agree on the key of the
object. -/
theorem coupled_carryOut (h : c.Stores o)
    (agree : Table.find? history o.key = Table.find? history' o.key) (decision : Decision) :
  (carryOut ⟨o, history⟩ settings now decision).Coupled c (EndsAlike o.key history history')
    (carryOut ⟨o, history'⟩ settings now decision)
  := by
  cases decision with
  | rest => exact .done (.edited _ _ .keep)
  | wait duration => exact .done (.edited _ _ .keep)
  | move move => exact coupled_move h agree move
  | fail cause =>
    apply coupled_question_bind_of_shares (h.counts _)
    intro _
    exact coupled_move h agree _
  | enroll =>
    apply (coupled_keep h).bind
    rintro _ _ ⟨cause | _, named⟩
    · exact .done (.edited _ _ .keep)
    · rw [← named.key]
      exact coupled_move (h.of_namesake named) (named.key ▸ agree) _
  | release =>
    apply (coupled_letGo h).bind
    rintro _ _ ⟨cause | _, named⟩
    · exact .done (.edited _ _ .keep)
    · rw [← named.key]
      exact .done (.edited _ _ .forget)

/-- What follows the authentication comes to the same with two tokens that the work is served
alike for, and with two histories that agree on the key of the object. -/
theorem coupled_proceed {bearer bearer' : String}
    (serves : c.Serves ns bearer bearer' (K.references o.spec))
    (stores : c.Stores o)
    (agree : Table.find? history o.key = Table.find? history' o.key) :
  (proceed ⟨o, history⟩ settings ⟨bearer, ns⟩ now).Coupled c (EndsAlike o.key history history')
    (proceed ⟨o, history'⟩ settings ⟨bearer', ns⟩ now)
  := by
  cases preempting : o.preempting? settings now with
  | some move =>
    rw [proceed_of_preempting preempting, proceed_of_preempting preempting]
    exact coupled_move stores agree move
  | none =>
    rw [proceed_of_unpreempted preempting, proceed_of_unpreempted preempting]
    have works := (Work.coupled_ofPhase serves o.phase settings now).of_takes
      fun course result goes => (Work.leads goes).keeps.metadata
    apply works.bind
    rintro ⟨decision, o'⟩ _ ⟨rfl, metadata⟩
    have named := Object.Namesake.of_metadata metadata
    rw [← named.key]
    exact coupled_carryOut (stores.of_namesake named) (named.key ▸ agree) decision

end Task

end CloudOperator
