import CloudOperator.Cluster.Client
import CloudOperator.Proofs.Reading
import CloudOperator.Proofs.Stored

/-!
# What a cluster makes of the operations

A cluster applies a patch that was made for the version of the object that is stored, and gives
the object a version; it refuses any other patch as a conflict.  `Cluster.Serves` lists how it
answers requests, and `Cluster.serves_answer` says that the cluster that `Cluster/Server` defines
answers so.

A write of an object that tells the names and a version is then applied or refused for its version
(`Cluster.served_write_iff`), and what it is not about stays as it is (`Cluster.Spares`).
-/

namespace CloudOperator

open Program

variable {K : Kind} {ns name : String}

/-! ## Requests about an object -/

/-- The names of an object can stand in its path, and lead to it. -/
structure ClusterPath.IsPlain (K : Kind) (ns name : String) : Prop where
  named : name ≠ ""
  whole : '/' ∉ ns.toList ∧ '/' ∉ name.toList
  plain : ∀ ofStatus, ∀ c ∈ (ofObject K ns name ofStatus).toList,
    Target.isPathChar c = true ∧ Target.isPathEnd c = false
  short : ∀ ofStatus, (ofObject K ns name ofStatus).utf8ByteSize < Target.maxLength

/-- There is a request about an object of plain names, and it leads to the object. -/
theorem ClusterRequest.about?_of_isPlain (plain : ClusterPath.IsPlain K ns name)
    (verb : ClusterVerb) (patch : Option Json) :
  ∃ r, about? verb K ns name patch = some r ∧ r.patch = patch ∧
    r.place? = some (K.place ns name) ∧ (patch.isSome → verb ≠ .get → r.verb = verb)
  := by
  have leads := ClusterPath.destination?_ofObject K plain.whole.1 plain.whole.2
    (verb = .patchStatus)
  refine ⟨_, about?_eq plain.named (plain.plain _) (plain.short _), rfl, ?_, ?_⟩
  · rw [place?, leads]
    rfl
  · intro given writes
    obtain ⟨patch, rfl⟩ := Option.isSome_iff_exists.mp given
    rw [ClusterRequest.verb, leads]
    cases verb with
    | get => cases writes rfl
    | patch => rfl
    | patchStatus => rfl

theorem Object.ofAnswer_eq_ok {json : Json} {o : Object K} :
  ofAnswer K json = .ok o ↔ decode K json = some o
  := by
  rw [ofAnswer]
  cases decode K json with
  | none => exact iff_of_false nofun nofun
  | some o' => rw [Except.ok.injEq, Option.some_inj]

namespace Cluster

/-- How a cluster answers a request, by the object at a place before it and after it. -/
inductive Serves (place : ClusterPlace) (stored : Json) :
    ClusterRequest → ClusterAnswer → Json → Prop
  | elsewhere {r : ClusterRequest} (other : r.place? ≠ some place) (answer : ClusterAnswer) :
      Serves place stored r answer stored
  | read {r : ClusterRequest} (here : r.place? = some place) (reads : r.patch = none) :
      Serves place stored r (.ok stored) stored
  | unread {r : ClusterRequest} (here : r.place? = some place) (reads : r.patch = none)
      (status : Nat) : Serves place stored r (.error status) stored
  | applied {r : ClusterRequest} {patch : Json} (here : r.place? = some place)
      (writes : r.patch = some patch) (current : version? patch = version? stored)
      (version : String) :
      Serves place stored r (.ok (stamped (patched r.verb stored patch) version))
        (stamped (patched r.verb stored patch) version)
  | refused {r : ClusterRequest} {patch : Json} (here : r.place? = some place)
      (writes : r.patch = some patch) (stale : version? patch ≠ version? stored) :
      Serves place stored r (.error StoreFailure.conflictStatus) stored

/-- A cluster with its own way to give versions serves the objects that it stores. -/
theorem serves_answer {cluster : Cluster} {place : ClusterPlace} {stored : Json}
    {r : ClusterRequest} (found : Table.find? cluster place = some stored)
    (here : r.place? = some place) :
  ∃ stored', Serves place stored r (cluster.answer r).1 stored' ∧
    (stored' = stored ∧ (cluster.answer r).2 = cluster ∨
      (cluster.answer r).2 = cluster.settle place stored')
  := by
  rw [answer, here]
  dsimp only
  rw [answerAt, found]
  cases writes : r.patch with
  | none => exact ⟨stored, .read here writes, .inl ⟨rfl, rfl⟩⟩
  | some patch =>
    dsimp only
    split
    · rw [bump_eq_stamped]
      exact ⟨_, .applied here writes ‹_› _, .inr rfl⟩
    · exact ⟨stored, .refused here writes ‹_›, .inl ⟨rfl, rfl⟩⟩

variable {place : ClusterPlace} {stored stored' : Json}

/-- The requests of a program are answered, by the object at a place before them and after
them. -/
inductive Served (place : ClusterPlace) {α : Type} :
    Program (fun _ : ClusterRequest => ClusterAnswer) α → Json → α → Json → Prop
  | done (result : α) (stored : Json) : Served place (.done result) stored result stored
  | asked {r : ClusterRequest}
      {next : ClusterAnswer → Program (fun _ : ClusterRequest => ClusterAnswer) α}
      {answer : ClusterAnswer} {result : α} {stored stored' stored'' : Json}
      (first : Serves place stored r answer stored')
      (rest : Served place (next answer) stored' result stored'') :
      Served place (.ask r next) stored result stored''

theorem served_done {α : Type} {result result' : α} :
  Served place (.done result) stored result' stored' ↔ result' = result ∧ stored' = stored
  := by
  constructor
  · rintro ⟨⟩
    exact ⟨rfl, rfl⟩
  · rintro ⟨rfl, rfl⟩
    apply Served.done

theorem served_question_bind {α : Type} {r : ClusterRequest} {result : α}
    {next : ClusterAnswer → Program (fun _ : ClusterRequest => ClusterAnswer) α} :
  Served place ((Program.question r).bind next) stored result stored' ↔
    ∃ answer between, Serves place stored r answer between ∧
      Served place (next answer) between result stored'
  := by
  constructor
  · rintro (_ | ⟨first, rest⟩)
    exact ⟨_, _, first, rest⟩
  · rintro ⟨answer, between, first, rest⟩
    exact .asked first rest

/-- A load leaves the object. -/
theorem Served.eq_of_load {answer : Except StoreFailure (Option (Object K))}
    (h : Served place (ClusterRequest.load Program.question K ns name) stored answer stored') :
  stored' = stored
  := by
  rw [ClusterRequest.load] at h
  cases about : ClusterRequest.about? .get K ns name none with
  | none =>
    rw [about] at h
    exact (served_done.mp h).2
  | some r =>
    rw [about] at h
    obtain ⟨given, between, serves, returns⟩ := served_question_bind.mp h
    have reads : r.patch = none := by
      rw [ClusterRequest.about?] at about
      split at about
      · cases about
      · obtain ⟨path, -, rfl⟩ := Option.map_eq_some_iff.mp about
        rfl
    obtain rfl : between = stored := by
      cases serves with
      | elsewhere | read | unread | refused => rfl
      | applied here writes =>
        rw [reads] at writes
        cases writes
    cases given with
    | ok json => exact (served_done.mp returns).2
    | error status =>
      dsimp only at returns
      split at returns
      · exact (served_done.mp returns).2
      · exact (served_done.mp returns).2

/-- The object that is loaded is the one that is stored. -/
theorem Served.decode_of_load (plain : ClusterPath.IsPlain K ns name) {o : Object K}
    (h : Served (K.place ns name) (ClusterRequest.load Program.question K ns name) stored
      (.ok (some o)) stored') :
  Object.decode K stored = some o
  := by
  obtain ⟨r, about, reads, here, -⟩ := ClusterRequest.about?_of_isPlain plain .get none
  rw [ClusterRequest.load, about] at h
  obtain ⟨given, between, serves, returns⟩ := served_question_bind.mp h
  cases serves with
  | elsewhere other => cases other here
  | applied here writes | refused here writes =>
    rw [reads] at writes
    cases writes
  | read =>
    obtain ⟨told, -⟩ := served_done.mp returns
    apply Object.ofAnswer_eq_ok.mp
    cases answered : Object.ofAnswer K stored with
    | ok o' =>
      rw [answered] at told
      cases told
      rfl
    | error cause =>
      rw [answered] at told
      cases told
  | unread here reads status =>
    dsimp only at returns
    split at returns
    · cases (served_done.mp returns).1
    · cases (served_done.mp returns).1

theorem served_load (plain : ClusterPath.IsPlain K ns name) {o : Object K}
    (reads : Object.decode K stored = some o) :
  Served (K.place ns name) (ClusterRequest.load Program.question K ns name) stored (.ok (some o))
    stored
  := by
  obtain ⟨r, about, unpatched, here, -⟩ := ClusterRequest.about?_of_isPlain plain .get none
  rw [ClusterRequest.load, about]
  refine served_question_bind.mpr ⟨_, _, .read here unpatched, ?_⟩
  dsimp only
  rw [Object.ofAnswer_eq_ok.mpr reads]
  apply Served.done

/-- A write of an object is applied if it is made for the version that is stored, and else it is a
conflict. -/
theorem served_write_iff (plain : ClusterPath.IsPlain K ns name) {verb : ClusterVerb}
    (writes : verb ≠ .get) {o : Object K} (named : o.metadata.name = some name)
    (placed : o.metadata.ns = some ns) {version : String}
    (told : o.metadata.resourceVersion = some version) {patch : String → Json}
    (guarded : version? (patch version) = some version)
    {answer : Except StoreFailure (Object K)} :
  Served (K.place ns name) (ClusterRequest.write Program.question verb o patch) stored answer
      stored' ↔
    (version? stored = some version ∧ answer = Object.ofAnswer K stored' ∧
      ∃ version', stored' = stamped (patched verb stored (patch version)) version') ∨
    version? stored ≠ some version ∧ answer = .error (.conflict ns name) ∧ stored' = stored
  := by
  obtain ⟨r, about, patches, here, verb_eq⟩ :=
    ClusterRequest.about?_of_isPlain plain verb (some (patch version))
  have place_eq : o.ns = ns := by
    rw [Object.ns, placed]
    rfl
  have name_eq : o.metadata.displayName = name := by
    rw [Metadata.displayName, named]
    rfl
  rw [ClusterRequest.write, place_eq, name_eq, told]
  dsimp only
  rw [about]
  apply served_question_bind.trans
  constructor
  · rintro ⟨given, between, serves, returns⟩
    cases serves with
    | elsewhere other => cases other here
    | read here reads | unread here reads =>
      rw [patches] at reads
      cases reads
    | applied here writes' current version' =>
      rw [patches] at writes'
      cases writes'
      rw [verb_eq rfl writes] at returns
      obtain ⟨rfl, rfl⟩ := served_done.mp returns
      rw [guarded] at current
      exact .inl ⟨current.symm, rfl, version', rfl⟩
    | refused here writes' stale =>
      rw [patches] at writes'
      cases writes'
      obtain ⟨rfl, rfl⟩ := served_done.mp returns
      rw [guarded] at stale
      exact .inr ⟨stale.symm, rfl, rfl⟩
  · rintro (⟨current, rfl, version', rfl⟩ | ⟨stale, rfl, rfl⟩)
    · rw [← guarded] at current
      refine ⟨_, _, .applied here patches current.symm version', ?_⟩
      rw [verb_eq rfl writes]
      apply Served.done
    · rw [← guarded] at stale
      exact ⟨_, _, .refused here patches stale.symm, .done ..⟩

/-- A write of the object in hand is applied if the version in hand is the stored one, and else it
is a conflict. -/
theorem Served.cases_of_describes (plain : ClusterPath.IsPlain K ns name) {verb : ClusterVerb}
    (writes : verb ≠ .get) {hand : Metadata} {source : Json}
    (describes : hand.Describes ns name source) (kept : IsKept ns name source) {o : Object K}
    (named : o.metadata.name = hand.name) (placed : o.metadata.ns = hand.ns)
    (told : o.metadata.resourceVersion = hand.resourceVersion) {patch : String → Json}
    (guarded : ∀ version, version? (patch version) = some version)
    {answer : Except StoreFailure (Object K)}
    (h : Served (K.place ns name) (ClusterRequest.write Program.question verb o patch) stored answer
      stored') :
  (version? stored = version? source ∧ answer = Object.ofAnswer K stored' ∧
      ∃ version version', stored' = stamped (patched verb stored (patch version)) version') ∨
    version? stored ≠ version? source ∧ answer = .error (.conflict ns name) ∧ stored' = stored
  := by
  obtain ⟨version, known⟩ := Option.isSome_iff_exists.mp kept.version
  rw [describes.name] at named
  rw [describes.ns] at placed
  rw [describes.version, known] at told
  rw [known]
  obtain ⟨current, answered, version', same⟩ | refused :=
    (served_write_iff plain writes named placed told (guarded version)).mp h
  · exact .inl ⟨current, answered, version, version', same⟩
  · exact .inr refused

/-! ## What is kept -/

theorem Serves.kept {r : ClusterRequest} {answer : ClusterAnswer}
    (h : Serves place stored r answer stored') (kept : IsKept ns name stored) :
  IsKept ns name stored'
  := by
  cases h with
  | elsewhere | read | unread | refused => exact kept
  | applied here writes current version => exact (kept.patched ..).stamped version

theorem Served.kept {α : Type} {program : Program (fun _ : ClusterRequest => ClusterAnswer) α}
    {result : α} (h : Served place program stored result stored')
    (kept : IsKept ns name stored) :
  IsKept ns name stored'
  := by
  induction h with
  | done result stored => exact kept
  | asked first rest ih => exact ih (first.kept kept)

/-- Two forms of an object differ at most in the metadata and in some members. -/
structure Spares (members metadata : List String) (json json' : Json) : Prop where
  members : ∀ member, member ≠ "metadata" → member ∉ members →
    json'.get? member = json.get? member
  metadata : ∀ member, member ∉ metadata →
    json'.at? ["metadata", member] = json.at? ["metadata", member]

/-- A write of the status spares all but the status and the version. -/
theorem spares_patchStatus (json patch : Json) (version : String) :
  Spares ["status"] ["resourceVersion"] json (stamped (patched .patchStatus json patch) version)
  where
  members member rest other := by
    rw [List.mem_singleton] at other
    rw [stamped, metadataPatch, Json.get?_mergePatch_of_ne _ _ rest, patched,
      Json.get?_mergePatch_of_ne _ _ other]
  metadata member other := by
    rw [List.mem_singleton] at other
    rw [stamped, Json.at?_metadataPatch_of_ne _ _ other, patched,
      Json.at?_mergePatch_of_ne _ _ (by decide)]

/-- A write of the finalizers spares all but the finalizers and the version. -/
theorem spares_patch (json patch : Json) (version : String) :
  Spares [] ["resourceVersion", "finalizers"] json (stamped (patched .patch json patch) version)
  where
  members member rest _ := by
    rw [stamped, metadataPatch, Json.get?_mergePatch_of_ne _ _ rest, patched, metadataPatch,
      Json.get?_mergePatch_of_ne _ _ rest]
  metadata member other := by
    simp only [List.mem_cons, List.not_mem_nil, or_false, not_or] at other
    rw [stamped, Json.at?_metadataPatch_of_ne _ _ other.1, patched,
      Json.at?_metadataPatch_of_ne _ _ other.2]

theorem Spares.finalizers {members metadata : List String} {json json' : Json}
    (h : Spares members metadata json json') (spared : "finalizers" ∉ metadata) :
  finalizers json' = finalizers json
  := by
  rw [Cluster.finalizers, h.metadata _ spared, Cluster.finalizers]

/-- The finalizers that are written are stored. -/
theorem finalizers_finalizersPatch (json : Json) (o : Object K) (version version' : String) :
  finalizers (stamped (patched .patch json (o.finalizersPatch version)) version') =
    o.metadata.finalizerList.map .text
  := by
  have given : (o.finalizersPatch version).at? ["metadata", "finalizers"] =
      some (.array (o.metadata.finalizerList.map .text)) := rfl
  rw [finalizers, stamped, Json.at?_metadataPatch_of_ne _ _ (by decide), patched, given,
    Option.getD_some, Json.at?_metadataPatch_self json _ (by simp) fun _ => rfl]

end Cluster

/-! ## Operations -/

/-- A write is applied: what is stored after it is what its patch makes of what was stored, with a
version. -/
def Operation.Applies (json json' : Json) : Operation → Prop
  | writeStatus _ o => ∃ version version',
      json' = Cluster.stamped (Cluster.patched .patchStatus json (o.statusPatch version)) version'
  | writeFinalizers _ o => ∃ version version',
      json' = Cluster.stamped (Cluster.patched .patch json (o.finalizersPatch version)) version'
  | _ => False

/-- What an operation is not about stays as it is: a write of the status leaves all else, a write
of the finalizers all else and the finalizers of others, and nothing else changes anything. -/
def Operation.SparesOthers (json json' : Json) : Operation → Prop
  | writeStatus _ _ => Cluster.Spares ["status"] ["resourceVersion"] json json'
  | writeFinalizers K _ =>
    Cluster.Spares [] ["resourceVersion", "finalizers"] json json' ∧
      ∀ finalizer ∈ Cluster.finalizers json, finalizer ≠ .text K.finalizer →
        finalizer ∈ Cluster.finalizers json'
  | _ => json' = json

/-- How an operation is carried out, by the object at a place before it and after it.  What is not
about objects leaves them. -/
def Operation.IsServed (place : ClusterPlace) (stored : Json) :
    (operation : Operation) → operation.Answer → Json → Prop
  | load K ns name, answer, stored' =>
    Cluster.Served place (ClusterRequest.load Program.question K ns name) stored answer stored'
  | writeStatus _ o, answer, stored' =>
    Cluster.Served place (ClusterRequest.writeStatus Program.question o) stored answer stored'
  | writeFinalizers _ o, answer, stored' =>
    Cluster.Served place (ClusterRequest.writeFinalizers Program.question o) stored answer stored'
  | readSecret _, _, stored' | logIn _ _, _, stored' | send _, _, stored' | count _, _, stored' =>
    stored' = stored

namespace Operation.IsServed

variable {operation : Operation} {answer : operation.Answer} {place : ClusterPlace}
  {stored stored' : Json}

theorem kept (h : operation.IsServed place stored answer stored')
    (kept : Cluster.IsKept ns name stored) :
  Cluster.IsKept ns name stored'
  := by
  cases operation with
  | load | writeStatus | writeFinalizers => exact Cluster.Served.kept h kept
  | readSecret | logIn | send | count => exact h ▸ kept

/-- Only a write changes an object. -/
theorem eq_of_isWrite (h : operation.IsServed place stored answer stored')
    (reads : operation.isWrite = false) :
  stored' = stored
  := by
  cases operation with
  | load => exact Cluster.Served.eq_of_load h
  | writeStatus | writeFinalizers => cases reads
  | readSecret | logIn | send | count => exact h

end Operation.IsServed

end CloudOperator
