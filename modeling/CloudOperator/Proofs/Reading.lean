import CloudOperator.Proofs.Patch
import CloudOperator.Reconcile.Move

/-!
# What is read of an object

An object that is read from the JSON that a cluster keeps tells the name, the version and the
finalizers that stand there (`Object.describes_decode`).
-/

namespace CloudOperator

namespace Json

/-- Of members that have different names, each counts. -/
theorem lookup_lastOfEach {members : List (String × Json)} (nodup : (members.map (·.1)).Nodup)
    (name : String) :
  (lastOfEach members).lookup name = members.lookup name
  := by
  suffices general : ∀ kept : List (String × Json),
      (members.foldl (fun kept member => insertMember member.1 member.2 kept) kept).lookup name =
        (members.lookup name).or (kept.lookup name) by
    apply (general []).trans
    rw [List.lookup_nil, Option.or_none]
  intro kept
  induction members generalizing kept with
  | nil => rfl
  | cons member members ih =>
    obtain ⟨name₁, value⟩ := member
    obtain ⟨fresh, nodup⟩ := List.nodup_cons.mp nodup
    rw [List.foldl_cons, ih nodup, lookup_cons, lookup_insertMember]
    by_cases same : name = name₁
    · have absent : members.lookup name = none := by
        rw [List.lookup_eq_none_iff]
        intro member found
        rw [bne_iff_ne, same]
        intro again
        apply fresh
        rw [again]
        apply List.mem_map_of_mem found
      rw [absent, if_pos same, if_pos same]
      rfl
    · rw [if_neg same, if_neg same]

end Json

namespace Fields

variable {α β : Type} {f : Fields α} {g : Fields β} {members : List (String × Json)}

theorem decode_and {a : α} {b : β} :
  (f >> g).decode members = some (a, b) ↔ f.decode members = some a ∧ g.decode members = some b
  := by
  change (do return (← f.decode members, ← g.decode members)) = some (a, b) ↔ _
  cases f.decode members <;> cases g.decode members <;> simp

theorem decode_required {name : String} {codec : Codec α} {a : α} :
  (required name codec).decode members = some a ↔
    ∃ json, members.lookup name = some json ∧ codec.decode json = some a
  := Option.bind_eq_some_iff

theorem decode_as {forth : α → β} {back : β → α} {b : β} :
  (f.as forth back).decode members = some b ↔ ∃ a, f.decode members = some a ∧ forth a = b
  := Option.map_eq_some_iff

end Fields

variable {K : Kind} {ns name : String} {json : Json}

/-- The fields of metadata are read one by one. -/
theorem Metadata.decode_fields {members : List (String × Json)} {m : Metadata}
    (reads : Metadata.fields.decode members = some m) :
  Fields.decodeOptional "name" .text members = some m.name ∧
    Fields.decodeOptional "namespace" .text members = some m.ns ∧
    Fields.decodeOptional "resourceVersion" .text members = some m.resourceVersion ∧
    Fields.decodeOptional "finalizers" (.list .text) members = some m.finalizers
  := by
  rw [fields, Fields.decode_as] at reads
  obtain ⟨⟨annotations, created, grace, deleted, finalizers, generateName, generation, labels,
    managed, name, ns, owners, version, link, uid⟩, reads, rfl⟩ := reads
  simp only [Fields.decode_and] at reads
  obtain ⟨-, -, -, -, finalizers, -, -, -, -, name, ns, -, version, -, -⟩ := reads
  exact ⟨name, ns, version, finalizers⟩

/-- The parts of an object are read one by one. -/
theorem Object.decode_object_iff {members : List (String × Json)} {o : Object K} :
  decode K (.object members) = some o ↔ (fields K).Distinct members ∧
    (∃ json, members.lookup "metadata" = some json ∧
      Metadata.codec.decode json = some o.metadata) ∧
    (∃ json, members.lookup "spec" = some json ∧
      (Codec.record K.specFields).decode json = some o.spec) ∧
    Fields.decodeOptional "status" (Status.codec K) members = some o.status
  := by
  rw [decode, Fields.decodeDistinct, Option.ite_none_right_eq_some, fields, Fields.decode_as]
  apply and_congr_right
  intro _
  rw [← Fields.decode_required, ← Fields.decode_required]
  constructor
  · rintro ⟨⟨metadata, spec, status⟩, reads, rfl⟩
    rw [Fields.decode_and, Fields.decode_and] at reads
    exact reads
  · intro reads
    refine ⟨(o.metadata, o.spec, o.status), ?_, rfl⟩
    rw [Fields.decode_and, Fields.decode_and]
    exact reads

/-- An object is read from the metadata that stand in its JSON. -/
theorem Object.metadata_decode {o : Object K} (kept : Cluster.IsKept ns name json)
    (reads : decode K json = some o) :
  Metadata.fields.decode (Json.lastOfEach json.metadata.members) = some o.metadata
  := by
  obtain ⟨members, rfl⟩ : ∃ members, json = .object members := by
    cases json with
    | object members => exact ⟨members, rfl⟩
    | _ => cases kept.name
  obtain ⟨-, ⟨value, found, reads⟩, -⟩ := decode_object_iff.mp reads
  rw [Json.metadata, Json.get?, Json.members, found, Option.getD_some]
  cases value with
  | object members =>
    change (if _ then _ else none) = _ at reads
    split at reads
    · exact reads
    · cases reads
  | _ => cases reads

theorem Cluster.version?_eq_some {version : String} :
  version? json = some version ↔ json.at? ["metadata", "resourceVersion"] = some (.text version)
  := by
  rw [version?]
  split
  · rename_i found
    rw [found, Option.some_inj, Option.some_inj, Json.text.injEq]
  · rename_i other
    refine iff_of_false ?_ (other version)
    intro told
    cases told

/-- Texts are read as they stand. -/
theorem Codec.decode_list_text {items : List Json} {texts : List String}
    (reads : (Codec.list .text).decode (.array items) = some texts) :
  items = texts.map .text
  := by
  change items.mapM Codec.text.decode = some texts at reads
  induction items generalizing texts with
  | nil =>
    cases reads
    rfl
  | cons item items ih =>
    rw [List.mapM_cons] at reads
    obtain ⟨text, first, goes⟩ := Option.bind_eq_some_iff.mp reads
    obtain ⟨texts, rest, ⟨⟩⟩ := Option.bind_eq_some_iff.mp goes
    rw [ih rest]
    cases item with
    | text value =>
      cases first
      rfl
    | _ => cases first

/-- Metadata tell the names, the version and the finalizers of an object that a cluster keeps. -/
structure Metadata.Describes (m : Metadata) (ns name : String) (json : Json) : Prop where
  name : m.name = some name
  ns : m.ns = some ns
  version : m.resourceVersion = Cluster.version? json
  finalizers : Cluster.finalizers json = m.finalizerList.map .text

/-- The metadata that are read of an object describe it. -/
theorem Object.describes_decode {o : Object K} (kept : Cluster.IsKept ns name json)
    (reads : decode K json = some o) :
  o.metadata.Describes ns name json
  := by
  obtain ⟨version, told⟩ := Option.isSome_iff_exists.mp kept.version
  have found (member : String) : (Json.lastOfEach json.metadata.members).lookup member =
      json.at? ["metadata", member] := by
    rw [Json.lookup_lastOfEach kept.distinct, Json.at?_metadata]
    rfl
  obtain ⟨reads_name, reads_ns, reads_version, reads_finalizers⟩ :=
    Metadata.decode_fields (metadata_decode kept reads)
  rw [Fields.decodeOptional, found] at reads_name reads_ns reads_version reads_finalizers
  rw [kept.name] at reads_name
  rw [kept.ns] at reads_ns
  rw [Cluster.version?_eq_some.mp told] at reads_version
  constructor
  · exact (Option.some.inj reads_name).symm
  · exact (Option.some.inj reads_ns).symm
  · rw [told]
    exact (Option.some.inj reads_version).symm
  · rw [Cluster.finalizers, Metadata.finalizerList]
    split at reads_finalizers
    · rename_i absent
      rw [absent, ← Option.some.inj reads_finalizers]
      rfl
    · rename_i absent
      rw [absent, ← Option.some.inj reads_finalizers]
      rfl
    · rename_i given
      obtain ⟨texts, reads, same⟩ := Option.map_eq_some_iff.mp reads_finalizers
      rw [given, ← same]
      cases ‹Json› with
      | array items => exact Codec.decode_list_text reads
      | _ => cases reads

/-- Metadata that were written describe what is stored then, with the version of it. -/
theorem Object.describes_adoptVersion {o stored : Object K} (kept : Cluster.IsKept ns name json)
    (reads : decode K json = some stored) (named : o.metadata.name = some name)
    (placed : o.metadata.ns = some ns)
    (finalizers : Cluster.finalizers json = o.metadata.finalizerList.map .text) :
  (o.adoptVersion stored).metadata.Describes ns name json
  := ⟨named, placed, (describes_decode kept reads).version, finalizers⟩

end CloudOperator
