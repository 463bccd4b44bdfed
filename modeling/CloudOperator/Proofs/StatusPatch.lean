import CloudOperator.Cluster.Client
import CloudOperator.Proofs.Patchable

/-!
# What a write of a status stores

The patch that writes a status mentions each of its fields, so the status that is read of what it
leaves is the one that was written, whichever was stored before (`Object.decode_statusPatch`).  That
the result can be read at all is part of the statement: the members that a stored status has besides
its fields stay, and the metadata keep all members but their version.
-/

namespace CloudOperator

variable {K : Kind} {isMarker : Json → Bool}

/-! ## The fields of a status are plain -/

theorem Phase.isPlain_codec (isMarker : Json → Bool) :
  (Phase.codec isMarker).IsPlain
  where
  readsBack phase := by cases phase <;> rfl
  given _ := rfl
  replaces _ _ := rfl

theorem ConditionStatus.isPlain_codec (isMarker : Json → Bool) :
  (ConditionStatus.codec isMarker).IsPlain
  where
  readsBack status := by cases status <;> rfl
  given _ := rfl
  replaces _ _ := rfl

section

open Fields Codec

/-- The fields of a condition are read as they were written, and replace what they patch. -/
theorem Condition.isPlain_fields (isMarker : Json → Bool) :
  (Condition.fields isMarker).IsPlain
  := by
  refine IsPlain.as ?_ fun _ => rfl
  apply (isPlain_required isPlain_text).and
  apply (isPlain_required (ConditionStatus.isPlain_codec isMarker)).and
  apply (isPlain_required isPlain_text).and
  apply (isPlain_defaulted isPlain_text _).and
  apply (isPlain_required isPlain_text).described

/-- A condition is read as it was written. -/
theorem Condition.readsBack_codec (isMarker : Json → Bool) :
  (Condition.codec isMarker).ReadsBack
  := by
  apply (isPlain_fields isMarker).readsBack_record
  change ["type", "status", "reason", "message", "lastTransitionTime"].Nodup
  decide

/-- The fields that every status has are plain, the list of conditions being replaced as a whole. -/
theorem CommonStatus.isPlain_fields (isMarker : Json → Bool) :
  (CommonStatus.fields isMarker).IsPlain
  := by
  refine IsPlain.as ?_ fun _ => rfl
  apply (isPlain_nullable (Phase.isPlain_codec isMarker)).and
  apply (isPlain_defaulted isPlain_text _).and
  apply ((isPlain_defaulted isPlain_text _).described _).and
  apply (isPlain_defaulted isPlain_int64 _).and
  apply ((isPlain_nullable isPlain_text).described _).and
  apply isPlain_defaulted (isPlain_list (Condition.readsBack_codec isMarker))

theorem isPlain_linkField (name : String) :
  (linkField name).IsPlain
  := isPlain_defaulted isPlain_text _

theorem isPlain_linksField (name : String) :
  (linksField name).IsPlain
  := isPlain_defaulted (isPlain_list isPlain_text.readsBack) _

theorem ProjectLink.isPlain_fields :
  ProjectLink.fields.IsPlain
  := (isPlain_linkField _).as fun _ => rfl

theorem ServerLinks.isPlain_fields :
  ServerLinks.fields.IsPlain
  := by
  refine IsPlain.as ?_ fun _ => rfl
  iterate 2 apply (isPlain_linkField _).and
  iterate 2 apply (isPlain_linksField _).and
  iterate 3 apply (isPlain_linkField _).and
  apply (isPlain_linksField _).described

/-- The links of every kind are plain. -/
theorem Kind.isPlain_linkFields (K : Kind) :
  K.linkFields.IsPlain
  := by
  cases K with
  | project => exact isPlain_empty
  | vpc => exact ProjectLink.isPlain_fields.described _
  | keyPair | elasticIp | blockStorage => exact ProjectLink.isPlain_fields
  | subnet | securityGroup =>
    exact ((isPlain_linkField _).and (isPlain_linkField _)).as fun _ => rfl
  | securityRule =>
    exact ((isPlain_linkField _).and ((isPlain_linkField _).and (isPlain_linkField _))).as
      fun _ => rfl
  | cloudServer => exact ServerLinks.isPlain_fields

/-- The fields of a status are plain, and so none is left from before in what is patched. -/
theorem Status.isPlain_fields (K : Kind) :
  (Status.fields K).IsPlain
  := ((CommonStatus.isPlain_fields _).and K.isPlain_linkFields).as fun _ => rfl

/-- The common fields and the links have different names. -/
theorem Status.nodup_names (K : Kind) :
  (Status.fields K).names.Nodup
  := by
  cases K <;> decide

end

/-! ## A written status can be held in memory -/

namespace Json

/-- A number of 64 bits can be held. -/
theorem integerIsHoldable_toInt (n : Int64) :
  integerIsHoldable n.toInt
  := by
  have low := n.le_toInt
  have high := n.toInt_lt
  rw [integerIsHoldable, Bool.or_eq_true, decide_eq_true_eq]
  left
  change n.toInt.natAbs ≤ 2 ^ 64 - 1
  omega

/-- A list fits into a place if there is room for its members one level deeper. -/
theorem fitsInside_array {items : List Json} {outer : Nat} (room : outer < nestingLimit)
    (fit : ∀ item ∈ items, item.fitsInside (outer + 1)) :
  (array items).fitsInside outer
  := by
  rw [fitsInside, Bool.and_eq_true, decide_eq_true_eq, isHoldable, depth]
  induction items with
  | nil => exact ⟨rfl, room⟩
  | cons item items ih =>
    have first := fit item List.mem_cons_self
    obtain ⟨holdable, low⟩ := ih fun item found => fit item (List.mem_cons_of_mem _ found)
    rw [fitsInside, Bool.and_eq_true, decide_eq_true_eq] at first
    rw [areHoldable, depthOfItems, Bool.and_eq_true]
    refine ⟨⟨first.1, holdable⟩, ?_⟩
    omega

end Json

theorem Condition.fitsInside_encode (isMarker : Json → Bool) (c : Condition) :
  ((Condition.codec isMarker).encode c).fitsInside 3
  := rfl

/-- What is written of the fields that every status has is not deep. -/
theorem CommonStatus.fitsInside_encode {s : CommonStatus} {member : String × Json}
    (written : member ∈ (CommonStatus.fields isMarker).encode s) :
  member.2.fitsInside 2
  := by
  change member ∈ [_, _, _, _, _, _] at written
  simp only [List.mem_cons, List.not_mem_nil, or_false] at written
  obtain rfl | rfl | rfl | rfl | rfl | rfl := written
  · change ((s.phase.map _).getD Json.null).fitsInside 2
    cases s.phase <;> rfl
  · rfl
  · rfl
  · change (_ && _) = true
    rw [Bool.and_eq_true]
    exact ⟨Json.integerIsHoldable_toInt _, rfl⟩
  · change ((s.phaseStartTime.map _).getD Json.null).fitsInside 2
    cases s.phaseStartTime <;> rfl
  · apply Json.fitsInside_array (by decide)
    intro item found
    obtain ⟨c, -, rfl⟩ := List.mem_map.mp found
    apply Condition.fitsInside_encode

namespace Status

theorem isHoldable_iff {members : List (String × Json)} :
  isHoldable K members ↔
    ∀ member ∈ members, member.1 ∉ K.linkFields.names → member.2.fitsInside 2
  := by
  simp [isHoldable, Decidable.or_iff_not_imp_left]

/-- What is written of a status outside the links is not deep. -/
theorem fitsInside_encode (s : Status K) {member : String × Json}
    (written : member ∈ (fields K).encode s) (unlinked : member.1 ∉ K.linkFields.names) :
  member.2.fitsInside 2
  := by
  obtain common | link := List.mem_append.mp written
  · exact CommonStatus.fitsInside_encode common
  · rw [← K.isPlain_linkFields.names s.links] at unlinked
    exact absurd (List.mem_map_of_mem link) unlinked

/-- A status that is written can be held in memory. -/
theorem isHoldable_encode (s : Status K) :
  isHoldable K ((fields K).encode s)
  := isHoldable_iff.mpr fun _ => s.fitsInside_encode

/-- What can be held in memory still can be after a status was written. -/
theorem isHoldable_mergeMembers {members : List (String × Json)} (holdable : isHoldable K members)
    (s : Status K) :
  isHoldable K (Json.mergeMembers members ((fields K).encode s))
  := by
  rw [isHoldable_iff] at holdable ⊢
  intro member found unlinked
  obtain written | found := Json.mem_mergeMembers ((isPlain_fields K).replaces s) found
  · exact s.fitsInside_encode written unlinked
  · exact holdable member found unlinked

/-- A stored value that leaves room for a status: either there is none, or it can be read. -/
structure IsPatchable (K : Kind) (json : Json) : Prop where
  holdable : isHoldable K json.members
  distinct : (fields K).Distinct json.members

/-- Where a status is read, or none is there, a status can be written. -/
theorem isPatchable_of_decodeOptional {name : String} {members : List (String × Json)}
    {status : Option (Status K)}
    (reads : Fields.decodeOptional name (Status.codec K) members = some status) :
  IsPatchable K ((members.lookup name).getD .null)
  := by
  rw [Fields.decodeOptional_eq] at reads
  generalize members.lookup name = found at reads ⊢
  cases found with
  | none => exact ⟨rfl, .nil⟩
  | some json =>
    cases json with
    | object members =>
      obtain ⟨s, reads, -⟩ := Option.map_eq_some_iff.mp reads
      change (if isHoldable K members then (fields K).decodeDistinct members else none) = _ at reads
      split at reads
      · rw [Fields.decodeDistinct] at reads
        split at reads
        · exact ⟨‹_›, ‹_›⟩
        · cases reads
      · cases reads
    | _ => exact ⟨rfl, .nil⟩

/-- A patch with a status makes it the one that is read, whichever was there. -/
theorem decode_mergePatch {json : Json} (patchable : IsPatchable K json) (s : Status K) :
  (Status.codec K).decode (json.mergePatch ((Status.codec K).encode s)) = some s
  := by
  change (if isHoldable K (Json.mergeMembers json.members ((fields K).encode s)) then
    (fields K).decodeDistinct (Json.mergeMembers json.members ((fields K).encode s)) else none) = _
  rw [if_pos (isHoldable_mergeMembers patchable.holdable s), Fields.decodeDistinct,
    if_pos patchable.distinct.mergeMembers,
    (isPlain_fields K).decode_mergeMembers (nodup_names K)]

/-- A patch with a status, or with none, makes it what is read. -/
theorem decodeOptional_setMember {json : Json} (patchable : IsPatchable K json) (name : String)
    (status : Option (Status K)) (members : List (String × Json)) :
  Fields.decodeOptional name (Status.codec K) (Json.setMember name
    (json.mergePatch ((status.map (Status.codec K).encode).getD .null)) members) = some status
  := by
  rw [Fields.decodeOptional_eq, Json.lookup_setMember, if_pos rfl, Json.bind_given?]
  cases status with
  | none => rfl
  | some s => exact congrArg (Option.map some) (decode_mergePatch patchable s)

end Status

/-! ## The object with a written status -/

/-- The parts of metadata do not depend on each other. -/
theorem Metadata.readsApart_fields :
  Metadata.fields.ReadsApart
  := by
  apply Fields.ReadsApart.as
  iterate 14 apply (Fields.readsApart_omittable _ _).and
  apply Fields.readsApart_omittable

/-- Metadata can be read with any version. -/
theorem Metadata.isSome_decode_mergePatch {json : Json} {m : Metadata}
    (reads : Metadata.codec.decode json = some m) (version : String) :
  (Metadata.codec.decode
    (json.mergePatch (.object [("resourceVersion", .text version)]))).isSome
  := by
  cases json with
  | object members =>
    apply Metadata.readsApart_fields.isSome_decode_insertMember
    · apply Option.isSome_of_eq_some reads
    · rfl
  | _ => cases reads

namespace Object

/-- After a write of a status, the status that is read is the one that was written, and the
specification is the one that was stored. -/
theorem decode_statusPatch {members : List (String × Json)} {stored : Object K}
    (reads : decode K (.object members) = some stored) (written : Object K) (version : String) :
  ∃ o : Object K,
    decode K ((Json.object members).mergePatch (written.statusPatch version)) = some o ∧
      o.status = written.status ∧ o.spec = stored.spec
  := by
  obtain ⟨distinct, ⟨metadata, found, reads⟩, spec, status⟩ := decode_object_iff.mp reads
  obtain ⟨m, reads⟩ :=
    Option.isSome_iff_exists.mp (Metadata.isSome_decode_mergePatch reads version)
  have patchable := Status.isPatchable_of_decodeOptional status
  rw [statusPatch, Json.mergePatch, Json.members, Json.mergeMembers_cons, Json.mergeMembers_cons,
    Json.mergeMembers, found, Json.lookup_setMember, if_neg (by decide)]
  refine ⟨⟨m, stored.spec, written.status⟩, decode_object_iff.mpr ⟨?_, ?_, ?_, ?_⟩, rfl, rfl⟩
  · apply (distinct.setMember _ _).setMember
  · rw [Json.lookup_setMember, if_neg (by decide), Json.lookup_setMember, if_pos rfl]
    exact ⟨_, rfl, reads⟩
  · rw [Json.lookup_setMember, if_neg (by decide), Json.lookup_setMember, if_neg (by decide)]
    exact spec
  · exact Status.decodeOptional_setMember patchable "status" written.status _

/-- The members of a stored server that is wired, with a member in its status that is no field. -/
def wiredServer : List (String × Json) :=
  let named (name : String) : Json := .object [("name", .text name)]
  [ ("metadata", .object [("name", .text "web"), ("resourceVersion", .text "7")]),
    ("spec", .object
      [ ("tenant", .text "acme"), ("location", .object [("value", .text "ITBG-Bergamo")]),
        ("dataCenter", .text "ITBG-1"), ("flavorName", .text "CSO1A2"),
        ("projectReference", named "shop"), ("vpcReference", named "net"),
        ("bootVolumeReference", named "boot"), ("keyPairReference", named "key") ]),
    ("status", .object
      [ ("phase", .text "Updating"), ("message", .text "Sent"), ("note", .bool true),
        ("resourceID", .text "srv-1"), ("observedGeneration", .integer 2),
        ("phaseStartTime", .text "2024-05-01T10:00:00Z"), ("projectID", .text "prj-1"),
        ("conditions", .array [.object
          [ ("type", .text "Ready"), ("status", .text "True"), ("reason", .text "Created"),
            ("lastTransitionTime", .text "2024-05-01T09:00:00Z") ]]),
        ("dataVolumeIDs", .array [.text "vol-1"]) ]) ]

/-- A server loses everything that its status said, and keeps its specification. -/
theorem decode_statusPatch_emptied :
  ∃ stored o : Object .cloudServer,
    decode .cloudServer (.object wiredServer) = some stored ∧
      decode .cloudServer ((Json.object wiredServer).mergePatch
        ((stored.withStatus (Status.initial .cloudServer)).statusPatch "7")) = some o ∧
      stored.status ≠ some (Status.initial .cloudServer) ∧
      o.status = some (Status.initial .cloudServer) ∧ o.spec = stored.spec
  := by
  obtain ⟨stored, reads, updating⟩ : ∃ stored : Object .cloudServer,
      decode .cloudServer (.object wiredServer) = some stored ∧ stored.phase = some .updating :=
    ⟨_, rfl, rfl⟩
  obtain ⟨o, reads', emptied, same⟩ :=
    decode_statusPatch reads (stored.withStatus (Status.initial .cloudServer)) "7"
  refine ⟨stored, o, reads, reads', ?_, emptied, same⟩
  intro initial
  rw [phase, initial] at updating
  cases updating

end Object

end CloudOperator
