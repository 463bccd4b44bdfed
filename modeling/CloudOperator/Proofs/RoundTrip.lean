import CloudOperator.Proofs.StatusPatch

/-!
# Objects that are written and read again

What is written of a specification or of a status is read as it was, whatever texts, numbers and
lists it holds and whichever of its optional parts it has (`Kind.readsBack_specFields`,
`Status.readsBack_codec`).  So the JSON of an object tells its specification and its status
(`Object.decode_encode`), and JSON that denotes an object still denotes the same one after both were
written in their places (`Object.decode_writtenInto`).

A field may be left out where it has no value, so what is written does not show all names.  A run
of fields reads back (`Fields.ReadsBack`) if a value is read from all members that agree with what
is written of it under every name, a name that is not written included.  Each way to put fields
together keeps that, as long as no two fields have one name.
-/

namespace CloudOperator

/-! ## Codecs -/

namespace Codec

variable {α : Type} {codec : Codec α}

theorem readsBack_flag :
  Codec.flag.ReadsBack
  := fun _ => rfl

/-- A number that is held in 32 bits is written within their bounds, so it is read as it was. -/
theorem readsBack_int32 :
  Codec.int32.ReadsBack
  := by
  intro n
  change (if _ then some (Int32.ofInt n.toInt) else none) = _
  rw [if_pos ⟨n.minValue_le_toInt, n.toInt_le⟩, Int32.ofInt_toInt]

theorem ReadsBack.described (h : codec.ReadsBack) (description : String) :
  (codec.described description).ReadsBack
  := h

/-- A list is read as it was written if its members are. -/
theorem ReadsBack.list (h : codec.ReadsBack) :
  codec.list.ReadsBack
  := (isPlain_list h).readsBack

end Codec

/-! ## Fields -/

namespace Fields

variable {α β : Type} {f : Fields α} {g : Fields β} {codec : Codec α} {name : String}
  {members written : List (String × Json)}

/-- There is nothing under a name that no member has. -/
theorem lookup_eq_none (unnamed : name ∉ members.map (·.1)) :
  members.lookup name = none
  := by
  rw [List.lookup_eq_none_iff]
  intro member found
  rw [bne_iff_ne]
  rintro rfl
  exact unnamed (List.mem_map_of_mem found)

/-- Members agree with what is written if they have the same under each name of the fields. -/
def Agrees (f : Fields α) (members written : List (String × Json)) : Prop :=
  ∀ name ∈ f.names, members.lookup name = written.lookup name

/-- Nothing but fields is written, each once and in order, and a value is read from all members
that agree with what is written of it. -/
structure ReadsBack (f : Fields α) : Prop where
  names (a : α) : ((f.encode a).map (·.1)).Sublist f.names
  decode (nodup : f.names.Nodup) {a : α} {members : List (String × Json)}
    (agrees : f.Agrees members (f.encode a)) : f.decode members = some a

/-- What is written under a name that has to be there is read as it was. -/
theorem readsBack_required (h : codec.ReadsBack) :
  (required name codec).ReadsBack
  where
  names _ := .refl _
  decode _ {a} members agrees := by
    have found := agrees name List.mem_cons_self
    exact decode_required.mpr ⟨_, found.trans List.lookup_cons_self, h a⟩

/-- What is written in place of a default is read as it was. -/
theorem readsBack_defaulted (h : codec.ReadsBack) (default : α) :
  (defaulted name codec default).ReadsBack
  where
  names _ := .refl _
  decode _ {a} members agrees := by
    have found : members.lookup name = some (codec.encode a) :=
      (agrees name List.mem_cons_self).trans List.lookup_cons_self
    simp only [defaulted, found]
    exact h a

/-- A value that is written, and that is not a null, is not taken for one that is left out. -/
theorem readsBack_omittable (h : codec.ReadsBack)
    (given : ∀ a, (codec.encode a).given? = some (codec.encode a)) :
  (omittable name codec).ReadsBack
  where
  names a := by
    cases a with
    | none => exact List.nil_sublist _
    | some a => exact .refl _
  decode _ {a} members agrees := by
    have found := agrees name List.mem_cons_self
    change decodeOptional name codec members = some a
    rw [decodeOptional_eq]
    cases a with
    | none =>
      rw [found]
      rfl
    | some a =>
      rw [found.trans List.lookup_cons_self, Option.bind_some, given]
      exact congrArg (Option.map some) (h a)

/-- Two runs of fields read back side by side: what is written of one stands under no name of the
other. -/
theorem ReadsBack.and (hf : f.ReadsBack) (hg : g.ReadsBack) :
  (f >> g).ReadsBack
  where
  names a := by
    change ((f.encode a.1 ++ g.encode a.2).map (·.1)).Sublist (f.names ++ g.names)
    rw [List.map_append]
    exact (hf.names a.1).append (hg.names a.2)
  decode nodup {a} members agrees := by
    change (f.names ++ g.names).Nodup at nodup
    change ∀ name ∈ f.names ++ g.names,
      members.lookup name = (f.encode a.1 ++ g.encode a.2).lookup name at agrees
    obtain ⟨nodup_f, nodup_g, apart⟩ := List.nodup_append.mp nodup
    refine decode_and.mpr ⟨hf.decode nodup_f ?_, hg.decode nodup_g ?_⟩
    · intro name named
      have unnamed : name ∉ (g.encode a.2).map (·.1) :=
        fun written => apart name named name ((hg.names a.2).subset written) rfl
      rw [agrees name (List.mem_append_left _ named), List.lookup_append, lookup_eq_none unnamed,
        Option.or_none]
    · intro name named
      have unnamed : name ∉ (f.encode a.1).map (·.1) :=
        fun written => apart name ((hf.names a.1).subset written) name named rfl
      rw [agrees name (List.mem_append_right _ named), List.lookup_append, lookup_eq_none unnamed,
        Option.none_or]

/-- Fields of a record read back if its parts make up the record again. -/
theorem ReadsBack.as (hf : f.ReadsBack) {forth : α → β} {back : β → α}
    (forth_back : ∀ b, forth (back b) = b) :
  (f.as forth back).ReadsBack
  where
  names b := hf.names (back b)
  decode nodup {b} _ agrees := decode_as.mpr ⟨back b, hf.decode nodup agrees, forth_back b⟩

theorem ReadsBack.described (hf : f.ReadsBack) (description : String) :
  (f.described description).ReadsBack
  where
  names := hf.names
  decode := hf.decode

/-- No name is written twice if no two fields have one name. -/
theorem ReadsBack.distinct (hf : f.ReadsBack) (nodup : f.names.Nodup) (a : α) :
  f.Distinct (f.encode a)
  := (nodup.sublist (hf.names a)).filter _

/-- A record is read as it was written. -/
theorem ReadsBack.record (hf : f.ReadsBack) (nodup : f.names.Nodup) :
  (Codec.record f).ReadsBack
  := by
  intro a
  change (if f.Distinct (f.encode a) then f.decode (f.encode a) else none) = _
  rw [if_pos (hf.distinct nodup a)]
  exact hf.decode nodup fun _ _ => rfl

end Fields

/-! ## Specifications -/

section

open Fields Codec

/-- A reference is read as it was written, with a namespace or without one. -/
theorem Reference.readsBack_codec :
  Reference.codec.ReadsBack
  := by
  apply Codec.ReadsBack.described
  apply ReadsBack.record _ (by decide)
  refine ReadsBack.as ?_ fun _ => rfl
  apply (readsBack_required isPlain_text.readsBack).and
  apply (readsBack_omittable isPlain_text.readsBack isPlain_text.given).described

/-- A location is read as it was written. -/
theorem Location.readsBack_codec :
  Location.codec.ReadsBack
  := by
  apply Codec.ReadsBack.described
  apply ReadsBack.record _ (by decide)
  apply ((readsBack_required isPlain_text.readsBack).described _).as fun _ => rfl

theorem readsBack_text (name : String) :
  (required name .text).ReadsBack
  := readsBack_required isPlain_text.readsBack

theorem readsBack_tenantField :
  tenantField.ReadsBack
  := readsBack_text _

theorem readsBack_tagsField :
  tagsField.ReadsBack
  := readsBack_defaulted isPlain_text.readsBack.list _

theorem readsBack_locationField :
  locationField.ReadsBack
  := readsBack_required Location.readsBack_codec

theorem readsBack_flagField (name : String) :
  (flagField name).ReadsBack
  := readsBack_defaulted readsBack_flag _

theorem readsBack_referenceField (name : String) :
  (referenceField name).ReadsBack
  := readsBack_required Reference.readsBack_codec

/-- A list of references is read as it was written, an empty one included. -/
theorem readsBack_referencesField (name : String) :
  (referencesField name).ReadsBack
  := readsBack_defaulted Reference.readsBack_codec.list _

/-- The specification of a project reads back. -/
theorem ProjectSpec.readsBack_fields :
  ProjectSpec.fields.ReadsBack
  := by
  refine ReadsBack.as ?_ fun _ => rfl
  apply (readsBack_tenantField.described _).and
  apply readsBack_tagsField.and
  apply (readsBack_defaulted isPlain_text.readsBack _).and
  apply (readsBack_flagField _).described

/-- The specification of a virtual network reads back. -/
theorem VpcSpec.readsBack_fields :
  VpcSpec.fields.ReadsBack
  := by
  refine ReadsBack.as ?_ fun _ => rfl
  apply readsBack_tenantField.and
  apply readsBack_tagsField.and
  apply readsBack_locationField.and
  apply (readsBack_flagField _).and
  apply (readsBack_flagField _).and
  apply readsBack_referenceField

theorem SubnetNetwork.readsBack_record :
  (Codec.record SubnetNetwork.fields).ReadsBack
  := by
  apply ReadsBack.record _ (by decide)
  apply ((readsBack_text _).described _).as fun _ => rfl

theorem SubnetDhcp.readsBack_record :
  (Codec.record SubnetDhcp.fields).ReadsBack
  := by
  apply ReadsBack.record _ (by decide)
  apply (readsBack_required readsBack_flag).as fun _ => rfl

/-- The specification of a subnet reads back, with the records of its network and of its addresses.
-/
theorem SubnetSpec.readsBack_fields :
  SubnetSpec.fields.ReadsBack
  := by
  refine ReadsBack.as ?_ fun _ => rfl
  apply readsBack_tenantField.and
  apply readsBack_tagsField.and
  apply ((readsBack_text _).described _).and
  apply (readsBack_flagField _).and
  apply (readsBack_required SubnetNetwork.readsBack_record).and
  apply (readsBack_required SubnetDhcp.readsBack_record).and
  apply (readsBack_referenceField _).and
  apply readsBack_referenceField

/-- The specification of a security group reads back. -/
theorem SecurityGroupSpec.readsBack_fields :
  SecurityGroupSpec.fields.ReadsBack
  := by
  refine ReadsBack.as ?_ fun _ => rfl
  apply readsBack_tenantField.and
  apply readsBack_tagsField.and
  apply readsBack_locationField.and
  apply (readsBack_flagField _).and
  apply (readsBack_referenceField _).and
  apply readsBack_referenceField

/-- The target of a security rule is read as it was written. -/
theorem RuleTarget.readsBack_record :
  (Codec.record RuleTarget.fields).ReadsBack
  := by
  apply ReadsBack.record _ (by decide)
  refine ReadsBack.as ?_ fun _ => rfl
  apply ((readsBack_text _).described _).and
  apply (readsBack_text _).described

/-- The specification of a security rule reads back. -/
theorem SecurityRuleSpec.readsBack_fields :
  SecurityRuleSpec.fields.ReadsBack
  := by
  refine ReadsBack.as ?_ fun _ => rfl
  apply readsBack_tenantField.and
  apply readsBack_tagsField.and
  apply readsBack_locationField.and
  iterate 3 apply ((readsBack_text _).described _).and
  apply (readsBack_required RuleTarget.readsBack_record).and
  iterate 2 apply (readsBack_referenceField _).and
  apply readsBack_referenceField

/-- The specification of a key pair reads back. -/
theorem KeyPairSpec.readsBack_fields :
  KeyPairSpec.fields.ReadsBack
  := by
  refine ReadsBack.as ?_ fun _ => rfl
  apply readsBack_tenantField.and
  apply readsBack_tagsField.and
  apply readsBack_locationField.and
  apply ((readsBack_text _).described _).and
  apply readsBack_referenceField

theorem BillingPlan.readsBack_record :
  (Codec.record BillingPlan.fields).ReadsBack
  := by
  apply ReadsBack.record _ (by decide)
  apply ((readsBack_text _).described _).as fun _ => rfl

/-- The specification of an address reads back, with the record of its plan. -/
theorem ElasticIpSpec.readsBack_fields :
  ElasticIpSpec.fields.ReadsBack
  := by
  refine ReadsBack.as ?_ fun _ => rfl
  apply readsBack_tenantField.and
  apply readsBack_tagsField.and
  apply readsBack_locationField.and
  apply (readsBack_required BillingPlan.readsBack_record).and
  apply readsBack_referenceField

/-- The specification of a volume reads back, whatever size it tells. -/
theorem BlockStorageSpec.readsBack_fields :
  BlockStorageSpec.fields.ReadsBack
  := by
  refine ReadsBack.as ?_ fun _ => rfl
  apply readsBack_tenantField.and
  apply readsBack_tagsField.and
  apply readsBack_locationField.and
  apply (readsBack_required readsBack_int32).and
  iterate 2 apply (readsBack_text _).and
  apply ((readsBack_defaulted isPlain_text.readsBack _).described _).and
  apply (readsBack_flagField _).and
  apply ((readsBack_defaulted isPlain_text.readsBack _).described _).and
  apply readsBack_referenceField

/-- The specification of a server reads back, with its lists of references and with or without a
reference to an address. -/
theorem CloudServerSpec.readsBack_fields :
  CloudServerSpec.fields.ReadsBack
  := by
  refine ReadsBack.as ?_ fun _ => rfl
  apply readsBack_tenantField.and
  apply readsBack_tagsField.and
  apply readsBack_locationField.and
  apply (readsBack_text _).and
  apply (readsBack_flagField _).and
  apply (readsBack_text _).and
  iterate 4 apply (readsBack_referenceField _).and
  iterate 2 apply (readsBack_referencesField _).and
  apply (readsBack_omittable Reference.readsBack_codec fun _ => rfl).and
  apply readsBack_referencesField

/-- The specification of every kind reads back. -/
theorem Kind.readsBack_specFields (K : Kind) :
  K.specFields.ReadsBack
  := by
  cases K with
  | project => exact ProjectSpec.readsBack_fields
  | vpc => exact VpcSpec.readsBack_fields
  | subnet => exact SubnetSpec.readsBack_fields
  | securityGroup => exact SecurityGroupSpec.readsBack_fields
  | securityRule => exact SecurityRuleSpec.readsBack_fields
  | keyPair => exact KeyPairSpec.readsBack_fields
  | elasticIp => exact ElasticIpSpec.readsBack_fields
  | blockStorage => exact BlockStorageSpec.readsBack_fields
  | cloudServer => exact CloudServerSpec.readsBack_fields

end

/-- No two parts of a specification have one name. -/
theorem Kind.nodup_specFields (K : Kind) :
  K.specFields.names.Nodup
  := by
  cases K <;> decide

variable {K : Kind}

/-- A specification is read as it was written. -/
theorem Kind.readsBack_spec (K : Kind) :
  (Codec.record K.specFields).ReadsBack
  := K.readsBack_specFields.record K.nodup_specFields

/-! ## Statuses -/

namespace Status

/-- A status is read as it was written. -/
theorem readsBack_codec (K : Kind) :
  (Status.codec K).ReadsBack
  := by
  intro s
  have nodup : (((fields K).encode s).map (·.1)).Nodup := by
    rw [(isPlain_fields K).names]
    exact nodup_names K
  have distinct : (fields K).Distinct ((fields K).encode s) := nodup.filter _
  change (if isHoldable K ((fields K).encode s) then
    (fields K).decodeDistinct ((fields K).encode s) else none) = _
  rw [if_pos s.isHoldable_encode, Fields.decodeDistinct, if_pos distinct,
    (isPlain_fields K).decode (Json.tells_self nodup)]

end Status

/-! ## Objects -/

namespace Object

variable {o : Object K} {members : List (String × Json)}

/-- What is read where the specification and the status are found as they are written of an
object. -/
theorem decode_of_written {metadata : Json} (distinct : (fields K).Distinct members)
    (stands : members.lookup "metadata" = some metadata)
    (spec : members.lookup "spec" = some ((Codec.record K.specFields).encode o.spec))
    (status : (members.lookup "status").bind Json.given?
      = o.status.map (Status.codec K).encode) :
  decode K (.object members) =
    (Metadata.codec.decode metadata).map fun metadata => { o with metadata }
  := by
  have told : Fields.decodeOptional "status" (Status.codec K) members = some o.status := by
    rw [Fields.decodeOptional_eq, status]
    cases o.status with
    | none => rfl
    | some s => exact congrArg (Option.map some) (Status.readsBack_codec K s)
  apply Option.ext
  intro o'
  rw [decode_object_iff, and_iff_right distinct, stands, spec, told, Option.map_eq_some_iff]
  constructor
  · rintro ⟨⟨_, ⟨⟩, reads⟩, ⟨_, ⟨⟩, same⟩, same'⟩
    rw [K.readsBack_spec] at same
    obtain ⟨metadata', spec', status'⟩ := o'
    cases same
    cases same'
    exact ⟨_, reads, rfl⟩
  · rintro ⟨metadata', reads, rfl⟩
    exact ⟨⟨_, rfl, reads⟩, ⟨_, rfl, K.readsBack_spec o.spec⟩, rfl⟩

/-- The names of the parts of an object. -/
theorem names_fields :
  (fields K).names = ["metadata", "spec", "status"]
  := rfl

/-- The JSON of an object denotes an object if its metadata can be read, and that one has the same
specification and the same status. -/
theorem decode_encode (o : Object K) :
  decode K o.encode =
    (Metadata.codec.decode (Metadata.codec.encode o.metadata)).map fun metadata =>
      { o with metadata }
  := by
  rcases o with ⟨metadata, spec, _ | status⟩
  · apply decode_of_written
    · change (List.filter ((fields K).names.contains ·)
        ["apiVersion", "kind", "metadata", "spec"]).Nodup
      rw [names_fields]
      decide
    · rfl
    · rfl
    · rfl
  · apply decode_of_written
    · change (List.filter ((fields K).names.contains ·)
        ["apiVersion", "kind", "metadata", "spec", "status"]).Nodup
      rw [names_fields]
      decide
    · rfl
    · rfl
    · rfl

/-- The members of an object, with its specification and its status written in their places. -/
def writtenInto (o : Object K) (members : List (String × Json)) : List (String × Json) :=
  Json.setMember "status" ((o.status.map (Status.codec K).encode).getD .null)
    (Json.setMember "spec" ((Codec.record K.specFields).encode o.spec) members)

/-- JSON of an object in which the specification and the status of another one were written denotes
that other object, but for its metadata. -/
theorem decode_writtenInto {stored : Object K} (reads : decode K (.object members) = some stored)
    (o : Object K) :
  decode K (.object (o.writtenInto members)) = some { o with metadata := stored.metadata }
  := by
  obtain ⟨distinct, ⟨metadata, stands, reads⟩, -, -⟩ := decode_object_iff.mp reads
  have distinct' : (fields K).Distinct (o.writtenInto members) :=
    (distinct.setMember _ _).setMember _ _
  have kept : (o.writtenInto members).lookup "metadata" = some metadata := by
    rw [writtenInto, Json.lookup_setMember, if_neg (by decide), Json.lookup_setMember,
      if_neg (by decide)]
    exact stands
  rw [decode_of_written distinct' kept, reads]
  · rfl
  · rw [writtenInto, Json.lookup_setMember, if_neg (by decide), Json.lookup_setMember, if_pos rfl]
    rfl
  · rw [writtenInto, Json.lookup_setMember, if_pos rfl, Json.bind_given?]
    cases o.status with
    | none => rfl
    | some s => rfl

/-- What is written of the objects of a kind is read as it was: of a specification, of a status, and
of an object whose metadata can be read.  In JSON that denotes an object, any specification and any
status may be written, and are read again; those that are read of it change nothing. -/
theorem reads_what_is_written (K : Kind) :
  (∀ spec : K.Spec,
    (Codec.record K.specFields).decode ((Codec.record K.specFields).encode spec) = some spec) ∧
  (∀ s : Status K, (Status.codec K).decode ((Status.codec K).encode s) = some s) ∧
  (∀ o : Object K, decode K o.encode =
    (Metadata.codec.decode (Metadata.codec.encode o.metadata)).map fun metadata =>
      { o with metadata }) ∧
  ∀ (members : List (String × Json)) (stored : Object K),
    decode K (.object members) = some stored →
      decode K (.object (stored.writtenInto members)) = some stored ∧
      ∀ o : Object K,
        decode K (.object (o.writtenInto members)) = some { o with metadata := stored.metadata }
  := by
  refine ⟨K.readsBack_spec, Status.readsBack_codec K, decode_encode, fun members stored reads => ?_⟩
  exact ⟨decode_writtenInto reads stored, decode_writtenInto reads⟩

/-- A server with an address of its own. -/
def addressed (o : Object .cloudServer) : Object .cloudServer :=
  { o with spec := { o.spec with elasticIp := some ⟨"ip", none⟩ } }

/-- The server that is wired is read again after it was written in its place, with an address or
without, and it is read from JSON of its own. -/
theorem reads_what_is_written_wired :
  ∃ stored : Object .cloudServer, decode .cloudServer (.object wiredServer) = some stored ∧
    decode .cloudServer (.object (stored.writtenInto wiredServer)) = some stored ∧
    decode .cloudServer (.object (stored.addressed.writtenInto wiredServer))
      = some stored.addressed ∧
    decode .cloudServer stored.encode = some stored
  := by
  obtain ⟨-, -, whole, within⟩ := reads_what_is_written .cloudServer
  obtain ⟨stored, reads, readable⟩ : ∃ stored : Object .cloudServer,
      decode .cloudServer (.object wiredServer) = some stored ∧
        Metadata.codec.decode (Metadata.codec.encode stored.metadata) = some stored.metadata :=
    ⟨_, rfl, rfl⟩
  obtain ⟨same, others⟩ := within wiredServer stored reads
  refine ⟨stored, reads, same, others stored.addressed, ?_⟩
  rw [whole, readable]
  rfl

end Object

end CloudOperator
