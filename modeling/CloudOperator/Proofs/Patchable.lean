import CloudOperator.Json.MergePatch
import CloudOperator.Proofs.Reading

/-!
# Fields that a patch sets

A merge patch keeps the members that it does not mention and erases one where it has a null.  So a
patch that writes a record sets it to what was written only if it mentions every field, and if each
value takes the place of the one before.  `Fields.IsPlain` says so of a run of fields, and that the
record is read from members that tell what was written; `Fields.IsPlain.decode_mergeMembers` is what
follows for a patch.  There is one lemma for each way in which fields are put together.

`Fields.ReadsApart` describes fields that do not depend on each other, as those of metadata: members
that can be read one by one can be read together.
-/

namespace CloudOperator

namespace Json

variable {name name' : String} {value : Json} {members patches : List (String × Json)}

/-! ## Members after a patch -/

/-- What is found after a member was inserted was there before, or it is the member. -/
theorem mem_insertMember {member : String × Json}
    (found : member ∈ insertMember name value members) :
  member = (name, value) ∨ member ∈ members
  := by
  induction members with
  | nil => exact .inl (List.mem_singleton.mp found)
  | cons first members ih =>
    rw [insertMember] at found
    split at found
    · exact (List.mem_cons.mp found).imp_right (List.mem_cons_of_mem _)
    · obtain rfl | found := List.mem_cons.mp found
      · exact .inr List.mem_cons_self
      · exact (ih found).imp_right (List.mem_cons_of_mem _)

/-- What is found after a member was set was there before, or it is the member. -/
theorem mem_setMember {member : String × Json} (found : member ∈ setMember name value members) :
  member = (name, value) ∨ member ∈ members
  := by
  rw [setMember] at found
  split at found
  · exact .inr (List.mem_filter.mp found).1
  · rename_i given
    rw [← given?_eq_some given]
    apply mem_insertMember found

/-- The last member of each name is one of the members. -/
theorem mem_lastOfEach {member : String × Json} (found : member ∈ lastOfEach members) :
  member ∈ members
  := by
  suffices general : ∀ kept : List (String × Json),
      member ∈ members.foldl (fun kept member => insertMember member.1 member.2 kept) kept →
        member ∈ members ∨ member ∈ kept by
    obtain found | found := general [] found
    · exact found
    · cases found
  clear found
  induction members with
  | nil =>
    intro kept found
    exact .inr found
  | cons first members ih =>
    intro kept found
    obtain found | found := ih _ found
    · exact .inl (List.mem_cons_of_mem _ found)
    · obtain rfl | found := mem_insertMember found
      · exact .inl List.mem_cons_self
      · exact .inr found

/-- Whether a value takes the place of whatever it patches. -/
def Replaces (json : Json) : Prop :=
  ∀ target : Json, target.mergePatch json = json

/-- A patch keeps what it does not mention. -/
theorem lookup_mergeMembers_of_notMem (unnamed : name ∉ patches.map (·.1)) :
  (mergeMembers members patches).lookup name = members.lookup name
  := by
  induction patches generalizing members with
  | nil => rfl
  | cons patch patches ih =>
    rw [List.map_cons, List.mem_cons, not_or] at unnamed
    rw [mergeMembers_cons, ih unnamed.2, lookup_setMember, if_neg unnamed.1]

/-- A patch with values that replace leaves each under its name. -/
theorem lookup_mergeMembers_of_mem (nodup : (patches.map (·.1)).Nodup)
    (replace : ∀ patch ∈ patches, patch.2.Replaces) (named : (name, value) ∈ patches) :
  (mergeMembers members patches).lookup name = value.given?
  := by
  induction patches generalizing members with
  | nil => cases named
  | cons patch patches ih =>
    obtain ⟨fresh, nodup⟩ := List.nodup_cons.mp nodup
    rw [mergeMembers_cons]
    obtain rfl | named := List.mem_cons.mp named
    · rw [lookup_mergeMembers_of_notMem fresh, lookup_setMember, if_pos rfl,
        replace _ List.mem_cons_self]
    · exact ih nodup (fun patch found => replace patch (List.mem_cons_of_mem _ found)) named

/-- After a patch with values that replace, each member comes from the patch or was there. -/
theorem mem_mergeMembers (replace : ∀ patch ∈ patches, patch.2.Replaces)
    {member : String × Json} (found : member ∈ mergeMembers members patches) :
  member ∈ patches ∨ member ∈ members
  := by
  induction patches generalizing members with
  | nil => exact .inr found
  | cons patch patches ih =>
    rw [mergeMembers_cons] at found
    obtain found | found :=
      ih (fun patch found => replace patch (List.mem_cons_of_mem _ found)) found
    · exact .inl (List.mem_cons_of_mem _ found)
    · rw [replace patch List.mem_cons_self] at found
      obtain rfl | found := mem_setMember found
      · exact .inl List.mem_cons_self
      · exact .inr found

/-- Members tell what others say if they have the same value under each of their names; a null
counts as no value. -/
def Tells (members told : List (String × Json)) : Prop :=
  ∀ member ∈ told, (members.lookup member.1).bind given? = member.2.given?

theorem tells_mergeMembers (nodup : (patches.map (·.1)).Nodup)
    (replace : ∀ patch ∈ patches, patch.2.Replaces) :
  Tells (mergeMembers members patches) patches
  := by
  intro member named
  rw [lookup_mergeMembers_of_mem nodup replace named, bind_given?]

/-- Members that have different names tell what they say. -/
theorem tells_self (nodup : (members.map (·.1)).Nodup) :
  Tells members members
  := by
  induction members with
  | nil => nofun
  | cons first members ih =>
    obtain ⟨fresh, nodup⟩ := List.nodup_cons.mp nodup
    intro member found
    rw [lookup_cons]
    obtain rfl | found := List.mem_cons.mp found
    · rw [if_pos rfl]
      rfl
    · have other : member.1 ≠ first.1 := by
        intro same
        apply fresh
        change first.1 ∈ _
        rw [← same]
        apply List.mem_map_of_mem found
      rw [if_neg other]
      exact ih nodup member found

end Json

/-! ## Codecs -/

namespace Codec

variable {α : Type} {codec : Codec α}

/-- Whether what is written is read as it was. -/
def ReadsBack (codec : Codec α) : Prop :=
  ∀ a, codec.decode (codec.encode a) = some a

/-- What is written is read as it was, and it takes the place of whatever it patches. -/
structure IsPlain (codec : Codec α) : Prop where
  readsBack : codec.ReadsBack
  given (a : α) : (codec.encode a).given? = some (codec.encode a)
  replaces (a : α) : (codec.encode a).Replaces

theorem isPlain_text :
  Codec.text.IsPlain
  where
  readsBack _ := rfl
  given _ := rfl
  replaces _ _ := rfl

/-- A number that is held in 64 bits is written within their bounds. -/
theorem isPlain_int64 :
  Codec.int64.IsPlain
  where
  readsBack n := by
    change (if _ then some (Int64.ofInt n.toInt) else none) = _
    rw [if_pos ⟨n.minValue_le_toInt, n.toInt_le⟩, Int64.ofInt_toInt]
  given _ := rfl
  replaces _ _ := rfl

/-- A list is plain if its members are read as they were written, since it replaces the whole of
what it patches. -/
theorem isPlain_list (readsBack : codec.ReadsBack) :
  codec.list.IsPlain
  where
  readsBack values := by
    change (values.map codec.encode).mapM codec.decode = some values
    induction values with
    | nil => rfl
    | cons value values ih =>
      rw [List.map_cons, List.mapM_cons, readsBack, ih]
      rfl
  given _ := rfl
  replaces _ _ := rfl

end Codec

/-! ## Fields -/

namespace Fields

variable {α β : Type} {f : Fields α} {g : Fields β} {codec : Codec α}
variable {name : String} {members patches : List (String × Json)}

theorem Distinct.setMember (distinct : f.Distinct members) (name : String) (value : Json) :
  f.Distinct (Json.setMember name value members)
  := Json.nodup_filter_setMember distinct name value

/-- A patch repeats none of the names that are looked at. -/
theorem Distinct.mergeMembers (distinct : f.Distinct members) :
  f.Distinct (Json.mergeMembers members patches)
  := by
  induction patches generalizing members with
  | nil => exact distinct
  | cons patch patches ih =>
    rw [Json.mergeMembers_cons]
    exact ih (distinct.setMember _ _)

/-- Every field is always written, with a value that takes the place of whatever it patches, and
members that tell what was written are read as it was. -/
structure IsPlain (f : Fields α) : Prop where
  names (a : α) : (f.encode a).map (·.1) = f.names
  replaces (a : α) : ∀ member ∈ f.encode a, member.2.Replaces
  decode {a : α} {members : List (String × Json)} (tells : Json.Tells members (f.encode a)) :
    f.decode members = some a

/-- What a plain codec wrote under a name is found there. -/
theorem lookup_of_tells (plain : codec.IsPlain) {a : α}
    (tells : Json.Tells members [(name, codec.encode a)]) :
  members.lookup name = some (codec.encode a)
  := by
  have told := tells _ List.mem_cons_self
  rw [plain.given] at told
  obtain ⟨json, found, given⟩ := Option.bind_eq_some_iff.mp told
  rw [found, Json.given?_eq_some given]

theorem decodeOptional_eq (name : String) (codec : Codec α) (members : List (String × Json)) :
  decodeOptional name codec members =
    match (members.lookup name).bind Json.given? with
    | none => some none
    | some json => (codec.decode json).map some
  := by
  rw [decodeOptional]
  cases members.lookup name with
  | none => rfl
  | some json => cases json <;> rfl

theorem isPlain_required (plain : codec.IsPlain) :
  (required name codec).IsPlain
  where
  names _ := rfl
  replaces a _ found := List.mem_singleton.mp found ▸ plain.replaces a
  decode tells := decode_required.mpr ⟨_, lookup_of_tells plain tells, plain.readsBack _⟩

theorem isPlain_defaulted (plain : codec.IsPlain) (default : α) :
  (defaulted name codec default).IsPlain
  where
  names _ := rfl
  replaces a _ found := List.mem_singleton.mp found ▸ plain.replaces a
  decode {a} {members} tells := by
    change (match members.lookup name with
      | none => some default
      | some json => codec.decode json) = some a
    rw [lookup_of_tells plain tells]
    exact plain.readsBack a

theorem isPlain_nullable (plain : codec.IsPlain) :
  (nullable name codec).IsPlain
  where
  names _ := rfl
  replaces a member found := by
    rw [List.mem_singleton.mp found]
    cases a with
    | none => exact fun _ => rfl
    | some a => exact plain.replaces a
  decode {a} {members} tells := by
    change decodeOptional name codec members = some a
    rw [decodeOptional_eq, tells _ List.mem_cons_self]
    cases a with
    | none => rfl
    | some a =>
      rw [Option.map_some, Option.getD_some, plain.given]
      exact congrArg (Option.map some) (plain.readsBack a)

theorem isPlain_empty :
  empty.IsPlain
  where
  names _ := rfl
  replaces _ _ found := nomatch found
  decode _ := rfl

/-- Plain fields that are put side by side are plain. -/
theorem IsPlain.and (hf : f.IsPlain) (hg : g.IsPlain) :
  (f >> g).IsPlain
  where
  names a := by
    change (f.encode a.1 ++ g.encode a.2).map (·.1) = f.names ++ g.names
    rw [List.map_append, hf.names, hg.names]
  replaces a member found := by
    obtain found | found := List.mem_append.mp found
    · exact hf.replaces a.1 member found
    · exact hg.replaces a.2 member found
  decode tells := decode_and.mpr
    ⟨hf.decode fun member found => tells member (List.mem_append_left _ found),
      hg.decode fun member found => tells member (List.mem_append_right _ found)⟩

/-- Plain fields of a record are plain if its parts make up the record again. -/
theorem IsPlain.as (hf : f.IsPlain) {forth : α → β} {back : β → α}
    (forth_back : ∀ b, forth (back b) = b) :
  (f.as forth back).IsPlain
  where
  names b := hf.names (back b)
  replaces b := hf.replaces (back b)
  decode {b} _ tells := decode_as.mpr ⟨back b, hf.decode tells, forth_back b⟩

theorem IsPlain.described (hf : f.IsPlain) (description : String) :
  (f.described description).IsPlain
  where
  names := hf.names
  replaces := hf.replaces
  decode := hf.decode

/-- What is read after a patch with plain fields is what was written, whatever was there. -/
theorem IsPlain.decode_mergeMembers (hf : f.IsPlain) (nodup : f.names.Nodup)
    (members : List (String × Json)) (a : α) :
  f.decode (Json.mergeMembers members (f.encode a)) = some a
  := by
  apply hf.decode
  apply Json.tells_mergeMembers _ (hf.replaces a)
  rw [hf.names]
  exact nodup

/-- A record of plain fields is read as it was written. -/
theorem IsPlain.readsBack_record (hf : f.IsPlain) (nodup : f.names.Nodup) :
  (Codec.record f).ReadsBack
  := by
  intro a
  have nodup : ((f.encode a).map (·.1)).Nodup := by
    rw [hf.names]
    exact nodup
  have distinct : f.Distinct (f.encode a) := nodup.filter _
  change (if f.Distinct (f.encode a) then f.decode (f.encode a) else none) = _
  rw [if_pos distinct, hf.decode (Json.tells_self nodup)]

/-! ### Fields that do not depend on each other -/

/-- Members that can be read one by one can be read together. -/
def ReadsApart (f : Fields α) : Prop :=
  ∀ members : List (String × Json),
    (∀ member ∈ members, (f.decode [member]).isSome) → (f.decode members).isSome

/-- A field that may be left out is read from the first member of its name alone. -/
theorem readsApart_omittable (name : String) (codec : Codec α) :
  (omittable name codec).ReadsApart
  := by
  intro members each
  change (decodeOptional name codec members).isSome
  cases found : members.lookup name with
  | none =>
    rw [decodeOptional, found]
    rfl
  | some json =>
    obtain ⟨before, after, rfl, -⟩ := List.lookup_eq_some_iff.mp found
    have reads := each (name, json) (by simp)
    change (decodeOptional name codec [(name, json)]).isSome at reads
    rw [decodeOptional, Json.lookup_cons, if_pos rfl] at reads
    rw [decodeOptional, found]
    exact reads

/-- Fields that are read apart are read apart side by side. -/
theorem ReadsApart.and (hf : f.ReadsApart) (hg : g.ReadsApart) :
  (f >> g).ReadsApart
  := by
  have isSome_decode (members : List (String × Json)) : ((f >> g).decode members).isSome ↔
      (f.decode members).isSome ∧ (g.decode members).isSome := by
    simp only [Option.isSome_iff_exists, Prod.exists, decode_and, exists_and_left, exists_and_right]
  intro members each
  rw [isSome_decode]
  constructor
  · exact hf members fun member found => ((isSome_decode _).mp (each member found)).1
  · exact hg members fun member found => ((isSome_decode _).mp (each member found)).2

theorem ReadsApart.as (hf : f.ReadsApart) (forth : α → β) (back : β → α) :
  (f.as forth back).ReadsApart
  := by
  have isSome_decode (members : List (String × Json)) :
      ((f.as forth back).decode members).isSome = (f.decode members).isSome :=
    Option.isSome_map
  intro members each
  rw [isSome_decode]
  exact hf members fun member found => isSome_decode _ ▸ each member found

/-- A record whose fields do not depend on each other can still be read when another member that can
be read is set. -/
theorem ReadsApart.isSome_decode_insertMember (apart : f.ReadsApart)
    (reads : ((Codec.tolerant f).decode (.object members)).isSome) {value : Json}
    (readable : (f.decode [(name, value)]).isSome) :
  ((Codec.tolerant f).decode (.object (Json.insertMember name value members))).isSome
  := by
  change (if _ then _ else none : Option α).isSome at reads
  split at reads
  · rename_i each
    rw [List.all_eq_true] at each
    have every : ∀ member ∈ Json.insertMember name value members,
        (f.decode [member]).isSome := by
      intro member found
      obtain rfl | found := Json.mem_insertMember found
      · exact readable
      · exact each member found
    change (if _ then _ else none : Option α).isSome
    rw [if_pos (List.all_eq_true.mpr every)]
    exact apart _ fun member found => every member (Json.mem_lastOfEach found)
  · cases reads

end Fields

end CloudOperator
