import CloudOperator.Cluster.Server

/-!
# What patches keep

A patch of one member leaves the other members of what it patches, and so a cluster that applies
a write of a status or of finalizers keeps everything else of an object.

* `Json.setMember` is what a patch does with each member, and `Json.lookup_setMember` tells what is
  found then; `Json.get?_mergePatch_of_ne` and `Json.get?_mergePatch_self` say so of a patch of one
  member.
* `Cluster.IsKept` describes the JSON that a cluster keeps under a name, and
  `Cluster.IsKept.stamped` and `Cluster.IsKept.patched` say that writes lead to such JSON.
-/

namespace CloudOperator

namespace Json

variable {json value : Json} {name name' : String}

/-! ## Members -/

theorem lookup_cons (name name' : String) (value : Json) (members : List (String × Json)) :
  ((name, value) :: members).lookup name' =
    if name' = name then some value else members.lookup name'
  := by
  rw [List.lookup_cons]
  by_cases same : name' = name
  · subst name'
    rw [beq_self_eq_true, if_pos rfl]
  · rw [beq_false_of_ne same, if_neg same]

/-- A member that is inserted is found under its name, and the others are found as before. -/
theorem lookup_insertMember (name name' : String) (value : Json) (members : List (String × Json)) :
  (insertMember name value members).lookup name' =
    if name' = name then some value else members.lookup name'
  := by
  induction members with
  | nil => apply lookup_cons
  | cons member members ih =>
    obtain ⟨name₁, value₁⟩ := member
    rw [insertMember]
    by_cases same : name₁ = name
    · subst name₁
      rw [if_pos rfl, lookup_cons, lookup_cons]
      split
      · rfl
      · rfl
    · rw [if_neg same, lookup_cons, lookup_cons, ih]
      split
      · subst name'
        rw [if_neg same]
      · rfl

/-- Under a name that is erased nothing is found, and the others are found as before. -/
theorem lookup_eraseMember (name name' : String) (members : List (String × Json)) :
  (eraseMember name members).lookup name' = if name' = name then none else members.lookup name'
  := by
  induction members with
  | nil => simp [eraseMember]
  | cons member members ih =>
    obtain ⟨name₁, value₁⟩ := member
    rw [eraseMember] at ih ⊢
    rw [List.filter_cons, lookup_cons]
    by_cases same : name₁ = name
    · rw [if_neg (by simpa using same), ih]
      split
      · rfl
      · rw [if_neg (same ▸ ‹_›)]
    · rw [if_pos (by simpa using same), lookup_cons, ih]
      split
      · subst name'
        rw [if_neg same]
      · rfl

/-- The names of members after one was replaced or added. -/
theorem map_fst_insertMember (name : String) (value : Json) (members : List (String × Json)) :
  (insertMember name value members).map (·.1) =
    if name ∈ members.map (·.1) then members.map (·.1) else members.map (·.1) ++ [name]
  := by
  induction members with
  | nil => simp [insertMember]
  | cons member members ih =>
    obtain ⟨name₁, value₁⟩ := member
    rw [insertMember]
    split
    · subst name₁
      simp
    · rw [List.map_cons, ih]
      grind

/-- What a value leaves under a name that it is given to: nothing if it is null. -/
def given? : Json → Option Json
  | null => none
  | json => some json

theorem given?_eq_some (given : json.given? = some value) :
  value = json
  := by
  cases json with
  | null => cases given
  | _ => exact (Option.some.inj given).symm

@[simp]
theorem bind_given? (json : Json) :
  json.given?.bind given? = json.given?
  := by
  cases json <;> rfl

/-- The members with a value under a name, which a null erases. -/
def setMember (name : String) (value : Json) (members : List (String × Json)) :
    List (String × Json) :=
  match value.given? with
  | none => eraseMember name members
  | some value => insertMember name value members

/-- A member that is set is found under its name, unless it is null, and the others are found as
before. -/
theorem lookup_setMember (name name' : String) (value : Json) (members : List (String × Json)) :
  (setMember name value members).lookup name' =
    if name' = name then value.given? else members.lookup name'
  := by
  rw [setMember]
  cases value.given? with
  | none => apply lookup_eraseMember
  | some value => apply lookup_insertMember

/-- Of the names that are looked at, none is repeated once a member was set. -/
theorem nodup_filter_setMember {members : List (String × Json)} {looked : String → Bool}
    (nodup : ((members.map (·.1)).filter looked).Nodup) (name : String) (value : Json) :
  (((setMember name value members).map (·.1)).filter looked).Nodup
  := by
  rw [setMember]
  split
  · exact nodup.sublist ((List.filter_sublist.map _).filter _)
  · rw [map_fst_insertMember]
    split
    · exact nodup
    · rename_i fresh
      rw [List.filter_append, List.nodup_append]
      refine ⟨nodup, List.Pairwise.filter _ (by simp), ?_⟩
      rintro name₁ among name₂ added rfl
      rw [List.mem_singleton.mp (List.mem_filter.mp added).1] at among
      exact fresh (List.mem_filter.mp among).1

theorem nodup_setMember {members : List (String × Json)} (nodup : (members.map (·.1)).Nodup)
    (name : String) (value : Json) :
  ((setMember name value members).map (·.1)).Nodup
  := by
  have all (names : List String) : names.filter (fun _ => true) = names :=
    List.filter_eq_self.mpr fun _ _ => rfl
  rw [← all (members.map (·.1))] at nodup
  rw [← all ((setMember name value members).map (·.1))]
  apply nodup_filter_setMember nodup

/-- A patch sets one member after the other. -/
theorem mergeMembers_cons (members : List (String × Json)) (name : String) (patch : Json)
    (patches : List (String × Json)) :
  mergeMembers members ((name, patch) :: patches) =
    mergeMembers (setMember name (mergePatch ((members.lookup name).getD null) patch) members)
      patches
  := by
  cases patch <;> rfl

/-! ## Patches of one member -/

/-- A patch of one member sets it to what it was, patched in its turn. -/
theorem members_mergePatch (json : Json) (name : String) (value : Json) :
  (json.mergePatch (.object [(name, value)])).members =
    setMember name (mergePatch ((json.get? name).getD null) value) json.members
  := mergeMembers_cons ..

/-- A patch of one member leaves what stands under other names. -/
theorem get?_mergePatch_of_ne (json value : Json) (other : name' ≠ name) :
  (json.mergePatch (.object [(name, value)])).get? name' = json.get? name'
  := by
  rw [get?, members_mergePatch, lookup_setMember, if_neg other]
  rfl

theorem get?_mergePatch_self (json : Json) (name : String) (given : value ≠ .null) :
  (json.mergePatch (.object [(name, value)])).get? name =
    some (((json.get? name).getD .null).mergePatch value)
  := by
  rw [get?, members_mergePatch, lookup_setMember, if_pos rfl]
  cases value with
  | null => cases given rfl
  | _ => rfl

/-- A patch of one member repeats no name. -/
theorem nodup_mergePatch (nodup : (json.members.map (·.1)).Nodup) (name : String)
    (value : Json) :
  ((json.mergePatch (.object [(name, value)])).members.map (·.1)).Nodup
  := by
  rw [members_mergePatch]
  apply nodup_setMember nodup

/-! ## Patches of the metadata -/

/-- The metadata of an object, null without any. -/
def metadata (json : Json) : Json :=
  (json.get? "metadata").getD .null

/-- What an object tells in its metadata is found in the metadata. -/
theorem at?_metadata (json : Json) (name : String) :
  json.at? ["metadata", name] = json.metadata.get? name
  := by
  rw [at?, metadata]
  cases json.get? "metadata" with
  | none => rfl
  | some metadata => simp [at?]

theorem metadata_mergePatch_of_ne (json value : Json) (other : "metadata" ≠ name) :
  (json.mergePatch (.object [(name, value)])).metadata = json.metadata
  := by
  rw [metadata, get?_mergePatch_of_ne json value other]
  rfl

/-- A patch of another member leaves the metadata. -/
theorem at?_mergePatch_of_ne (json value : Json) (other : "metadata" ≠ name) :
  (json.mergePatch (.object [(name, value)])).at? ["metadata", name'] =
    json.at? ["metadata", name']
  := by
  rw [at?_metadata, at?_metadata, metadata_mergePatch_of_ne json value other]

/-- A patch of the metadata patches one member of it. -/
theorem metadata_metadataPatch (json : Json) (name : String) (value : Json) :
  (json.mergePatch (Cluster.metadataPatch name value)).metadata =
    json.metadata.mergePatch (.object [(name, value)])
  := by
  rw [metadata, Cluster.metadataPatch, get?_mergePatch_self json "metadata" (by nofun)]
  rfl

/-- A patch of a member of the metadata leaves the other members. -/
theorem at?_metadataPatch_of_ne (json value : Json) (other : name' ≠ name) :
  (json.mergePatch (Cluster.metadataPatch name value)).at? ["metadata", name'] =
    json.at? ["metadata", name']
  := by
  rw [at?_metadata, at?_metadata, metadata_metadataPatch, get?_mergePatch_of_ne _ _ other]

/-- A patch of a member of the metadata puts a value that replaces any other in its place. -/
theorem at?_metadataPatch_self (json : Json) (name : String) (given : value ≠ .null)
    (replaces : ∀ target, mergePatch target value = value) :
  (json.mergePatch (Cluster.metadataPatch name value)).at? ["metadata", name] = some value
  := by
  rw [at?_metadata, metadata_metadataPatch, get?_mergePatch_self _ _ given, replaces]

end Json

namespace Cluster

variable {ns name : String} {json : Json}

/-- JSON as a cluster keeps it under the name of an object: it tells this name and a version, and
no member of its metadata occurs twice. -/
structure IsKept (ns name : String) (json : Json) : Prop where
  version : (version? json).isSome
  name : json.at? ["metadata", "name"] = some (.text name)
  ns : json.at? ["metadata", "namespace"] = some (.text ns)
  distinct : (json.metadata.members.map (·.1)).Nodup

/-- The finalizers of an object. -/
def finalizers (json : Json) : List Json :=
  match json.at? ["metadata", "finalizers"] with
  | some (.array finalizers) => finalizers
  | _ => []

/-- The object with a version. -/
def stamped (json : Json) (version : String) : Json :=
  json.mergePatch (metadataPatch "resourceVersion" (.text version))

theorem bump_eq_stamped (json : Json) :
  bump json = stamped json (nextVersion json)
  := rfl

/-- A version that is stamped is read again. -/
@[simp]
theorem version?_stamped (json : Json) (version : String) :
  version? (stamped json version) = some version
  := by
  rw [version?, stamped, Json.at?_metadataPatch_self json _ (by nofun) fun _ => rfl]

theorem version?_congr {json' : Json}
    (same : json'.at? ["metadata", "resourceVersion"] = json.at? ["metadata", "resourceVersion"]) :
  version? json' = version? json
  := by
  rw [version?, same, version?]

/-- An object stays kept while the metadata is patched elsewhere than in its names and its version.
-/
theorem IsKept.metadataPatch (h : IsKept ns name json) {member : String}
    (other : member ∉ ["resourceVersion", "name", "namespace"]) (value : Json) :
  IsKept ns name (json.mergePatch (metadataPatch member value))
  := by
  simp only [List.mem_cons, List.not_mem_nil, or_false, not_or] at other
  obtain ⟨version, name, ns⟩ := other
  constructor
  · rw [version?_congr (Json.at?_metadataPatch_of_ne json value (Ne.symm version))]
    exact h.version
  · rw [Json.at?_metadataPatch_of_ne json value (Ne.symm name), h.name]
  · rw [Json.at?_metadataPatch_of_ne json value (Ne.symm ns), h.ns]
  · rw [Json.metadata_metadataPatch]
    apply Json.nodup_mergePatch h.distinct

/-- An object stays kept under another version. -/
theorem IsKept.stamped (h : IsKept ns name json) (version : String) :
  IsKept ns name (stamped json version)
  where
  version := by rw [version?_stamped, Option.isSome_some]
  name := by rw [Cluster.stamped, Json.at?_metadataPatch_of_ne json _ (by decide), h.name]
  ns := by rw [Cluster.stamped, Json.at?_metadataPatch_of_ne json _ (by decide), h.ns]
  distinct := by
    rw [Cluster.stamped, Json.metadata_metadataPatch]
    apply Json.nodup_mergePatch h.distinct

/-- What a write makes of an object is kept under its name. -/
theorem IsKept.patched (h : IsKept ns name json) (verb : ClusterVerb) (patch : Json) :
  IsKept ns name (patched verb json patch)
  := by
  cases verb with
  | get => exact h
  | patch => exact h.metadataPatch (by decide) _
  | patchStatus =>
    constructor
    · rw [Cluster.patched, version?_congr (Json.at?_mergePatch_of_ne json _ (by decide))]
      exact h.version
    · rw [Cluster.patched, Json.at?_mergePatch_of_ne json _ (by decide), h.name]
    · rw [Cluster.patched, Json.at?_mergePatch_of_ne json _ (by decide), h.ns]
    · rw [Cluster.patched, Json.metadata_mergePatch_of_ne json _ (by decide)]
      exact h.distinct

end Cluster

end CloudOperator
