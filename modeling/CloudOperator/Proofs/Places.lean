import CloudOperator.Cloud.Payload
import CloudOperator.Text.Pieces

/-!
# Places of the remote API

A path is cut at its slashes into segments, and each of these is a word of the API or an
identifier.  The words stand at fixed positions, so an identifier may be any text without a slash,
and be empty, too: the endpoint is read back from the path (`Endpoint.ofPath?_path`).  So every
place has a path of its own (`Endpoint.paths_tell_apart`).
-/

namespace CloudOperator

/-- What is found in a place: the resources of a kind, one of them, or the data volumes of a
server. -/
inductive Content where
  | resources (K : Kind)
  | resource (K : Kind)
  | dataVolumes

namespace Endpoint

variable {e : Endpoint}

/-! ## Contents and identifiers -/

/-- What is found in the place of an endpoint. -/
def content : Endpoint → Content
  | projects => .resources .project
  | project _ => .resource .project
  | vpcs _ => .resources .vpc
  | vpc _ _ => .resource .vpc
  | subnets _ _ => .resources .subnet
  | subnet _ _ _ => .resource .subnet
  | securityGroups _ _ => .resources .securityGroup
  | securityGroup _ _ _ => .resource .securityGroup
  | securityRules _ _ _ => .resources .securityRule
  | securityRule _ _ _ _ => .resource .securityRule
  | keyPairs _ => .resources .keyPair
  | keyPair _ _ => .resource .keyPair
  | elasticIps _ => .resources .elasticIp
  | elasticIp _ _ => .resource .elasticIp
  | blockStorages _ => .resources .blockStorage
  | blockStorage _ _ => .resource .blockStorage
  | cloudServers _ => .resources .cloudServer
  | cloudServer _ _ => .resource .cloudServer
  | dataVolumes _ _ => .dataVolumes

/-- The identifiers that lead to the place of an endpoint, from the project downwards. -/
def ids : Endpoint → List String
  | projects => []
  | project p | vpcs p | keyPairs p | elasticIps p | blockStorages p | cloudServers p => [p]
  | vpc p v | subnets p v | securityGroups p v => [p, v]
  | subnet p v s => [p, v, s]
  | securityGroup p v g | securityRules p v g => [p, v, g]
  | securityRule p v g r => [p, v, g, r]
  | keyPair p id | elasticIp p id | blockStorage p id => [p, id]
  | cloudServer p s | dataVolumes p s => [p, s]

/-- The identifiers hold no slash. -/
def IsPlain (e : Endpoint) : Prop :=
  ∀ id ∈ e.ids, '/' ∉ id.toList

instance : DecidablePred IsPlain :=
  fun e => inferInstanceAs (Decidable (∀ id ∈ e.ids, '/' ∉ id.toList))

/-! ## Segments -/

/-- A segment of a plain endpoint holds no slash, be it a word or an identifier. -/
theorem IsPlain.slash_notMem (plain : e.IsPlain) :
  ∀ segment ∈ e.segments, '/' ∉ segment.toList
  := by
  cases e
  case projects => simp [segments]
  all_goals simpa [segments, network, compute, storage, provided, ids, IsPlain] using plain

theorem toList_pathOf (segments : List String) :
  (pathOf segments).toList = (segments.map String.toList).flatMap ('/' :: ·)
  := by
  rw [pathOf, String.toList_join, List.flatMap_map, List.flatMap_map]
  simp

/-- The segments are the pieces of the path behind its first slash. -/
theorem pieces_pathOf {segments : List String}
    (whole : ∀ segment ∈ segments, '/' ∉ segment.toList) :
  pieces (· == '/') (pathOf segments).toList = [] :: segments.map String.toList
  := by
  rw [toList_pathOf, ← List.nil_append (List.flatMap _ _)]
  apply pieces_append_flatMap rfl
  grind

/-- The endpoint with the given segments. -/
def ofSegments? : List String → Option Endpoint
  | ["projects"] => some projects
  | ["projects", p] => some (project p)
  | "projects" :: p :: "providers" :: "Aruba.Network" :: rest =>
    match rest with
    | ["vpcs"] => some (vpcs p)
    | ["vpcs", v] => some (vpc p v)
    | ["vpcs", v, "subnets"] => some (subnets p v)
    | ["vpcs", v, "subnets", s] => some (subnet p v s)
    | ["vpcs", v, "securityGroups"] => some (securityGroups p v)
    | ["vpcs", v, "securityGroups", g] => some (securityGroup p v g)
    | ["vpcs", v, "securityGroups", g, "securityRules"] => some (securityRules p v g)
    | ["vpcs", v, "securityGroups", g, "securityRules", r] => some (securityRule p v g r)
    | ["elasticIps"] => some (elasticIps p)
    | ["elasticIps", id] => some (elasticIp p id)
    | _ => none
  | "projects" :: p :: "providers" :: "Aruba.Compute" :: rest =>
    match rest with
    | ["keyPairs"] => some (keyPairs p)
    | ["keyPairs", id] => some (keyPair p id)
    | ["cloudServers"] => some (cloudServers p)
    | ["cloudServers", s] => some (cloudServer p s)
    | ["cloudServers", s, "dataVolumes"] => some (dataVolumes p s)
    | _ => none
  | "projects" :: p :: "providers" :: "Aruba.Storage" :: rest =>
    match rest with
    | ["blockStorages"] => some (blockStorages p)
    | ["blockStorages", id] => some (blockStorage p id)
    | _ => none
  | _ => none

theorem ofSegments?_segments (e : Endpoint) :
  ofSegments? e.segments = some e
  := by
  cases e <;> rfl

/-! ## Paths -/

/-- The endpoint with the given path. -/
def ofPath? (path : String) : Option Endpoint :=
  match pieces (· == '/') path.toList with
  | [] :: segments => ofSegments? (segments.map String.ofList)
  | _ => none

/-- A plain endpoint is read back from its path. -/
theorem ofPath?_path (plain : e.IsPlain) :
  ofPath? e.path = some e
  := by
  have texts : (e.segments.map String.toList).map String.ofList = e.segments := by
    simp [Function.comp_def]
  rw [ofPath?, path, pieces_pathOf plain.slash_notMem]
  dsimp only
  rw [texts, ofSegments?_segments]

end Endpoint

/-! ## Collections and resources -/

namespace Kind

open Endpoint

variable {K K' : Kind} {links : K.Links} {links' : K'.Links} {id id' project server : String}

theorem content_collection (K : Kind) (links : K.Links) :
  (K.collection links).content = .resources K
  := by
  cases K <;> rfl

theorem content_item (K : Kind) (links : K.Links) (id : String) :
  (K.item links id).content = .resource K
  := by
  cases K <;> rfl

/-- The identifiers of a resource are those of its parents and its own. -/
theorem ids_item (K : Kind) (links : K.Links) (id : String) :
  (K.item links id).ids = (K.collection links).ids ++ [id]
  := by
  cases K <;> rfl

theorem collection_inj (same : K.collection links = K'.collection links') :
  K = K' ∧ (K.collection links).ids = (K'.collection links').ids
  := by
  have found := congrArg content same
  rw [content_collection, content_collection] at found
  exact ⟨Content.resources.inj found, congrArg ids same⟩

theorem item_inj (same : K.item links id = K'.item links' id') :
  K = K' ∧ (K.collection links).ids = (K'.collection links').ids ∧ id = id'
  := by
  have found := congrArg content same
  rw [content_item, content_item] at found
  have leads := congrArg ids same
  rw [ids_item, ids_item] at leads
  obtain ⟨parents, own⟩ := List.append_inj' leads rfl
  exact ⟨Content.resource.inj found, parents, List.singleton_inj.mp own⟩

theorem item_ne_collection :
  K.item links id ≠ K'.collection links'
  := by
  apply ne_of_apply_ne content
  rw [content_item, content_collection]
  exact nofun

theorem collection_ne_dataVolumes :
  K.collection links ≠ .dataVolumes project server
  := by
  apply ne_of_apply_ne content
  rw [content_collection]
  exact nofun

theorem item_ne_dataVolumes :
  K.item links id ≠ .dataVolumes project server
  := by
  apply ne_of_apply_ne content
  rw [content_item]
  exact nofun

end Kind

namespace Endpoint

/-- Plain endpoints are told apart by their paths, whichever identifiers are empty:

* two of them have the same path just if they are the same;
* collections with the same path are of one kind and have the same parents;
* resources with the same path are of one kind and have the same parents and the same identifier;
* no resource has the path of a collection;
* the data volumes of a server have neither the path of a collection nor that of a resource. -/
theorem paths_tell_apart :
  (∀ e e' : Endpoint, e.IsPlain → e'.IsPlain → (e.path = e'.path ↔ e = e')) ∧
  (∀ (K K' : Kind) (links : K.Links) (links' : K'.Links),
    (K.collection links).IsPlain → (K'.collection links').IsPlain →
      (K.collection links).path = (K'.collection links').path →
        K = K' ∧ (K.collection links).ids = (K'.collection links').ids) ∧
  (∀ (K K' : Kind) (links : K.Links) (links' : K'.Links) (id id' : String),
    (K.item links id).IsPlain → (K'.item links' id').IsPlain →
      (K.item links id).path = (K'.item links' id').path →
        K = K' ∧ (K.collection links).ids = (K'.collection links').ids ∧ id = id') ∧
  (∀ (K K' : Kind) (links : K.Links) (links' : K'.Links) (id : String),
    (K.item links id).IsPlain → (K'.collection links').IsPlain →
      (K.item links id).path ≠ (K'.collection links').path) ∧
  (∀ project server, (dataVolumes project server).IsPlain →
    ∀ (K : Kind) (links : K.Links),
      ((K.collection links).IsPlain →
        (K.collection links).path ≠ (dataVolumes project server).path) ∧
      ∀ id, (K.item links id).IsPlain →
        (K.item links id).path ≠ (dataVolumes project server).path)
  := by
  have tells (e e' : Endpoint) (plain : e.IsPlain) (plain' : e'.IsPlain)
      (same : e.path = e'.path) : e = e' := by
    apply Option.some.inj
    rw [← ofPath?_path plain, same, ofPath?_path plain']
  refine ⟨?_, ?_, ?_, ?_, ?_⟩
  · exact fun e e' plain plain' => ⟨tells e e' plain plain', congrArg path⟩
  · intro K K' links links' plain plain' same
    apply Kind.collection_inj (tells _ _ plain plain' same)
  · intro K K' links links' id id' plain plain' same
    apply Kind.item_inj (tells _ _ plain plain' same)
  · intro K K' links links' id plain plain' same
    apply Kind.item_ne_collection (tells _ _ plain plain' same)
  · intro project server plain K links
    constructor
    · intro plain' same
      apply Kind.collection_ne_dataVolumes (tells _ _ plain' plain same)
    · intro id plain' same
      apply Kind.item_ne_dataVolumes (tells _ _ plain' plain same)

/-- Resources and collections whose identifiers are empty, or are words of the API. -/
theorem paths_tell_apart_unnamed :
  (Kind.vpc.item ⟨""⟩ "").IsPlain ∧ (Kind.vpc.collection ⟨""⟩).IsPlain ∧
    (Kind.subnet.collection ⟨"subnets", ""⟩).IsPlain ∧
    (Kind.subnet.collection ⟨"", "subnets"⟩).IsPlain ∧
    (vpc "" "").path ≠ (vpcs "").path ∧
    (subnets "subnets" "").path ≠ (subnets "" "subnets").path
  := by
  have vpc : (Kind.vpc.item ⟨""⟩ "").IsPlain := by decide
  have vpcs : (Kind.vpc.collection ⟨""⟩).IsPlain := by decide
  have first : (Kind.subnet.collection ⟨"subnets", ""⟩).IsPlain := by decide
  have second : (Kind.subnet.collection ⟨"", "subnets"⟩).IsPlain := by decide
  obtain ⟨-, collections, -, apart, -⟩ := paths_tell_apart
  refine ⟨vpc, vpcs, first, second, apart _ _ _ _ _ vpc vpcs, fun same => ?_⟩
  obtain ⟨-, parents⟩ := collections _ _ _ _ first second same
  apply absurd parents (by decide)

/-- An identifier with slashes leads elsewhere. -/
example : (project "p/providers/Aruba.Network/vpcs").path = (vpcs "p").path := by decide

end Endpoint

end CloudOperator
