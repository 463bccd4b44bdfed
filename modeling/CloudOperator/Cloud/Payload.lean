import CloudOperator.Cloud.Endpoint
import CloudOperator.Resource.Object

/-!
# Payloads

The places of the resources of each kind in the remote API, and the bodies by which
they are created and updated.  A place is made of the links that the status of an
object records, and so are the references in the body for a server.
-/

namespace CloudOperator

namespace Kind

/-- The collection that a resource with the given links lies in. -/
def collection : (K : Kind) → K.Links → Endpoint
  | project, _ => .projects
  | vpc, l => .vpcs (ProjectLink.project l)
  | subnet, l => .subnets (VpcLinks.project l) (VpcLinks.vpc l)
  | securityGroup, l => .securityGroups (VpcLinks.project l) (VpcLinks.vpc l)
  | securityRule, l =>
    .securityRules (GroupLinks.project l) (GroupLinks.vpc l) (GroupLinks.securityGroup l)
  | keyPair, l => .keyPairs (ProjectLink.project l)
  | elasticIp, l => .elasticIps (ProjectLink.project l)
  | blockStorage, l => .blockStorages (ProjectLink.project l)
  | cloudServer, l => .cloudServers (ServerLinks.project l)

/-- The resource with an identifier in the collection of the given links. -/
def item : (K : Kind) → K.Links → (id : String) → Endpoint
  | project, _, id => .project id
  | vpc, l, id => .vpc (ProjectLink.project l) id
  | subnet, l, id => .subnet (VpcLinks.project l) (VpcLinks.vpc l) id
  | securityGroup, l, id => .securityGroup (VpcLinks.project l) (VpcLinks.vpc l) id
  | securityRule, l, id =>
    .securityRule (GroupLinks.project l) (GroupLinks.vpc l) (GroupLinks.securityGroup l) id
  | keyPair, l, id => .keyPair (ProjectLink.project l) id
  | elasticIp, l, id => .elasticIp (ProjectLink.project l) id
  | blockStorage, l, id => .blockStorage (ProjectLink.project l) id
  | cloudServer, l, id => .cloudServer (ServerLinks.project l) id

/-- The tags of a specification. -/
def tags : (K : Kind) → K.Spec → List String
  | project, s => ProjectSpec.tags s
  | vpc, s => VpcSpec.tags s
  | subnet, s => SubnetSpec.tags s
  | securityGroup, s => SecurityGroupSpec.tags s
  | securityRule, s => SecurityRuleSpec.tags s
  | keyPair, s => KeyPairSpec.tags s
  | elasticIp, s => ElasticIpSpec.tags s
  | blockStorage, s => BlockStorageSpec.tags s
  | cloudServer, s => CloudServerSpec.tags s

/-- The location of a specification, if resources of the kind have one of their
own. -/
def location? : (K : Kind) → K.Spec → Option Location
  | project, _ | subnet, _ => none
  | vpc, s => some (VpcSpec.location s)
  | securityGroup, s => some (SecurityGroupSpec.location s)
  | securityRule, s => some (SecurityRuleSpec.location s)
  | keyPair, s => some (KeyPairSpec.location s)
  | elasticIp, s => some (ElasticIpSpec.location s)
  | blockStorage, s => some (BlockStorageSpec.location s)
  | cloudServer, s => some (CloudServerSpec.location s)

end Kind

namespace Payload

/-- A member with a text. -/
def text (name value : String) : List (String × Json) :=
  [(name, .text value)]

/-- A member with a text, left out if the text is empty. -/
def textUnlessEmpty (name value : String) : List (String × Json) :=
  if value = "" then [] else text name value

/-- A member with a truth value. -/
def flag (name : String) (value : Bool) : List (String × Json) :=
  [(name, .bool value)]

/-- A member that is there if it is true. -/
def flagIfSet (name : String) (value : Bool) : List (String × Json) :=
  if value then flag name true else []

/-- A reference to a resource by its path. -/
def uri (e : Endpoint) : Json :=
  .object (text "uri" e.path)

/-- A member with a list, left out if the list is empty. -/
def listUnlessEmpty (name : String) (items : List Json) : List (String × Json) :=
  if items.isEmpty then [] else [(name, .array items)]

/-- The metadata of a resource in a body. -/
def metadata {K : Kind} (o : Object K) : Json :=
  .object <|
    text "name" o.metadata.displayName
      ++ listUnlessEmpty "tags" ((K.tags o.spec).map .text)
      ++ ((K.location? o.spec).map fun l => ("location", Location.codec.encode l)).toList

/-- A body that describes a resource. -/
def body {K : Kind} (o : Object K) (properties : List (String × Json)) : Json :=
  .object [("metadata", metadata o), ("properties", .object properties)]

/-- The properties by which a server is wired to subnets, security groups and a
public address. -/
def attachments (l : ServerLinks) : List (String × Json) :=
  (if l.elasticIp = "" then [] else [("elasticIp", uri (.elasticIp l.project l.elasticIp))])
    ++ listUnlessEmpty "subnets" (l.subnets.map fun id => uri (.subnet l.project l.vpc id))
    ++ listUnlessEmpty "securityGroups"
      (l.securityGroups.map fun id => uri (.securityGroup l.project l.vpc id))

/-- The properties of a project. -/
def project (s : ProjectSpec) : List (String × Json) :=
  textUnlessEmpty "description" s.description ++ flagIfSet "default" s.default

/-- The properties of a subnet. -/
def subnet (s : SubnetSpec) : List (String × Json) :=
  text "type" s.type
    ++ flag "default" s.default
    ++ [("network", .object (SubnetNetwork.fields.encode s.network)),
      ("dhcp", .object (SubnetDhcp.fields.encode s.dhcp))]

/-- The properties of a security rule. -/
def securityRule (s : SecurityRuleSpec) : List (String × Json) :=
  text "protocol" s.protocol
    ++ text "port" s.port
    ++ text "direction" s.direction
    ++ [("target", .object (RuleTarget.fields.encode s.target))]

/-- The properties of a public address. -/
def elasticIp (s : ElasticIpSpec) : List (String × Json) :=
  [("billingPlan", .object (BillingPlan.fields.encode s.billingPlan))]

/-- The properties of a volume that can change. -/
def volume (s : BlockStorageSpec) : List (String × Json) :=
  [("sizeGb", Codec.int32.encode s.sizeGb)]
    ++ text "billingPeriod" s.billingPeriod
    ++ text "dataCenter" s.dataCenter

/-- The properties of a server that is wired as its links say. -/
def server (s : CloudServerSpec) (l : ServerLinks) : List (String × Json) :=
  textUnlessEmpty "dataCenter" s.dataCenter
    ++ [("vpc", uri (.vpc l.project l.vpc)),
      ("bootVolume", uri (.blockStorage l.project l.bootVolume))]
    ++ flagIfSet "vpcPreset" s.vpcPreset
    ++ textUnlessEmpty "flavorName" s.flavorName
    ++ [("keyPair", uri (.keyPair l.project l.keyPair))]
    ++ attachments l

/-- The properties by which a resource is created. -/
def creation : (K : Kind) → K.Spec → K.Links → List (String × Json)
  | .project, s, _ => project s
  | .vpc, s, _ => flag "default" (VpcSpec.default s) ++ flag "preset" (VpcSpec.preset s)
  | .subnet, s, _ => subnet s
  | .securityGroup, s, _ => flag "default" (SecurityGroupSpec.default s)
  | .securityRule, s, _ => securityRule s
  | .keyPair, s, _ => text "value" (KeyPairSpec.value s)
  | .elasticIp, s, _ => elasticIp s
  | .blockStorage, s, _ =>
    volume s
      ++ textUnlessEmpty "type" (BlockStorageSpec.type s)
      ++ flagIfSet "bootable" (BlockStorageSpec.bootable s)
      ++ textUnlessEmpty "image" (BlockStorageSpec.image s)
  | .cloudServer, s, l => server s l

/-- The properties by which a resource is updated.  Nothing of a virtual private
cloud can change, only some of a volume, and of a server only what it is attached
to. -/
def update : (K : Kind) → K.Spec → K.Links → List (String × Json)
  | .vpc, _, _ => flag "default" false ++ flag "preset" false
  | .blockStorage, s, _ => volume s
  | .cloudServer, _, l => attachments l
  | K, s, l => creation K s l

/-- The body of a request to attach volumes to a server and to detach others. -/
def dataVolumes (l : ServerLinks) (attach detach : List String) : Json :=
  let uris ids := Json.array (ids.map fun id => uri (.blockStorage l.project id))
  .object [("volumesToAttach", uris attach), ("volumesToDetach", uris detach)]

end Payload

end CloudOperator
