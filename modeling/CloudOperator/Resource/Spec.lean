import CloudOperator.Resource.Reference

/-!
# Specifications

What a user asks for in an object, one record for each kind of object, and the
fields it is given by.
-/

namespace CloudOperator

/-- The tenant that owns an object. -/
def tenantField : Fields String :=
  Fields.required "tenant" .text

/-- The tags of an object. -/
def tagsField : Fields (List String) :=
  Fields.defaulted "tags" (.list .text) []

/-- The location of an object. -/
def locationField : Fields Location :=
  Fields.required "location" Location.codec

/-- A flag that is off where it is absent. -/
def flagField (name : String) : Fields Bool :=
  Fields.defaulted name .flag false

/-- A reference that cannot be absent. -/
def referenceField (name : String) : Fields Reference :=
  Fields.required name Reference.codec

/-- References, none where they are absent. -/
def referencesField (name : String) : Fields (List Reference) :=
  Fields.defaulted name (.list Reference.codec) []

/-- A project, the root of all other resources. -/
structure ProjectSpec where
  tenant : String
  tags : List String
  description : String
  default : Bool
deriving DecidableEq, Repr

/-- The fields of the specification of a project. -/
def ProjectSpec.fields : Fields ProjectSpec :=
  (tenantField.described "Owning account/tenant"
    >> tagsField
    >> Fields.defaulted "description" .text ""
    >> (flagField "default").described "Mark as the tenant's default project").as
    (fun (tenant, tags, description, default) => ⟨tenant, tags, description, default⟩)
    (fun s => (s.tenant, s.tags, s.description, s.default))

/-- A virtual private cloud in a project. -/
structure VpcSpec where
  tenant : String
  tags : List String
  location : Location
  default : Bool
  preset : Bool
  project : Reference
deriving DecidableEq, Repr

/-- The fields of the specification of a virtual private cloud. -/
def VpcSpec.fields : Fields VpcSpec :=
  (tenantField
    >> tagsField
    >> locationField
    >> flagField "default"
    >> flagField "preset"
    >> referenceField "projectReference").as
    (fun (tenant, tags, location, default, preset, project) =>
      ⟨tenant, tags, location, default, preset, project⟩)
    (fun s => (s.tenant, s.tags, s.location, s.default, s.preset, s.project))

/-- The network of a subnet. -/
structure SubnetNetwork where
  address : String
deriving DecidableEq, Repr

/-- The fields of the network of a subnet. -/
def SubnetNetwork.fields : Fields SubnetNetwork :=
  ((Fields.required "address" .text).described "CIDR address (e.g., \"10.0.1.0/24\")").as
    (fun address => ⟨address⟩) (·.address)

/-- The address assignment of a subnet. -/
structure SubnetDhcp where
  enabled : Bool
deriving DecidableEq, Repr

/-- The fields of the address assignment of a subnet. -/
def SubnetDhcp.fields : Fields SubnetDhcp :=
  (Fields.required "enabled" .flag).as (fun enabled => ⟨enabled⟩) (·.enabled)

/-- A subnet in a virtual private cloud. -/
structure SubnetSpec where
  tenant : String
  tags : List String
  type : String
  default : Bool
  network : SubnetNetwork
  dhcp : SubnetDhcp
  vpc : Reference
  project : Reference
deriving DecidableEq, Repr

/-- The fields of the specification of a subnet. -/
def SubnetSpec.fields : Fields SubnetSpec :=
  (tenantField
    >> tagsField
    >> (Fields.required "type" .text).described "Subnet type (Basic, Advanced)"
    >> flagField "default"
    >> Fields.required "network" (.record SubnetNetwork.fields)
    >> Fields.required "dhcp" (.record SubnetDhcp.fields)
    >> referenceField "vpcReference"
    >> referenceField "projectReference").as
    (fun (tenant, tags, type, default, network, dhcp, vpc, project) =>
      ⟨tenant, tags, type, default, network, dhcp, vpc, project⟩)
    (fun s => (s.tenant, s.tags, s.type, s.default, s.network, s.dhcp, s.vpc, s.project))

/-- A security group in a virtual private cloud. -/
structure SecurityGroupSpec where
  tenant : String
  tags : List String
  location : Location
  default : Bool
  vpc : Reference
  project : Reference
deriving DecidableEq, Repr

/-- The fields of the specification of a security group. -/
def SecurityGroupSpec.fields : Fields SecurityGroupSpec :=
  (tenantField
    >> tagsField
    >> locationField
    >> flagField "default"
    >> referenceField "vpcReference"
    >> referenceField "projectReference").as
    (fun (tenant, tags, location, default, vpc, project) =>
      ⟨tenant, tags, location, default, vpc, project⟩)
    (fun s => (s.tenant, s.tags, s.location, s.default, s.vpc, s.project))

/-- What a security rule applies to. -/
structure RuleTarget where
  kind : String
  value : String
deriving DecidableEq, Repr

/-- The fields of what a security rule applies to. -/
def RuleTarget.fields : Fields RuleTarget :=
  ((Fields.required "kind" .text).described "Ip or SecurityGroup"
    >> (Fields.required "value" .text).described "CIDR or security group URI").as
    (fun (kind, value) => ⟨kind, value⟩) (fun t => (t.kind, t.value))

/-- A rule in a security group. -/
structure SecurityRuleSpec where
  tenant : String
  tags : List String
  location : Location
  protocol : String
  port : String
  direction : String
  target : RuleTarget
  securityGroup : Reference
  vpc : Reference
  project : Reference
deriving DecidableEq, Repr

/-- The fields of the specification of a security rule. -/
def SecurityRuleSpec.fields : Fields SecurityRuleSpec :=
  (tenantField
    >> tagsField
    >> locationField
    >> (Fields.required "protocol" .text).described "TCP, UDP, ICMP or ALL"
    >> (Fields.required "port" .text).described "Port or range (e.g., \"80\", \"80-90\", \"ALL\")"
    >> (Fields.required "direction" .text).described "Ingress or Egress"
    >> Fields.required "target" (.record RuleTarget.fields)
    >> referenceField "securityGroupReference"
    >> referenceField "vpcReference"
    >> referenceField "projectReference").as
    (fun (tenant, tags, location, protocol, port, direction, target, group, vpc, project) =>
      ⟨tenant, tags, location, protocol, port, direction, target, group, vpc, project⟩)
    (fun s => (s.tenant, s.tags, s.location, s.protocol, s.port, s.direction, s.target,
      s.securityGroup, s.vpc, s.project))

/-- A public key for access to servers. -/
structure KeyPairSpec where
  tenant : String
  tags : List String
  location : Location
  value : String
  project : Reference
deriving DecidableEq, Repr

/-- The fields of the specification of a key pair. -/
def KeyPairSpec.fields : Fields KeyPairSpec :=
  (tenantField
    >> tagsField
    >> locationField
    >> (Fields.required "value" .text).described "Public key material (OpenSSH format)"
    >> referenceField "projectReference").as
    (fun (tenant, tags, location, value, project) => ⟨tenant, tags, location, value, project⟩)
    (fun s => (s.tenant, s.tags, s.location, s.value, s.project))

/-- How a resource is paid for. -/
structure BillingPlan where
  billingPeriod : String
deriving DecidableEq, Repr

/-- The fields of a billing plan. -/
def BillingPlan.fields : Fields BillingPlan :=
  ((Fields.required "billingPeriod" .text).described "Hour, Month or Year").as
    (fun period => ⟨period⟩) (·.billingPeriod)

/-- A public address. -/
structure ElasticIpSpec where
  tenant : String
  tags : List String
  location : Location
  billingPlan : BillingPlan
  project : Reference
deriving DecidableEq, Repr

/-- The fields of the specification of a public address. -/
def ElasticIpSpec.fields : Fields ElasticIpSpec :=
  (tenantField
    >> tagsField
    >> locationField
    >> Fields.required "billingPlan" (.record BillingPlan.fields)
    >> referenceField "projectReference").as
    (fun (tenant, tags, location, plan, project) => ⟨tenant, tags, location, plan, project⟩)
    (fun s => (s.tenant, s.tags, s.location, s.billingPlan, s.project))

/-- A volume, which a server boots from or keeps data on. -/
structure BlockStorageSpec where
  tenant : String
  tags : List String
  location : Location
  sizeGb : Int32
  billingPeriod : String
  dataCenter : String
  type : String
  bootable : Bool
  image : String
  project : Reference
deriving DecidableEq, Repr

/-- The fields of the specification of a volume. -/
def BlockStorageSpec.fields : Fields BlockStorageSpec :=
  (tenantField
    >> tagsField
    >> locationField
    >> Fields.required "sizeGb" .int32
    >> Fields.required "billingPeriod" .text
    >> Fields.required "dataCenter" .text
    >> (Fields.defaulted "type" .text "").described "Performance class (Standard, Performance)"
    >> flagField "bootable"
    >> (Fields.defaulted "image" .text "").described "Image installed on a bootable volume"
    >> referenceField "projectReference").as
    (fun (tenant, tags, location, size, period, dataCenter, type, bootable, image, project) =>
      ⟨tenant, tags, location, size, period, dataCenter, type, bootable, image, project⟩)
    (fun s => (s.tenant, s.tags, s.location, s.sizeGb, s.billingPeriod, s.dataCenter, s.type,
      s.bootable, s.image, s.project))

/-- A server and all that it is wired to. -/
structure CloudServerSpec where
  tenant : String
  tags : List String
  location : Location
  dataCenter : String
  vpcPreset : Bool
  flavorName : String
  project : Reference
  vpc : Reference
  bootVolume : Reference
  keyPair : Reference
  subnets : List Reference
  securityGroups : List Reference
  elasticIp : Option Reference
  dataVolumes : List Reference
deriving DecidableEq, Repr

/-- The fields of the specification of a server. -/
def CloudServerSpec.fields : Fields CloudServerSpec :=
  (tenantField
    >> tagsField
    >> locationField
    >> Fields.required "dataCenter" .text
    >> flagField "vpcPreset"
    >> Fields.required "flavorName" .text
    >> referenceField "projectReference"
    >> referenceField "vpcReference"
    >> referenceField "bootVolumeReference"
    >> referenceField "keyPairReference"
    >> referencesField "subnetReferences"
    >> referencesField "securityGroupReferences"
    >> Fields.omittable "elasticIpReference" Reference.codec
    >> referencesField "dataVolumeReferences").as
    (fun (tenant, tags, location, dataCenter, vpcPreset, flavorName, project, vpc, bootVolume,
        keyPair, subnets, securityGroups, elasticIp, dataVolumes) =>
      ⟨tenant, tags, location, dataCenter, vpcPreset, flavorName, project, vpc, bootVolume,
        keyPair, subnets, securityGroups, elasticIp, dataVolumes⟩)
    (fun s => (s.tenant, s.tags, s.location, s.dataCenter, s.vpcPreset, s.flavorName, s.project,
      s.vpc, s.bootVolume, s.keyPair, s.subnets, s.securityGroups, s.elasticIp, s.dataVolumes))

end CloudOperator
