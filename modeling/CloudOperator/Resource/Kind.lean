import CloudOperator.Resource.Links
import CloudOperator.Resource.Spec

/-!
# Kinds

The nine kinds of objects.  A kind decides the type of the specification of its
objects, `Kind.Spec`, and the type of the identifiers that their status records,
`Kind.Links`.
-/

namespace CloudOperator

/-- A kind of object. -/
inductive Kind where
  | project
  | vpc
  | subnet
  | securityGroup
  | securityRule
  | keyPair
  | elasticIp
  | blockStorage
  | cloudServer
deriving DecidableEq, Repr

namespace Kind

/-- All kinds. -/
def all : List Kind :=
  [project, vpc, subnet, securityGroup, securityRule, keyPair, elasticIp, blockStorage, cloudServer]

/-- The name of a kind. -/
def name : Kind → String
  | project => "ArubaProject"
  | vpc => "ArubaVpc"
  | subnet => "ArubaSubnet"
  | securityGroup => "ArubaSecurityGroup"
  | securityRule => "ArubaSecurityRule"
  | keyPair => "ArubaKeyPair"
  | elasticIp => "ArubaNetworkElasticIp"
  | blockStorage => "ArubaBlockStorage"
  | cloudServer => "ArubaCloudServer"

/-- The name of a kind in lower case. -/
def singular (K : Kind) : String :=
  K.name.toLower

/-- The name of the objects of a kind in paths. -/
def plural (K : Kind) : String :=
  K.singular ++ "s"

/-- The kind of a name. -/
def ofName? (name : String) : Option Kind :=
  all.find? (·.name = name)

@[simp]
theorem ofName?_name (K : Kind) :
  ofName? K.name = some K
  := by
  cases K <;> decide

/-- The kind of a name in paths. -/
def ofPlural? (plural : String) : Option Kind :=
  all.find? (·.plural = plural)

@[simp]
theorem ofPlural?_plural (K : Kind) :
  ofPlural? K.plural = some K
  := by
  cases K <;> decide +kernel

/-- The group of interfaces that the kinds belong to. -/
def group : String :=
  "cloud.aruba.it"

/-- The version of the interfaces of the kinds. -/
def version : String :=
  "v1alpha1"

/-- The group and the version of the kinds. -/
def apiVersion : String :=
  group ++ "/" ++ version

/-- The finalizer by which the operator keeps an object until its remote resource
is gone. -/
def finalizer (K : Kind) : String :=
  K.singular ++ "." ++ group ++ "/finalizer"

/-- The specifications of the objects of a kind. -/
abbrev Spec : Kind → Type
  | project => ProjectSpec
  | vpc => VpcSpec
  | subnet => SubnetSpec
  | securityGroup => SecurityGroupSpec
  | securityRule => SecurityRuleSpec
  | keyPair => KeyPairSpec
  | elasticIp => ElasticIpSpec
  | blockStorage => BlockStorageSpec
  | cloudServer => CloudServerSpec

/-- The identifiers that the status of the objects of a kind records. -/
abbrev Links : Kind → Type
  | project => Unit
  | vpc | keyPair | elasticIp | blockStorage => ProjectLink
  | subnet | securityGroup => VpcLinks
  | securityRule => GroupLinks
  | cloudServer => ServerLinks

/-- The links of an object that has none yet. -/
def noLinks : (K : Kind) → K.Links
  | project => ()
  | vpc | keyPair | elasticIp | blockStorage => ⟨""⟩
  | subnet | securityGroup => ⟨"", ""⟩
  | securityRule => ⟨"", "", ""⟩
  | cloudServer => ⟨"", "", [], [], "", "", "", []⟩

/-- The fields of the specifications of a kind. -/
def specFields : (K : Kind) → Fields K.Spec
  | project => ProjectSpec.fields
  | vpc => VpcSpec.fields
  | subnet => SubnetSpec.fields
  | securityGroup => SecurityGroupSpec.fields
  | securityRule => SecurityRuleSpec.fields
  | keyPair => KeyPairSpec.fields
  | elasticIp => ElasticIpSpec.fields
  | blockStorage => BlockStorageSpec.fields
  | cloudServer => CloudServerSpec.fields

/-- The fields of the links of a kind. -/
def linkFields : (K : Kind) → Fields K.Links
  | project => Fields.empty
  | vpc => ProjectLink.fields.described "Project the VPC was created in"
  | keyPair | elasticIp | blockStorage => ProjectLink.fields
  | subnet | securityGroup => VpcLinks.fields
  | securityRule => GroupLinks.fields
  | cloudServer => ServerLinks.fields

/-- The tenant that a specification names. -/
def tenant : (K : Kind) → K.Spec → String
  | project, s => ProjectSpec.tenant s
  | vpc, s => VpcSpec.tenant s
  | subnet, s => SubnetSpec.tenant s
  | securityGroup, s => SecurityGroupSpec.tenant s
  | securityRule, s => SecurityRuleSpec.tenant s
  | keyPair, s => KeyPairSpec.tenant s
  | elasticIp, s => ElasticIpSpec.tenant s
  | blockStorage, s => BlockStorageSpec.tenant s
  | cloudServer, s => CloudServerSpec.tenant s

/-- Whether objects of the kind can be referred to by others. -/
def isReferable : Kind → Bool
  | securityRule | cloudServer => false
  | _ => true

end Kind

end CloudOperator
