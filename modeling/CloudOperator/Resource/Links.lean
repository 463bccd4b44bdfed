import CloudOperator.Codec.Fields

/-!
# Links

The identifiers of other remote resources that the status of an object records:
those that its own resource lies in, and for a server those it is wired to.  An
identifier that is not known yet is empty.
-/

namespace CloudOperator

/-- A recorded identifier. -/
def linkField (name : String) : Fields String :=
  Fields.defaulted name .text ""

/-- Recorded identifiers. -/
def linksField (name : String) : Fields (List String) :=
  Fields.defaulted name (.list .text) []

/-- The project that a resource lies in. -/
structure ProjectLink where
  project : String
deriving DecidableEq, Repr

/-- The field of the project that a resource lies in. -/
def ProjectLink.fields : Fields ProjectLink :=
  (linkField "projectID").as (fun project => ⟨project⟩) (·.project)

/-- The virtual private cloud that a resource lies in. -/
structure VpcLinks where
  project : String
  vpc : String
deriving DecidableEq, Repr

/-- The fields of the virtual private cloud that a resource lies in. -/
def VpcLinks.fields : Fields VpcLinks :=
  (linkField "projectID" >> linkField "vpcID").as
    (fun (project, vpc) => ⟨project, vpc⟩) (fun l => (l.project, l.vpc))

/-- The security group that a rule lies in. -/
structure GroupLinks where
  project : String
  vpc : String
  securityGroup : String
deriving DecidableEq, Repr

/-- The fields of the security group that a rule lies in. -/
def GroupLinks.fields : Fields GroupLinks :=
  (linkField "projectID" >> linkField "vpcID" >> linkField "securityGroupID").as
    (fun (project, vpc, group) => ⟨project, vpc, group⟩)
    (fun l => (l.project, l.vpc, l.securityGroup))

/-- What a server is wired to. -/
structure ServerLinks where
  project : String
  vpc : String
  subnets : List String
  securityGroups : List String
  bootVolume : String
  elasticIp : String
  keyPair : String
  /-- The data volumes that are attached. -/
  dataVolumes : List String
deriving DecidableEq, Repr

/-- The fields of what a server is wired to. -/
def ServerLinks.fields : Fields ServerLinks :=
  (linkField "projectID"
    >> linkField "vpcID"
    >> linksField "subnetIDs"
    >> linksField "securityGroupIDs"
    >> linkField "bootVolumeID"
    >> linkField "elasticIpID"
    >> linkField "keyPairID"
    >> (linksField "dataVolumeIDs").described
      "Data volumes currently attached, as last confirmed by the remote API").as
    (fun (project, vpc, subnets, groups, boot, elasticIp, keyPair, volumes) =>
      ⟨project, vpc, subnets, groups, boot, elasticIp, keyPair, volumes⟩)
    (fun l => (l.project, l.vpc, l.subnets, l.securityGroups, l.bootVolume, l.elasticIp,
      l.keyPair, l.dataVolumes))

end CloudOperator
