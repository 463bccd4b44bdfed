import CloudOperator.Operation

/-!
# Resolution of references

How references become the identifiers of remote resources, by the status of the
objects that they lead to.  `Kind.resolveLinks` resolves all that a resource of a
kind is created from, in order, and stops at the first reference that cannot be
resolved.
-/

namespace CloudOperator

/-- The identifier of the remote resource of the object that a reference leads to.
Without a namespace of its own, the reference is looked up in `ns`. -/
def Reference.resolve (ns : String) (K : Kind) (r : Reference) : Attempt String := do
  let ns := r.namespaceOr ns
  match ← Pass.perform (.load K ns r.name) with
  | .error cause => throw (.store cause)
  | .ok none => throw (.referenceNotFound K.name ns r.name)
  | .ok (some o) =>
    if o.resourceID = "" then throw (.dependencyNotReady K.name ns r.name)
    else return o.resourceID

/-- The identifiers that references to objects of a kind lead to. -/
def Reference.resolveAll (ns : String) (K : Kind) (rs : List Reference) : Attempt (List String) :=
  rs.mapM (Reference.resolve ns K)

/-- The identifier that a reference leads to, empty without a reference. -/
def Reference.resolveIfAny (ns : String) (K : Kind) : Option Reference → Attempt String
  | some r => r.resolve ns K
  | none => return ""

namespace Kind

/-- The links of a server after those of its attachments are resolved again. -/
def resolveAttachments (ns : String) (s : CloudServerSpec) (l : ServerLinks) :
    Attempt ServerLinks := do
  let subnets ← Reference.resolveAll ns subnet s.subnets
  let securityGroups ← Reference.resolveAll ns securityGroup s.securityGroups
  let elasticIp ← Reference.resolveIfAny ns elasticIp s.elasticIp
  return { l with subnets, securityGroups, elasticIp }

/-- The links by which the resource of an object is created, in place of those that
it has. -/
def resolveLinks (ns : String) : (K : Kind) → K.Spec → K.Links → Attempt K.Links
  | project, _, l => return l
  | vpc, s, _ => return ⟨← (VpcSpec.project s).resolve ns project⟩
  | keyPair, s, _ => return ⟨← (KeyPairSpec.project s).resolve ns project⟩
  | elasticIp, s, _ => return ⟨← (ElasticIpSpec.project s).resolve ns project⟩
  | blockStorage, s, _ => return ⟨← (BlockStorageSpec.project s).resolve ns project⟩
  | subnet, s, _ =>
    return ⟨← (SubnetSpec.project s).resolve ns project, ← (SubnetSpec.vpc s).resolve ns vpc⟩
  | securityGroup, s, _ =>
    return ⟨← (SecurityGroupSpec.project s).resolve ns project,
      ← (SecurityGroupSpec.vpc s).resolve ns vpc⟩
  | securityRule, s, _ =>
    return ⟨← (SecurityRuleSpec.project s).resolve ns project,
      ← (SecurityRuleSpec.vpc s).resolve ns vpc,
      ← (SecurityRuleSpec.securityGroup s).resolve ns securityGroup⟩
  | cloudServer, s, l => do
    let project ← (CloudServerSpec.project s).resolve ns project
    let vpc ← (CloudServerSpec.vpc s).resolve ns vpc
    let bootVolume ← (CloudServerSpec.bootVolume s).resolve ns blockStorage
    let keyPair ← (CloudServerSpec.keyPair s).resolve ns keyPair
    resolveAttachments ns s { (l : ServerLinks) with project, vpc, bootVolume, keyPair }

end Kind

end CloudOperator
