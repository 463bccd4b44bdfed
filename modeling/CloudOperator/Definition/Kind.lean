import CloudOperator.Resource.Object

/-!
# Definitions of the kinds

The definition by which a kind is made known to a cluster: its names, the columns
in which its objects are listed, and the schema of its objects.
-/

namespace CloudOperator

/-- A column in which objects are listed. -/
structure Column where
  name : String
  type : String
  /-- The place of the value in an object. -/
  path : String

namespace Column

/-- The JSON of a column. -/
def toJson (c : Column) : Json :=
  .object [("jsonPath", .text c.path), ("name", .text c.name), ("type", .text c.type)]

/-- The phase of an object. -/
def phase : Column :=
  ⟨"Phase", "string", ".status.phase"⟩

/-- The identifier of the remote resource of an object. -/
def resourceID : Column :=
  ⟨"Resource ID", "string", ".status.resourceID"⟩

/-- The message of the status of an object. -/
def message : Column :=
  ⟨"Message", "string", ".status.message"⟩

/-- The age of an object. -/
def age : Column :=
  ⟨"Age", "date", ".metadata.creationTimestamp"⟩

end Column

namespace Kind

/-- The short name of a kind on a command line. -/
def shortName : Kind → String
  | project => "aproj"
  | vpc => "avpc"
  | subnet => "asub"
  | securityGroup => "asg"
  | securityRule => "asr"
  | keyPair => "akp"
  | elasticIp => "aeip"
  | blockStorage => "abs"
  | cloudServer => "acs"

/-- The columns in which the objects of a kind are listed. -/
def columns : Kind → List Column
  | subnet => [.phase, .resourceID, ⟨"Address", "string", ".spec.network.address"⟩, .age]
  | securityRule =>
    [.phase, .resourceID, ⟨"Protocol", "string", ".spec.protocol"⟩,
      ⟨"Direction", "string", ".spec.direction"⟩, .message, .age]
  | blockStorage => [.phase, .resourceID, ⟨"Size", "integer", ".spec.sizeGb"⟩, .age]
  | cloudServer =>
    [.phase, .resourceID, ⟨"Flavor", "string", ".spec.flavorName"⟩, .message, .age]
  | _ => [.phase, .resourceID, .message, .age]

/-- What the published schema says about a kind after its title. -/
def remarks : Kind → List String
  | project => [
      "",
      "# Example",
      "",
      "```yaml",
      "apiVersion: cloud.aruba.it/v1alpha1",
      "kind: ArubaProject",
      "metadata:",
      "  name: payments",
      "  namespace: team-payments",
      "spec:",
      "  tenant: ARU-123456",
      "  description: Payments platform",
      "  tags: [\"payments\", \"prod\"]",
      "```"]
  | securityRule => [
      "",
      "# Example",
      "",
      "```yaml",
      "apiVersion: cloud.aruba.it/v1alpha1",
      "kind: ArubaSecurityRule",
      "metadata:",
      "  name: allow-https",
      "spec:",
      "  tenant: ARU-123456",
      "  location:",
      "    value: ITBG-Bergamo",
      "  protocol: TCP",
      "  port: \"443\"",
      "  direction: Ingress",
      "  target:",
      "    kind: Ip",
      "    value: 0.0.0.0/0",
      "  securityGroupReference:",
      "    name: web",
      "  vpcReference:",
      "    name: main",
      "  projectReference:",
      "    name: payments",
      "```"]
  | blockStorage => [
      "",
      "Used both as a cloud server boot volume (`bootable` with an `image`) and as a data volume."]
  | cloudServer => [
      "",
      "Wires a VPC, subnets, security groups, a boot volume, a key pair and optionally an",
      "elastic IP into one server. Data volumes listed in `dataVolumeReferences` are attached",
      "and detached in place as the list changes.",
      "",
      "# Example",
      "",
      "```yaml",
      "apiVersion: cloud.aruba.it/v1alpha1",
      "kind: ArubaCloudServer",
      "metadata:",
      "  name: api-1",
      "spec:",
      "  tenant: ARU-123456",
      "  location:",
      "    value: ITBG-Bergamo",
      "  dataCenter: ITBG-1",
      "  flavorName: CSO4A8",
      "  projectReference: \x7b name: payments \x7d",
      "  vpcReference: \x7b name: main \x7d",
      "  bootVolumeReference: \x7b name: api-1-boot \x7d",
      "  keyPairReference: \x7b name: ops \x7d",
      "  subnetReferences: [\x7b name: backend \x7d]",
      "  securityGroupReferences: [\x7b name: web \x7d]",
      "  dataVolumeReferences: [\x7b name: api-1-data \x7d]",
      "```"]
  | _ => []

/-- What the published schema says about a kind. -/
def description (K : Kind) : String :=
  "\n".intercalate ((K.name ++ " Custom Resource Definition") :: K.remarks)

/-- The schema of the specifications of a kind. -/
def specSchema (K : Kind) : List (String × Json) :=
  ((Codec.record K.specFields).described K.description).schema

/-- The schema of the objects of a kind. -/
def objectSchema (K : Kind) : Json :=
  .object [
    ("description",
      .text ("Auto-generated derived type for " ++ K.name ++ "Spec via `CustomResource`")),
    ("properties", .object [
      ("spec", .object K.specSchema),
      ("status", .object (Codec.nullableSchema (Status.codec K).schema))]),
    ("required", .array [.text "spec"]),
    ("title", .text K.name),
    ("type", .text "object")]

/-- The definition of a kind. -/
def definition (K : Kind) : Json :=
  .object [
    ("apiVersion", .text "apiextensions.k8s.io/v1"),
    ("kind", .text "CustomResourceDefinition"),
    ("metadata", .object [("name", .text (K.plural ++ "." ++ group))]),
    ("spec", .object [
      ("group", .text group),
      ("names", .object [
        ("categories", .array []),
        ("kind", .text K.name),
        ("plural", .text K.plural),
        ("shortNames", .array [.text K.shortName]),
        ("singular", .text K.singular)]),
      ("scope", .text "Namespaced"),
      ("versions", .array [.object [
        ("additionalPrinterColumns", .array (K.columns.map Column.toJson)),
        ("name", .text version),
        ("schema", .object [("openAPIV3Schema", K.objectSchema)]),
        ("served", .bool true),
        ("storage", .bool true),
        ("subresources", .object [("status", .object [])])]])])]

end Kind

end CloudOperator
