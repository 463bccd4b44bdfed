/-!
# Endpoints

The places of the remote API: collections of resources and the resources in them.
An endpoint is a list of segments, and its path writes a slash before each.
-/

namespace CloudOperator

/-- A place of the remote API. -/
inductive Endpoint where
  | projects
  | project (project : String)
  | vpcs (project : String)
  | vpc (project vpc : String)
  | subnets (project vpc : String)
  | subnet (project vpc subnet : String)
  | securityGroups (project vpc : String)
  | securityGroup (project vpc group : String)
  | securityRules (project vpc group : String)
  | securityRule (project vpc group rule : String)
  | keyPairs (project : String)
  | keyPair (project keyPair : String)
  | elasticIps (project : String)
  | elasticIp (project address : String)
  | blockStorages (project : String)
  | blockStorage (project volume : String)
  | cloudServers (project : String)
  | cloudServer (project server : String)
  | dataVolumes (project server : String)
deriving DecidableEq, Repr

namespace Endpoint

/-- The segments of a place that a provider keeps in a project. -/
def provided (project provider : String) (rest : List String) : List String :=
  "projects" :: project :: "providers" :: provider :: rest

/-- The segments of a place of the network provider. -/
def network (project : String) (rest : List String) : List String :=
  provided project "Aruba.Network" rest

/-- The segments of a place of the compute provider. -/
def compute (project : String) (rest : List String) : List String :=
  provided project "Aruba.Compute" rest

/-- The segments of a place of the storage provider. -/
def storage (project : String) (rest : List String) : List String :=
  provided project "Aruba.Storage" rest

/-- The segments of an endpoint. -/
def segments : Endpoint → List String
  | projects => ["projects"]
  | project p => ["projects", p]
  | vpcs p => network p ["vpcs"]
  | vpc p v => network p ["vpcs", v]
  | subnets p v => network p ["vpcs", v, "subnets"]
  | subnet p v s => network p ["vpcs", v, "subnets", s]
  | securityGroups p v => network p ["vpcs", v, "securityGroups"]
  | securityGroup p v g => network p ["vpcs", v, "securityGroups", g]
  | securityRules p v g => network p ["vpcs", v, "securityGroups", g, "securityRules"]
  | securityRule p v g r => network p ["vpcs", v, "securityGroups", g, "securityRules", r]
  | keyPairs p => compute p ["keyPairs"]
  | keyPair p k => compute p ["keyPairs", k]
  | elasticIps p => network p ["elasticIps"]
  | elasticIp p a => network p ["elasticIps", a]
  | blockStorages p => storage p ["blockStorages"]
  | blockStorage p v => storage p ["blockStorages", v]
  | cloudServers p => compute p ["cloudServers"]
  | cloudServer p s => compute p ["cloudServers", s]
  | dataVolumes p s => compute p ["cloudServers", s, "dataVolumes"]

/-- The path of segments. -/
def pathOf (segments : List String) : String :=
  String.join (segments.map ("/" ++ ·))

/-- The path of an endpoint. -/
def path (e : Endpoint) : String :=
  pathOf e.segments

end Endpoint

end CloudOperator
