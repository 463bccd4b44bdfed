import CloudOperator.Access.Credentials
import CloudOperator.Access.Token
import CloudOperator.Cloud.Request
import CloudOperator.Cluster.Server

/-!
# Scripts

What the surroundings of a simulated operator are told to answer: the remote API, the
store of secrets and the identity provider by scripts, and the cluster by faults that
disturb the way it answers on its own.
-/

namespace CloudOperator

/-- The answers of the remote API to each method and path, in order. -/
abbrev ApiScript :=
  Table (Method × String) (List (Except String Response))

namespace ApiScript

/-- The script with one more answer. -/
def add (script : ApiScript) (method : Method) (path : String)
    (answer : Except String Response) : ApiScript :=
  Table.insert script (method, path)
    ((Table.find? script (method, path)).getD [] ++ [answer])

/-- The answer to a request and the script after it.  The last answer is given again
and again. -/
def answer (script : ApiScript) (r : Request) : Except String Response × ApiScript :=
  match Table.find? script (r.method, r.path) with
  | some (answer :: later :: rest) =>
    (answer, Table.insert script (r.method, r.path) (later :: rest))
  | some [answer] => (answer, script)
  | _ => (.error ("no scripted response for " ++ r.label), script)

end ApiScript

/-- The secrets of the tenants: given ones, or one that is made of the name of the
tenant. -/
inductive SecretScript where
  | made
  | given (secrets : List (String × Except AccessFailure Secret))

namespace SecretScript

/-- The secret of a tenant. -/
def answer (script : SecretScript) (tenant : String) : Except AccessFailure Secret :=
  match script with
  | made =>
    .ok [(Credentials.idKey, "id-" ++ tenant), (Credentials.secretKey, "pw-" ++ tenant)]
  | given secrets =>
    (secrets.lookup tenant).getD (.error (.secretStore ("no secret for " ++ tenant)))

end SecretScript

/-- The answers of the identity provider in order. -/
abbrev TokenScript :=
  List (Except AccessFailure AccessToken)

namespace TokenScript

/-- The lifetime in seconds of tokens that are made of the identifier of a client. -/
abbrev madeLifetime : Int64 := 3600

/-- The answer to a login and the script after it.  The last answer is given again and
again; without any, a token is made of the identifier of the client. -/
def answer (script : TokenScript) (c : Credentials) :
    Except AccessFailure AccessToken × TokenScript :=
  match script with
  | [] => (.ok ⟨"token-of-" ++ c.clientId, madeLifetime⟩, [])
  | [answer] => (answer, [answer])
  | answer :: later => (answer, later)

end TokenScript

/-- How an answer of the cluster is disturbed. -/
inductive Disturbance where
  /-- The request is refused with a status. -/
  | refuse (status : Nat)
  /-- The request is answered, and then somebody else writes the object. -/
  | race
deriving DecidableEq, Repr

/-- A disturbance of the first request of a verb after a number of others. -/
structure Fault where
  verb : ClusterVerb
  disturbance : Disturbance
  skip : Nat
deriving DecidableEq, Repr

namespace Fault

/-- The disturbance of a request of a verb, and the faults after it. -/
def take (verb : ClusterVerb) : List Fault → Option Disturbance × List Fault
  | [] => (none, [])
  | fault :: faults =>
    if fault.verb ≠ verb then
      let (disturbance, faults) := take verb faults
      (disturbance, fault :: faults)
    else if 0 < fault.skip then (none, { fault with skip := fault.skip - 1 } :: faults)
    else (some fault.disturbance, faults)

end Fault

end CloudOperator
