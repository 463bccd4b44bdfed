import CloudOperator.Access.Credentials
import CloudOperator.Access.Token
import CloudOperator.Cloud.Request
import CloudOperator.Monitoring.Metrics
import CloudOperator.Program
import CloudOperator.Reconcile.Failure
import CloudOperator.Resource.Object

/-!
# Operations

What a pass asks of its surroundings: the cluster, the store of the tenants'
secrets, the identity provider, the remote API and the metrics.  A pass is a
program of such operations.
-/

namespace CloudOperator

/-- Something that a pass asks of its surroundings. -/
inductive Operation where
  /-- An object is loaded. -/
  | load (K : Kind) (ns name : String)
  /-- The status of an object is written. -/
  | writeStatus (K : Kind) (o : Object K)
  /-- The finalizers of an object are written. -/
  | writeFinalizers (K : Kind) (o : Object K)
  /-- The secret of a tenant is read. -/
  | readSecret (tenant : String)
  /-- A client logs in to a realm. -/
  | logIn (credentials : Credentials) (realm : String)
  /-- A request is sent to the remote API. -/
  | send (request : Request)
  /-- Something is counted. -/
  | count (counter : Counter)

/-- What comes back from an operation. -/
abbrev Operation.Answer : Operation → Type
  | load K _ _ => Except StoreFailure (Option (Object K))
  | writeStatus K _ => Except StoreFailure (Object K)
  | writeFinalizers K _ => Except StoreFailure (Object K)
  | readSecret _ => Except AccessFailure Secret
  | logIn _ _ => Except AccessFailure AccessToken
  | send _ => Except String Response
  | count _ => Unit

/-- A program of operations. -/
abbrev Pass (α : Type) :=
  Program Operation.Answer α

/-- A program of operations that may fail. -/
abbrev Attempt (α : Type) :=
  ExceptT Failure (Program Operation.Answer) α

namespace Pass

/-- One operation. -/
def perform (operation : Operation) : Pass operation.Answer :=
  Program.question operation

/-- Something is counted. -/
def count (counter : Counter) : Pass Unit :=
  perform (.count counter)

end Pass

end CloudOperator
