import CloudOperator.Http.Target

/-!
# Probes

The answers of the server by which a cluster looks after the operator.
-/

namespace CloudOperator

/-- An answer of the probe server, without its body. -/
structure ProbeAnswer where
  status : Nat
  contentType : Option String
deriving DecidableEq, Repr

namespace ProbeAnswer

/-- The answer to a read of a path, if there is such a path. -/
def read? (ready : Bool) (path : String) : Option ProbeAnswer :=
  match path with
  | "/metrics" => some ⟨200, some "text/plain; version=0.0.4; charset=utf-8"⟩
  | "/healthz" => some ⟨200, none⟩
  | "/readyz" => some ⟨if ready then 200 else 503, none⟩
  | _ => none

/-- The answer to a request of a method for a target. -/
def toRequest (ready : Bool) (method target : String) : ProbeAnswer :=
  match (Target.path? target).bind (read? ready) with
  | none => ⟨404, none⟩
  | some answer => if method = "GET" ∨ method = "HEAD" then answer else ⟨405, none⟩

end ProbeAnswer

end CloudOperator
