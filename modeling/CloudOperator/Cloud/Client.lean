import CloudOperator.Cloud.Report
import CloudOperator.Operation

/-!
# The client of the remote API

Requests in the name of a tenant.  An answer that is no success is a problem, and a
success whose body tells nothing about a resource is a failure where that is asked
for.
-/

namespace CloudOperator

namespace Request

/-- The body of the answer to a request that succeeds. -/
def answer (r : Request) : Attempt String := do
  match ← Pass.perform (.send r) with
  | .error detail =>
    Pass.count (.apiRequests r.method.name "error")
    throw (.transport detail)
  | .ok response =>
    Pass.count (.apiRequests r.method.name response.statusClass)
    if response.isSuccess then return response.body
    else throw (.problem (Problem.ofBody response.status response.body))

/-- What the answer to a request that succeeds tells about a resource. -/
def report (r : Request) : Attempt ResourceReport := do
  match (Json.read (← r.answer)).bind ResourceReport.codec.decode with
  | some report => return report
  | none =>
    throw (.transport ("decoding response of " ++ r.label ++ " failed: no resource in the body"))

/-- The success of a request; the body of the answer is not looked at. -/
def succeed (r : Request) : Attempt Unit := do
  let _ ← r.answer

end Request

end CloudOperator
