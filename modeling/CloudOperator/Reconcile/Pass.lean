import CloudOperator.Access.Authentication
import CloudOperator.Reconcile.Task
import CloudOperator.Reconcile.Work

/-!
# Passes

One pass over one object: it is loaded, its tenant is authenticated, and then it is
moved out of its phase if it is overdue or to be deleted, or else the work of its
phase is done and the decision that follows is carried out.
-/

namespace CloudOperator

/-- What passes remember. -/
structure Memory where
  tokens : TokenCache
  writes : WriteHistory

namespace Memory

/-- Nothing is remembered yet. -/
def empty : Memory :=
  ⟨[], []⟩

end Memory

namespace Task

variable {K : Kind}

/-- The part of a pass that follows the authentication. -/
def proceed (t : Task K) (settings : PassSettings) (actor : Actor) (now : Instant) :
    Pass (Outcome K) := do
  match t.object.preempting? settings now with
  | some move => t.move settings move now
  | none =>
    let (decision, object) ← Work.ofPhase t.object.phase t.object actor settings now
    carryOut { t with object } settings now decision

end Task

namespace PassFailure

/-- The object does not tell its tenant. -/
def noTenant : PassFailure :=
  configuration "Tenant ID is not specified in the resource spec"

end PassFailure

namespace Memory

/-- A pass over the object of a name at the time `now`: how it ends, and what is
remembered after it. -/
def pass (memory : Memory) (settings : PassSettings) (now : Instant) (K : Kind)
    (ns name : String) : Pass (Except PassFailure Directive × Memory) := do
  match ← Pass.perform (.load K ns name) with
  | .error cause => return (.error (.load cause), memory)
  | .ok none =>
    return (.ok .done, { memory with writes := memory.writes.forget (K.key ns name) })
  | .ok (some object) =>
    let tenant := trimBlanks object.tenant
    if tenant = "" then return (.error .noTenant, memory)
    match ← memory.tokens.authenticate tenant settings.realm now with
    | (.error cause, tokens) => return (.error (.authentication cause), { memory with tokens })
    | (.ok bearer, tokens) =>
      let (result, t) ← Task.proceed ⟨object, memory.writes⟩ settings ⟨bearer, ns⟩ now
      return (result, ⟨tokens, t.history⟩)

end Memory

end CloudOperator
