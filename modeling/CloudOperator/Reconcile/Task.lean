import CloudOperator.Reconcile.Decision
import CloudOperator.Retry.Directive

/-!
# Carrying out decisions

An object in the hands of a pass, and what carrying out a decision does to it: the
object is changed first and then written, and it takes over the version of what was
stored.  A write that is refused ends the pass.
-/

namespace CloudOperator

/-- An object in the hands of a pass. -/
structure Task (K : Kind) where
  object : Object K
  history : WriteHistory

namespace Task

variable {K : Kind}

/-- How a pass ends, and the object in its hands then. -/
abbrev Outcome (K : Kind) :=
  Except PassFailure Directive × Task K

/-- The object makes a move, and its status is written.  A move that has to wait is
not made. -/
def move (t : Task K) (settings : PassSettings) (move : Move) (now : Instant) :
    Pass (Outcome K) := do
  let interval := settings.requeueInterval
  match ← Program.ofOption (t.object.debounce? t.history interval move now) with
  | some duration =>
    Pass.count (.debouncedWrites K.name)
    return (.ok (.after duration), t)
  | none =>
    let object := t.object.moved move now
    match ← Pass.perform (.writeStatus K object) with
    | .error cause => return (.error (.persistence cause), { t with object })
    | .ok stored =>
      if t.object.phase ≠ some move.phase then
        Pass.count (.phaseTransitions K.name move.phase.name)
      return (.ok (if move.requeue then .after interval else .done),
        ⟨object.adoptVersion stored, t.history.record object.key move.phase now⟩)

/-- The finalizers of an object are written in place of those of the task. -/
def writeFinalizers (t : Task K) (object : Object K) :
    Pass (Except PassFailure Unit × Task K) := do
  match ← Pass.perform (.writeFinalizers K object) with
  | .error cause => return (.error (.persistence cause), { t with object })
  | .ok stored => return (.ok (), { t with object := object.adoptVersion stored })

/-- The operator keeps the object from now on. -/
def keep (t : Task K) : Pass (Except PassFailure Unit × Task K) :=
  if t.object.hasFinalizer then return (.ok (), t)
  else t.writeFinalizers t.object.addFinalizer

/-- The operator does not keep the object any more. -/
def letGo (t : Task K) : Pass (Except PassFailure Unit × Task K) :=
  if t.object.hasFinalizer then t.writeFinalizers t.object.removeFinalizer
  else return (.ok (), t)

/-- The object makes the move that its phase makes when its work fails.  One without a
phase counts as being created. -/
def fail (t : Task K) (settings : PassSettings) (cause : Failure) (now : Instant) :
    Pass (Outcome K) := do
  Pass.count (.classifiedErrors K.name (Reaction.ofFailure cause).name)
  t.move settings (.ofFailure (t.object.phase.getD .creating) cause) now

/-- The operator keeps the object, and the object makes its first move. -/
def enroll (t : Task K) (settings : PassSettings) (now : Instant) : Pass (Outcome K) := do
  match ← t.keep with
  | (.error cause, t) => return (.error cause, t)
  | (.ok (), t) => t.move settings .initialized now

/-- The operator lets go of the object, and forgets when it was written. -/
def release (t : Task K) : Pass (Outcome K) := do
  match ← t.letGo with
  | (.error cause, t) => return (.error cause, t)
  | (.ok (), t) => return (.ok .done, { t with history := t.history.forget t.object.key })

/-- A decision is carried out. -/
def carryOut (t : Task K) (settings : PassSettings) (now : Instant) :
    Decision → Pass (Outcome K)
  | .rest => return (.ok .done, t)
  | .wait duration => return (.ok (.after duration), t)
  | .move m => t.move settings m now
  | .enroll => t.enroll settings now
  | .fail cause => t.fail settings cause now
  | .release => t.release

end Task

end CloudOperator
