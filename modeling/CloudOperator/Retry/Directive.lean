/-!
# Directives

What a pass that succeeded says about the next one.
-/

namespace CloudOperator

/-- When a pass wants to be followed by another. -/
inductive Directive where
  /-- Nothing is left to do until the object changes. -/
  | done
  /-- Another pass is due after a duration. -/
  | after (duration : Nat)
deriving DecidableEq, Repr

namespace Directive

/-- Whether another pass is due. -/
def isRequeue : Directive → Bool
  | done => false
  | after _ => true

/-- The duration until the pass that is due, none without one. -/
def duration : Directive → Nat
  | done => 0
  | after duration => duration

/-- The duration until the next pass when objects are looked at again anyway after
`resync`. -/
def delay (resync : Nat) : Directive → Nat
  | done => resync
  | after duration => duration

end Directive

end CloudOperator
