/-!
# Failures of the store

The causes for which an object cannot be read or written.
-/

namespace CloudOperator

/-- A cause for which an object cannot be read or written. -/
inductive StoreFailure where
  /-- Somebody else wrote the object since it was read. -/
  | conflict (ns name : String)
  /-- The object in hand does not tell which version it is. -/
  | missingVersion (ns name : String)
  /-- The cluster did not answer, refused, or sent what is no such object. -/
  | cluster (detail : String)
deriving DecidableEq, Repr

namespace StoreFailure

/-- The text of a cause. -/
def message : StoreFailure → String
  | conflict ns name => "conflict writing " ++ ns ++ "/" ++ name ++ ": the object has been modified"
  | missingVersion ns name => "object " ++ ns ++ "/" ++ name ++ " has no resourceVersion"
  | cluster detail => "kubernetes API error: " ++ detail

/-- Whether the cause is that somebody else wrote the object. -/
def isConflict : StoreFailure → Bool
  | conflict .. => true
  | _ => false

end StoreFailure

end CloudOperator
