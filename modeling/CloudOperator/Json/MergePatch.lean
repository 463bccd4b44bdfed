import CloudOperator.Json.Basic

/-!
# Merge patches

The merge patch of RFC 7386: an object patches the members it names, a null erases
one, and any other value replaces what it patches.
-/

namespace CloudOperator

namespace Json

mutual

/-- The value that a patch makes of a target. -/
def mergePatch (target : Json) : Json → Json
  | object patches => object (mergeMembers target.members patches)
  | replacement => replacement

/-- The members that the members of a patch make of those of a target. -/
def mergeMembers (members : List (String × Json)) : List (String × Json) → List (String × Json)
  | [] => members
  | (name, patch) :: patches =>
    mergeMembers
      (match patch with
        | null => eraseMember name members
        | _ => insertMember name (mergePatch ((members.lookup name).getD null) patch) members)
      patches

end

end Json

end CloudOperator
