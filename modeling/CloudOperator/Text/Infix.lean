/-!
# Texts inside of texts

Whether one list of characters occurs in another without gaps.
-/

namespace CloudOperator

/-- Whether `part` occurs in a list without gaps. -/
def occursIn (part : List Char) : List Char → Bool
  | [] => part.isEmpty
  | c :: cs => part.isPrefixOf (c :: cs) || occursIn part cs

end CloudOperator
