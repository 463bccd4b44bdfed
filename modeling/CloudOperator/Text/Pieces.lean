/-!
# Pieces

A list cut at some of its elements.  The elements at which it is cut belong to no
piece.
-/

namespace CloudOperator

variable {α : Type}

/-- The pieces of a list between the elements that satisfy `p`. -/
def pieces (p : α → Bool) : List α → List (List α)
  | [] => [[]]
  | a :: as =>
    match p a, pieces p as with
    | true, rest => [] :: rest
    | false, [] => [[a]]
    | false, piece :: rest => (a :: piece) :: rest

theorem pieces_ne_nil (p : α → Bool) (as : List α) :
  pieces p as ≠ []
  := by
  cases as with
  | nil => exact nofun
  | cons a as =>
    rw [pieces]
    split
    · apply List.cons_ne_nil
    · apply List.cons_ne_nil
    · apply List.cons_ne_nil

/-- The elements of a piece are those of the list, and it is cut at none of them. -/
theorem of_mem_pieces {p : α → Bool} {as piece : List α} (found : piece ∈ pieces p as) :
  ∀ a ∈ piece, a ∈ as ∧ p a = false
  := by
  induction as generalizing piece with
  | nil =>
    rw [pieces, List.mem_singleton] at found
    rw [found]
    exact nofun
  | cons a as ih =>
    rw [pieces] at found
    split at found
    · obtain _ | ⟨_, found⟩ := found
      · exact nofun
      · exact fun b inside => (ih found b inside).imp_left (List.mem_cons_of_mem a)
    · rename_i none
      cases pieces_ne_nil p as none
    · rename_i first rest whole split
      rw [split] at ih
      obtain _ | ⟨_, found⟩ := found
      · intro b inside
        obtain _ | ⟨_, inside⟩ := inside
        · exact ⟨List.mem_cons_self, whole⟩
        · exact (ih List.mem_cons_self b inside).imp_left (List.mem_cons_of_mem a)
      · exact fun b inside =>
          (ih (List.mem_cons_of_mem _ found) b inside).imp_left (List.mem_cons_of_mem a)

/-- The pieces of two lists with an element between them at which they are cut. -/
theorem pieces_append {p : α → Bool} (as : List α) {b : α} (ends : p b = true) (bs : List α) :
  pieces p (as ++ b :: bs) = pieces p as ++ pieces p bs
  := by
  induction as with
  | nil => simp [pieces, ends]
  | cons a as ih =>
    rw [List.cons_append, pieces, pieces, ih]
    cases split : pieces p as with
    | nil => cases pieces_ne_nil p as split
    | cons piece rest => cases p a <;> rfl

/-- The pieces with the element at which a list is cut before each of them make up the list. -/
theorem flatMap_pieces {p : α → Bool} {b : α} {as : List α} (only : ∀ a ∈ as, p a = true → a = b) :
  (pieces p as).flatMap (b :: ·) = b :: as
  := by
  induction as with
  | nil => rfl
  | cons a as ih =>
    have rest := ih fun a' inside => only a' (List.mem_cons_of_mem a inside)
    rw [pieces]
    split
    · rename_i ends
      rw [List.flatMap_cons, rest, only a List.mem_cons_self ends]
      rfl
    · rename_i none
      cases pieces_ne_nil p as none
    · rename_i split
      rw [split, List.flatMap_cons, List.cons_append, List.cons.injEq] at rest
      rw [List.flatMap_cons, List.cons_append, List.cons_append, rest.2]

/-- A list that is cut nowhere is one piece. -/
theorem pieces_eq_singleton {p : α → Bool} {as : List α} (whole : ∀ a ∈ as, p a = false) :
  pieces p as = [as]
  := by
  induction as with
  | nil => rfl
  | cons a as ih =>
    simp [pieces, whole a (by simp), ih fun b hb => whole b (by simp [hb])]

/-- The first piece ends where the list is cut first. -/
theorem pieces_append_cons {p : α → Bool} {as : List α} (whole : ∀ a ∈ as, p a = false)
    {b : α} (ends : p b = true) (bs : List α) :
  pieces p (as ++ b :: bs) = as :: pieces p bs
  := by
  induction as with
  | nil => simp [pieces, ends]
  | cons a as ih =>
    simp [pieces, whole a (by simp), ih fun b hb => whole b (by simp [hb])]

/-- Pieces behind one another, each with the element `b` before it, are the pieces of the
list that they make up. -/
theorem pieces_append_flatMap {p : α → Bool} {b : α} (ends : p b = true) {as : List α}
    {rest : List (List α)} (whole : ∀ piece ∈ as :: rest, ∀ a ∈ piece, p a = false) :
  pieces p (as ++ rest.flatMap (b :: ·)) = as :: rest
  := by
  induction rest generalizing as with
  | nil => simpa using pieces_eq_singleton (whole as (by simp))
  | cons next rest ih =>
    rw [List.flatMap_cons, List.cons_append, pieces_append_cons (whole as (by simp)) ends,
      ih fun piece member => whole piece (by simp_all)]

end CloudOperator
