import Mathlib.Data.List.Basic
import Mathlib.Data.List.Perm.Basic

/-!
# Differences of lists

The difference of two lists holds what is in the first one and not in the second, each once and in
the order in which it occurs first (`IsDifference`).  What holds it is determined by the members of
the two lists, up to the order (`IsDifference.perm`), and one more member of the first list is one
more of the difference at its end, or none (`IsDifference.concat`).
-/

namespace CloudOperator

/-- What is listed is in one list and not in another, and is listed once, in the order in which it
occurs first. -/
structure IsDifference (texts others listed : List String) : Prop where
  mem_iff : ∀ text, text ∈ listed ↔ text ∈ texts ∧ text ∉ others
  nodup : listed.Nodup
  ordered : listed.Pairwise fun text text' => texts.idxOf text < texts.idxOf text'

namespace IsDifference

variable {texts texts' others others' listed listed' : List String}

/-- What is listed in the order in which it occurs first is listed once. -/
theorem of_ordered (mem_iff : ∀ text, text ∈ listed ↔ text ∈ texts ∧ text ∉ others)
    (ordered : listed.Pairwise fun text text' => texts.idxOf text < texts.idxOf text') :
  IsDifference texts others listed
  where
  mem_iff := mem_iff
  nodup := by
    apply ordered.imp
    rintro text _ less rfl
    apply Nat.lt_irrefl _ less
  ordered := ordered

theorem nil (others : List String) :
  IsDifference [] others []
  := of_ordered (by simp) .nil

/-- Lists with the same members differ by the same, up to the order. -/
theorem perm (h : IsDifference texts others listed) (h' : IsDifference texts' others' listed')
    (same : ∀ text, text ∈ texts' ↔ text ∈ texts) (same' : ∀ text, text ∈ others' ↔ text ∈ others) :
  listed'.Perm listed
  := by
  apply (List.perm_ext_iff_of_nodup h'.nodup h.nodup).mpr
  intro text
  rw [h'.mem_iff, h.mem_iff, same, same']

/-- Nothing is listed if everything is among the others. -/
theorem eq_nil_iff (h : IsDifference texts others listed) :
  listed = [] ↔ ∀ text ∈ texts, text ∈ others
  := by
  rw [List.eq_nil_iff_forall_not_mem]
  apply forall_congr'
  intro text
  rw [h.mem_iff, not_and, Classical.not_not]

/-- One more text is listed at the end, unless it is among the others or listed before. -/
theorem concat (h : IsDifference texts others listed) (text : String) :
  IsDifference (texts ++ [text]) others
    (if text ∈ others ++ listed then listed else listed ++ [text])
  := by
  have known : ∀ t ∈ listed, t ∈ texts := fun t found => ((h.mem_iff t).mp found).1
  have earlier : listed.Pairwise fun t t' =>
      (texts ++ [text]).idxOf t < (texts ++ [text]).idxOf t' := by
    apply h.ordered.imp_of_mem
    intro t t' found found' less
    rwa [List.idxOf_append_of_mem (known t found), List.idxOf_append_of_mem (known t' found')]
  split
  · apply of_ordered _ earlier
    intro t
    grind [h.mem_iff t, h.mem_iff text]
  · have new : text ∉ texts := by
      grind [h.mem_iff text]
    apply of_ordered
    · intro t
      grind [h.mem_iff t]
    · apply List.pairwise_append.mpr
      refine ⟨earlier, List.pairwise_singleton _ _, ?_⟩
      rintro t found _ (_ | ⟨_, ⟨⟩⟩)
      rw [List.idxOf_append_of_mem (known t found), List.idxOf_append_of_notMem new]
      apply Nat.lt_add_right
      apply List.idxOf_lt_length_iff.mpr (known t found)

end IsDifference

end CloudOperator
