import Mathlib.Data.Set.Basic
import CloudOperator.Proofs.Difference
import CloudOperator.Reconcile.Volumes

/-!
# Changes of a set of volumes

The change that leads from one set of volumes to another is read off in one pass over each of the
two lists, which takes the identifiers that are not in the other list and skips those that it took.
What a pass takes is the difference of the two lists (`VolumeChange.isDifference_missing`), and all
else follows from that: the change is exact, and nothing but the order in which it is listed depends
on the order and the repetitions in the two lists (`VolumeChange.between_exact`).
-/

namespace CloudOperator

namespace VolumeChange

variable {ids others taken desired current : List String}

/-! ## One pass -/

/-- A pass takes identifiers in the order in which they occur first.  An identifier that it skips
is not taken later either: it is among the others, or it was taken before. -/
theorem ordered_missingAfter (ids others taken : List String) :
  (missingAfter others taken ids).Pairwise fun id id' => ids.idxOf id < ids.idxOf id'
  := by
  induction ids generalizing taken with
  | nil => exact .nil
  | cons first ids ih =>
    have shifted {taken' : List String} (skips : first ∈ others ∨ first ∈ taken') :
        (missingAfter others taken' ids).Pairwise fun id id' =>
          (first :: ids).idxOf id < (first :: ids).idxOf id' := by
      apply (ih taken').imp_of_mem
      intro id id' found found' less
      have other {id : String} (found : id ∈ missingAfter others taken' ids) : first ≠ id := by
        obtain ⟨-, absent, untaken⟩ := mem_missingAfter.mp found
        rintro rfl
        obtain among | before := skips
        · apply absent among
        · apply untaken before
      rw [List.idxOf_cons_ne _ (other found), List.idxOf_cons_ne _ (other found')]
      apply Nat.succ_lt_succ less
    rw [missingAfter]
    by_cases skips : first ∈ others ∨ first ∈ taken
    · rw [if_pos (by simpa using skips)]
      apply shifted skips
    · rw [if_neg (by simpa using skips), List.pairwise_cons]
      refine ⟨fun id found => ?_, shifted (.inr List.mem_cons_self)⟩
      obtain ⟨-, -, untaken⟩ := mem_missingAfter.mp found
      rw [List.idxOf_cons_self, List.idxOf_cons_ne _ fun same => untaken (by simp [same])]
      apply Nat.succ_pos

theorem isDifference_missing (ids others : List String) :
  IsDifference ids others (missing ids others)
  := .of_ordered (fun _ => mem_missing) (ordered_missingAfter ids others [])

/-! ## Both passes -/

/-- The volumes that are attached after a change, if those of a set were attached before. -/
def applyTo (c : VolumeChange) (ids : Set String) : Set String :=
  {id | id ∈ c.attach ∨ id ∈ ids ∧ id ∉ c.detach}

/-- A change leads to the volumes that it is to lead to. -/
theorem applyTo_between (desired current : List String) :
  (between desired current).applyTo {id | id ∈ current} = {id | id ∈ desired}
  := by
  ext id
  simp only [applyTo, between, mem_missing, Set.mem_ofPred_eq]
  tauto

theorem isNone_iff (c : VolumeChange) :
  c.isNone ↔ c.attach = [] ∧ c.detach = []
  := by
  rw [isNone, Bool.and_eq_true, List.isEmpty_iff, List.isEmpty_iff]

/-- Nothing has to change if the two sets are the same. -/
theorem isNone_between :
  (between desired current).isNone ↔ ∀ id, id ∈ current ↔ id ∈ desired
  := by
  rw [isNone_iff, between, (isDifference_missing desired current).eq_nil_iff,
    (isDifference_missing current desired).eq_nil_iff]
  constructor
  · rintro ⟨attached, detached⟩ id
    exact ⟨detached id, attached id⟩
  · intro same
    exact ⟨fun id => (same id).mpr, fun id => (same id).mp⟩

theorem disjoint_between (desired current : List String) :
  (between desired current).attach.Disjoint (between desired current).detach
  := fun _ attached detached => (mem_missing.mp detached).2 (mem_missing.mp attached).1

/-- The change from one set of volumes to another attaches what is missing and detaches what is in
excess, and nothing else.  It does not depend on the order or the repetitions in the lists, up to
the order in which it is listed. -/
theorem between_exact (desired current : List String) :
  IsDifference desired current (between desired current).attach ∧
    IsDifference current desired (between desired current).detach ∧
    (between desired current).attach.Disjoint (between desired current).detach ∧
    (between desired current).applyTo {id | id ∈ current} = {id | id ∈ desired} ∧
    ((between desired current).attach = [] ∧ (between desired current).detach = [] ↔
      {id | id ∈ desired} = {id | id ∈ current}) ∧
    ∀ desired' current' : List String, (∀ id, id ∈ desired' ↔ id ∈ desired) →
      (∀ id, id ∈ current' ↔ id ∈ current) →
        (between desired' current').attach.Perm (between desired current).attach ∧
          (between desired' current').detach.Perm (between desired current).detach
  := by
  have attach := isDifference_missing desired current
  have detach := isDifference_missing current desired
  refine ⟨attach, detach, disjoint_between .., applyTo_between .., ?_, ?_⟩
  · rw [← isNone_iff, isNone_between, Set.ext_iff]
    exact forall_congr' fun id => iff_comm
  · intro desired' current' same same'
    constructor
    · apply attach.perm (isDifference_missing desired' current') same same'
    · apply detach.perm (isDifference_missing current' desired') same' same

/-- A list of volumes in another order and with repetitions: the change is listed in another
order. -/
theorem between_exact_reordered :
  (between ["vol-a", "vol-b"] ["vol-c"]).attach.Perm
      (between ["vol-b", "vol-a", "vol-b"] ["vol-c", "vol-c"]).attach ∧
    (between ["vol-a", "vol-b"] ["vol-c"]).attach ≠
      (between ["vol-b", "vol-a", "vol-b"] ["vol-c", "vol-c"]).attach
  := by
  obtain ⟨-, -, -, -, -, reordered⟩ :=
    between_exact ["vol-b", "vol-a", "vol-b"] ["vol-c", "vol-c"]
  refine ⟨(reordered ["vol-a", "vol-b"] ["vol-c"] ?_ ?_).1, by decide +kernel⟩
  · intro id
    simp [or_comm, or_left_comm]
  · intro id
    simp

end VolumeChange

end CloudOperator
