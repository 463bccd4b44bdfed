import Mathlib.Data.List.Nodup
import CloudOperator.Proofs.Difference
import CloudOperator.Proofs.Timestamp
import CloudOperator.Resource.Condition

/-!
# Conditions after many reports

Conditions are reported on, one report after the other, of any types in any order.  Of every type
the last report tells the status, the reason and the message (`Condition.told?`), but the time of
the last transition is that of the latest report on the type that inserted its condition or changed
its status or its reason, and need not be the last one (`Condition.latestChange?`).  Reports are
listed with the last one first, so both are found by going down the list.

The types are only ever added to, each at the end and once (`Condition.types_after`).  All together
is `Condition.follow_reports`.
-/

namespace CloudOperator

/-- A report on the condition of a type at a time. -/
structure ConditionReport where
  type : String
  status : ConditionStatus
  reason : String
  message : String
  time : Instant
deriving DecidableEq

namespace Condition

/-- The conditions after some reports, the last one first. -/
def after (initial : List Condition) : List ConditionReport → List Condition
  | [] => initial
  | r :: earlier =>
    upsert r.type r.status r.reason r.message (Timestamp.seconds r.time) (after initial earlier)

/-- The last report on a type. -/
def lastOn? (type : String) (reports : List ConditionReport) : Option ConditionReport :=
  reports.find? (·.type = type)

/-- The status and the reason that are told of a type: those of the last report on it, or those of
the initial condition if there is no report. -/
def told? (initial : List Condition) (type : String) (reports : List ConditionReport) :
    Option (ConditionStatus × String) :=
  match lastOn? type reports with
  | some last => some (last.status, last.reason)
  | none => (find? type initial).map fun c => (c.status, c.reason)

/-- The latest report on a type that told another status or another reason than was told before, or
that told of the type for the first time. -/
def latestChange? (initial : List Condition) (type : String) :
    List ConditionReport → Option ConditionReport
  | [] => none
  | r :: earlier =>
    if r.type = type ∧ told? initial type earlier ≠ some (r.status, r.reason) then some r
    else latestChange? initial type earlier

variable {initial : List Condition} {reports earlier : List ConditionReport}
  {r last : ConditionReport} {type : String}

theorem lastOn?_cons_of_eq (same : r.type = type) : lastOn? type (r :: earlier) = some r
  := List.find?_cons_of_pos (by simpa using same)

theorem lastOn?_cons_of_ne (other : r.type ≠ type) :
  lastOn? type (r :: earlier) = lastOn? type earlier
  := List.find?_cons_of_neg (by simpa using other)

/-! ## Types -/

/-- The types that are added are those of the reports that there was no condition of. -/
theorem types_after (initial : List Condition) (reports : List ConditionReport) :
  ∃ added, types (after initial reports) = types initial ++ added ∧
    IsDifference (reports.reverse.map (·.type)) (types initial) added
  := by
  induction reports with
  | nil => exact ⟨[], (List.append_nil _).symm, .nil _⟩
  | cons r earlier ih =>
    obtain ⟨added, same, difference⟩ := ih
    refine ⟨if r.type ∈ types initial ++ added then added else added ++ [r.type], ?_, ?_⟩
    · rw [after, types_upsert, same]
      split
      · rfl
      · apply List.append_assoc
    · rw [List.reverse_cons, List.map_append]
      apply difference.concat

theorem nodup_types_after (distinct : (types initial).Nodup) (reports : List ConditionReport) :
  (types (after initial reports)).Nodup
  := by
  obtain ⟨added, same, difference⟩ := types_after initial reports
  rw [same]
  apply List.Nodup.append distinct difference.nodup
  intro type known new
  apply ((difference.mem_iff type).mp new).2 known

/-- A condition that no report is on stays as it is, and where it is. -/
theorem getElem?_after {i : Nat} {c : Condition} (found : initial[i]? = some c)
    (unnamed : ∀ r ∈ reports, r.type ≠ c.type) :
  (after initial reports)[i]? = some c
  := by
  induction reports with
  | nil => exact found
  | cons r earlier ih =>
    obtain ⟨other, others⟩ := List.forall_mem_cons.mp unnamed
    apply getElem?_upsert_of_ne _ _ _ _ (ih others) other.symm

/-! ## What is told of a type -/

/-- After some reports the condition of a type tells what the last report on it told. -/
theorem find?_after_of_lastOn? (initial : List Condition)
    (found : lastOn? type reports = some last) :
  ∃ c, find? type (after initial reports) = some c ∧
    c.status = last.status ∧ c.reason = last.reason ∧ c.message = last.message
  := by
  induction reports with
  | nil => cases found
  | cons r earlier ih =>
    by_cases same : r.type = type
    · rw [lastOn?_cons_of_eq same] at found
      obtain rfl := Option.some.inj found
      obtain rfl := same
      apply find?_upsert
    · rw [lastOn?_cons_of_ne same] at found
      rw [after, find?_upsert_of_ne _ _ _ _ _ same]
      apply ih found

theorem find?_after_of_unnamed (unnamed : lastOn? type reports = none) :
  find? type (after initial reports) = find? type initial
  := by
  induction reports with
  | nil => rfl
  | cons r earlier ih =>
    by_cases same : r.type = type
    · cases (lastOn?_cons_of_eq same).symm.trans unnamed
    · rw [lastOn?_cons_of_ne same] at unnamed
      rw [after, find?_upsert_of_ne _ _ _ _ _ same, ih unnamed]

/-- The condition of a type has the status and the reason that are told of it. -/
theorem told?_eq (initial : List Condition) (type : String) (reports : List ConditionReport) :
  told? initial type reports =
    (find? type (after initial reports)).map fun c => (c.status, c.reason)
  := by
  rw [told?]
  cases found : lastOn? type reports with
  | none => rw [find?_after_of_unnamed found]
  | some last =>
    obtain ⟨c, shown, status, reason, -⟩ := find?_after_of_lastOn? initial found
    rw [shown, Option.map_some, status, reason]

/-- The last transition of a type was at its latest change, or at the initial time if nothing
changed. -/
theorem lastTransitionTime_after (initial : List Condition) (type : String)
    (reports : List ConditionReport) :
  (find? type (after initial reports)).map (·.lastTransitionTime) =
    match latestChange? initial type reports with
    | some r => some (Timestamp.seconds r.time)
    | none => (find? type initial).map (·.lastTransitionTime)
  := by
  induction reports with
  | nil => rfl
  | cons r earlier ih =>
    rw [latestChange?]
    by_cases same : r.type = type
    · obtain rfl := same
      rw [after, find?_upsert_self, told?_eq]
      cases found : find? r.type (after initial earlier) with
      | none => simp
      | some c =>
        rw [found] at ih
        by_cases kept : c.status = r.status ∧ c.reason = r.reason
        · simp [report, kept, ← ih]
        · simp [report, kept]
    · rw [after, find?_upsert_of_ne _ _ _ _ _ same, ih, if_neg fun changes => same changes.1]

/-- Conditions of different types follow the reports on them: their types stay different and in
order, a condition that no report is on is left as it is, and the others tell what was reported last
and when it changed. -/
theorem follow_reports (distinct : (types initial).Nodup) (reports : List ConditionReport) :
  (types (after initial reports)).Nodup ∧
    (∃ added, types (after initial reports) = types initial ++ added ∧
      IsDifference (reports.reverse.map (·.type)) (types initial) added) ∧
    (∀ (i : Nat) (c : Condition), initial[i]? = some c → (∀ r ∈ reports, r.type ≠ c.type) →
      (after initial reports)[i]? = some c) ∧
    (∀ type last, lastOn? type reports = some last →
      ∃ c, find? type (after initial reports) = some c ∧
        c.status = last.status ∧ c.reason = last.reason ∧ c.message = last.message) ∧
    ∀ type c, find? type (after initial reports) = some c →
      match latestChange? initial type reports with
      | some r => c.lastTransitionTime = Timestamp.seconds r.time ∧
        (r.time.IsReading → Timestamp.read c.lastTransitionTime = some r.time.startOfSecond)
      | none => ∃ c', find? type initial = some c' ∧ c.lastTransitionTime = c'.lastTransitionTime
  := by
  refine ⟨nodup_types_after distinct reports, types_after initial reports,
    fun i c => getElem?_after, fun type last => find?_after_of_lastOn? initial, ?_⟩
  intro type c found
  have time := lastTransitionTime_after initial type reports
  rw [found, Option.map_some] at time
  split at time
  · have told := Option.some.inj time
    refine ⟨told, fun reading => ?_⟩
    rw [told, Timestamp.read_seconds reading]
  · obtain ⟨c', first, same⟩ := Option.map_eq_some_iff.mp time.symm
    exact ⟨c', first, same.symm⟩

namespace Degraded

/-- What is told of a resource that is in sync. -/
def synced : List Condition :=
  [⟨"Synchronized", .holds, "Created", "", "2025-03-01T09:30:00Z"⟩,
    ⟨"Ready", .holds, "Started", "", "2025-03-01T09:00:00Z"⟩]

/-- Its remote API fails at ten. -/
def failed : ConditionReport :=
  ⟨"Synchronized", .fails, "ServerError", "first", ⟨1740823200, 500_000_000⟩⟩

/-- It is slow soon after that, and the remote API fails again. -/
def history : List ConditionReport :=
  [⟨"Synchronized", .fails, "ServerError", "second", ⟨1740823240, 0⟩⟩,
    ⟨"Degraded", .holds, "Slow", "", ⟨1740823220, 0⟩⟩, failed]

end Degraded

/-- The message is that of the second failure, and the time that of the first. -/
theorem follow_reports_degraded :
  types (after Degraded.synced Degraded.history) = ["Synchronized", "Ready", "Degraded"] ∧
    (types (after Degraded.synced Degraded.history)).Nodup ∧
    ∃ c, find? "Synchronized" (after Degraded.synced Degraded.history) = some c ∧
      c.message = "second" ∧ c.lastTransitionTime = "2025-03-01T10:00:00Z"
  := by
  obtain ⟨distinct, -, -, told, changed⟩ :=
    follow_reports (by decide : (types Degraded.synced).Nodup) Degraded.history
  obtain ⟨c, found, -, -, message⟩ := told "Synchronized" _ rfl
  have latest : latestChange? Degraded.synced "Synchronized" Degraded.history
      = some Degraded.failed := by
    decide +kernel
  have time := changed "Synchronized" c found
  rw [latest] at time
  refine ⟨by decide +kernel, distinct, c, found, message, time.1.trans ?_⟩
  decide +kernel

end Condition

end CloudOperator
