import CloudOperator.Codec.Fields

/-!
# Conditions

Conditions of an object, at most one of each type.  `Condition.upsert` reports one:
its transition time moves only when its status or its reason changes.
-/

namespace CloudOperator

/-- Whether a condition holds. -/
inductive ConditionStatus where
  | holds
  | fails
  | unknown
deriving DecidableEq, Repr

namespace ConditionStatus

/-- The name of a condition status. -/
def name : ConditionStatus → String
  | holds => "True"
  | fails => "False"
  | unknown => "Unknown"

/-- All condition statuses. -/
def all : List ConditionStatus :=
  [holds, fails, unknown]

/-- Condition statuses by name. -/
def codec (isMarker : Json → Bool) : Codec ConditionStatus :=
  Codec.enumeration isMarker (all.map fun status => (status.name, status))

end ConditionStatus

/-- A condition of an object. -/
structure Condition where
  type : String
  status : ConditionStatus
  reason : String
  message : String
  /-- The time of the last change of the status or the reason, as a text. -/
  lastTransitionTime : String
deriving DecidableEq, Repr

namespace Condition

/-- The fields of a condition. -/
def fields (isMarker : Json → Bool) : Fields Condition :=
  (Fields.required "type" .text
    >> Fields.required "status" (ConditionStatus.codec isMarker)
    >> Fields.required "reason" .text
    >> Fields.defaulted "message" .text ""
    >> (Fields.required "lastTransitionTime" .text).described
      "RFC3339 timestamp of the last status or reason change").as
    (fun (type, status, reason, message, time) => ⟨type, status, reason, message, time⟩)
    (fun c => (c.type, c.status, c.reason, c.message, c.lastTransitionTime))

/-- Conditions as records. -/
def codec (isMarker : Json → Bool) : Codec Condition :=
  (Codec.record (fields isMarker)).described "Status condition, keyed by `type`"

/-- A condition that is reported again at the time `now`. -/
def report (old : Condition) (status : ConditionStatus) (reason message now : String) : Condition :=
  if old.status = status ∧ old.reason = reason then { old with message }
  else { old with status, reason, message, lastTransitionTime := now }

/-- The conditions after a report at the time `now` on the condition of a type.  The
first condition of that type is changed, or one is added at the end. -/
def upsert (type : String) (status : ConditionStatus) (reason message now : String) :
    List Condition → List Condition
  | [] => [⟨type, status, reason, message, now⟩]
  | c :: cs =>
    if c.type = type then c.report status reason message now :: cs
    else c :: upsert type status reason message now cs

/-- The first condition of a type. -/
def find? (type : String) (conditions : List Condition) : Option Condition :=
  List.find? (·.type = type) conditions

/-- The types of conditions. -/
def types (conditions : List Condition) : List String :=
  conditions.map (·.type)

@[simp]
theorem types_cons (c : Condition) (conditions : List Condition) :
  types (c :: conditions) = c.type :: types conditions
  := rfl

@[simp]
theorem type_report (c : Condition) (status : ConditionStatus) (reason message now : String) :
  (c.report status reason message now).type = c.type
  := by
  rw [report]
  split
  · rfl
  · rfl

/-- A report adds its type at the end if there is no condition of it. -/
theorem types_upsert (type : String) (status : ConditionStatus) (reason message now : String)
    (conditions : List Condition) :
  types (upsert type status reason message now conditions) =
    if type ∈ types conditions then types conditions else types conditions ++ [type]
  := by
  induction conditions with
  | nil => rfl
  | cons c cs ih =>
    by_cases same : c.type = type
    · simp [upsert, same]
    · rw [upsert, if_neg same, types_cons, ih]
      by_cases known : type ∈ types cs
      · simp [known]
      · simp [known, Ne.symm same]

/-- A report changes the condition of its type, or makes it. -/
theorem find?_upsert_self (type : String) (status : ConditionStatus) (reason message now : String)
    (conditions : List Condition) :
  find? type (upsert type status reason message now conditions) =
    match find? type conditions with
    | some c => some (c.report status reason message now)
    | none => some ⟨type, status, reason, message, now⟩
  := by
  induction conditions with
  | nil => simp [upsert, find?]
  | cons c cs ih =>
    by_cases same : c.type = type
    · simp [upsert, find?, same]
    · rw [find?] at ih
      rw [upsert, if_neg same, find?, List.find?_cons_of_neg (by simp [same]), ih, find?, find?,
        List.find?_cons_of_neg (by simp [same])]

/-- A report changes no condition of another type. -/
theorem getElem?_upsert_of_ne {type : String} (status : ConditionStatus)
    (reason message now : String) {conditions : List Condition} {i : Nat} {c : Condition}
    (found : conditions[i]? = some c) (other : c.type ≠ type) :
  (upsert type status reason message now conditions)[i]? = some c
  := by
  induction conditions generalizing i with
  | nil => cases found
  | cons first cs ih =>
    rw [upsert]
    cases i with
    | zero =>
      obtain rfl := Option.some.inj found
      rw [if_neg other]
      rfl
    | succ i =>
      split
      · exact found
      · apply ih found

theorem find?_upsert_of_ne {type type' : String} (status : ConditionStatus)
    (reason message now : String) (conditions : List Condition) (other : type ≠ type') :
  find? type' (upsert type status reason message now conditions) = find? type' conditions
  := by
  induction conditions with
  | nil => simp [upsert, find?, other]
  | cons c cs ih =>
    rw [find?, find?] at ih
    by_cases same : c.type = type
    · simp [upsert, find?, same, other]
    · simp only [upsert, if_neg same, find?, List.find?_cons, ih]

/-- After a report the condition of its type says what was reported. -/
theorem find?_upsert (type : String) (status : ConditionStatus) (reason message now : String)
    (conditions : List Condition) :
  ∃ c, find? type (upsert type status reason message now conditions) = some c ∧
    c.status = status ∧ c.reason = reason ∧ c.message = message
  := by
  rw [find?_upsert_self]
  cases find? type conditions with
  | none => exact ⟨_, rfl, rfl, rfl, rfl⟩
  | some c =>
    refine ⟨_, rfl, ?_⟩
    rw [report]
    split
    · exact ⟨And.left ‹_›, And.right ‹_›, rfl⟩
    · exact ⟨rfl, rfl, rfl⟩

end Condition

end CloudOperator
