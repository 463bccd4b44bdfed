import CloudOperator.Proofs.Cleanup

/-!
# Addressing remote resources

The remote resource of an object is addressed by the identifier in its status.  An object whose
remote resource was created should have one.

The identifier is that of the last report of a creation that was recorded, and there is such a
report once the remote resource was created (`Run.resourceID_eq_of_present`).  A report need not
tell an identifier, though: an answer without one is as good as any other, and then the remote
resource is not addressed by anything.
-/

namespace CloudOperator

variable {K : Kind} {ns name : String}

namespace Turn

/-- A report is that of the last creation whose outcome was stored. -/
def LastReport (report : ResourceReport) : List (Turn K) → Prop
  | [] => False
  | t :: turns =>
    t.Reports report ∧ t.StoresStatus ∨
      (∀ other, t.Reports other → ¬ t.StoresStatus) ∧ LastReport report turns

variable {t : Turn K} {turns : List (Turn K)} {report : ResourceReport}

/-- A turn that leaves the record leaves the last report. -/
theorem KeepsRecord.lastReport_iff (keeps : t.KeepsRecord) :
  LastReport report (t :: turns) ↔ LastReport report turns
  := by
  constructor
  · rintro (⟨reports, stores⟩ | ⟨-, last⟩)
    · cases keeps.unreported report reports stores
    · apply last
  · exact fun last => .inr ⟨keeps.unreported, last⟩

/-- A turn that makes the record stores the last report. -/
theorem MakesRecord.lastReport_iff (makes : t.MakesRecord) :
  LastReport report (t :: turns) ↔ t.Reports report
  := by
  constructor
  · rintro (⟨reports, -⟩ | ⟨unreported, -⟩)
    · apply reports
    · obtain ⟨told, reports, -⟩ := makes.reports
      cases unreported told ((reports told).mpr rfl) makes.stores
  · exact fun reports => .inl ⟨reports, makes.stores⟩

end Turn

open Turn

/-- Where the identifier of the remote resource comes from: none was reported yet, and the object
is not where its remote resource was created; or it is that of the last report. -/
inductive Identified (turns : List (Turn K)) (o : Object K) : Prop
  | unreported (none : ∀ report, ¬ LastReport report turns) (unnamed : o.resourceID = "")
      (absent : o.phase ∉ Phase.present) : Identified turns o
  | reported {report : ResourceReport} (last : ∀ other, LastReport other turns ↔ other = report)
      (resourceID : o.resourceID = report.id) : Identified turns o

namespace Identified

variable {turns : List (Turn K)} {o o' : Object K} {t : Turn K}

theorem of_status_eq_none (fresh : o.status = none) :
  Identified [] o
  := by
  apply unreported
  · exact fun report => id
  · simp [Object.resourceID, fresh]
  · simp [Object.phase, fresh, Phase.present]

theorem edited (h : Identified turns o) (edit : o.StatusKept o') :
  Identified turns o'
  := by
  cases h with
  | unreported none unnamed absent =>
    rw [← Object.resourceID_congr edit] at unnamed
    rw [← Object.phase_congr edit] at absent
    apply unreported none unnamed absent
  | reported last resourceID =>
    rw [← Object.resourceID_congr edit] at resourceID
    apply reported last resourceID

/-- An object stays identified on a turn that leaves the record. -/
theorem kept (h : Identified turns t.stored) (keeps : t.KeepsRecord) :
  Identified (t :: turns) t.after
  := by
  cases h with
  | unreported none unnamed absent =>
    apply unreported
    · exact fun report last => none report (keeps.lastReport_iff.mp last)
    · rw [keeps.resourceID, unnamed]
    · intro present
      obtain present | named := keeps.present present
      · apply absent present
      · apply named unnamed
  | reported last resourceID =>
    apply reported
    · exact fun other => keeps.lastReport_iff.trans (last other)
    · rw [keeps.resourceID, resourceID]

/-- An object is identified on a turn that makes the record: by the report that is recorded. -/
theorem made (makes : t.MakesRecord) :
  Identified (t :: turns) t.after
  := by
  obtain ⟨report, reports, resourceID⟩ := makes.reports
  apply reported _ resourceID
  exact fun other => makes.lastReport_iff.trans (reports other)

end Identified

namespace Run

variable {initial o : Object K} {turns : List (Turn K)}

/-- An object is identified after any number of turns, if it had no status before them. -/
theorem identified (run : Run Object.StatusKept ns name initial turns o)
    (fresh : initial.status = none) :
  Identified turns o
  := by
  induction run with
  | start => exact .of_status_eq_none fresh
  | edited _ edit ih => exact ih.edited edit
  | turned _ goes ih =>
    obtain keeps | makes := goes.record
    · apply ih.kept keeps
    · apply Identified.made makes

/-- An object whose remote resource was created has the identifier that was last reported to a
creation, and there is exactly one such report. -/
theorem resourceID_eq_of_present (run : Run Object.StatusKept ns name initial turns o)
    (fresh : initial.status = none)
    (present : o.phase ∈ [some .provisioning, some .created, some .updating]) :
  ∃ report, (∀ other, LastReport other turns ↔ other = report) ∧ o.resourceID = report.id
  := by
  cases run.identified fresh with
  | unreported _ _ absent => cases absent present
  | reported last resourceID => exact ⟨_, last, resourceID⟩

namespace NamelessPayments

/-- The project is enrolled. -/
def enrolling : Turn .project :=
  .ofProject 0 .payments ⟨200, "\x7b\x7d"⟩ none

/-- Its remote resource is created, but the answer is empty. -/
def creating : Turn .project :=
  .ofProject 1 enrolling.after ⟨200, "\x7b\x7d"⟩ none

theorem run :
  Run Object.StatusKept "shop" "payments" .payments [creating, enrolling] creating.after
  := by
  apply turned _ (Turn.goes_ofProject ..)
  apply turned _ (Turn.goes_ofProject ..)
  apply start

theorem shown :
  creating.after.phase ∈ [some .provisioning, some .created, some .updating] ∧
    creating.after.resourceID = ""
  := by
  decide +kernel

end NamelessPayments

/-- The report of a project without an identifier. -/
theorem resourceID_eq_of_present_payments :
  ∃ report, (∀ other, LastReport other [NamelessPayments.creating, NamelessPayments.enrolling] ↔
      other = report) ∧
    NamelessPayments.creating.after.resourceID = report.id ∧ report.id = ""
  := by
  obtain ⟨present, unnamed⟩ := NamelessPayments.shown
  obtain ⟨report, last, resourceID⟩ := resourceID_eq_of_present NamelessPayments.run rfl present
  exact ⟨report, last, resourceID, resourceID ▸ unnamed⟩

/-- A remote resource is not addressed by anything: the project is created, but names none. -/
theorem created_without_identifier :
  ∃ (turns : List (Turn .project)) (o : Object .project),
    Run Object.StatusKept "shop" "payments" .payments turns o ∧
      Object.payments.status = none ∧
      o.phase ∈ [some .provisioning, some .created, some .updating] ∧ o.resourceID = ""
  := ⟨_, _, NamelessPayments.run, rfl, NamelessPayments.shown⟩

end Run

end CloudOperator
