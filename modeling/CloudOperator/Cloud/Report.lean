import CloudOperator.Codec.Fields

/-!
# Reports on resources

What a successful answer of the remote API tells about a resource: its identifier
and the state it is in.  Everything may be missing.
-/

namespace CloudOperator

/-- What an answer tells about a resource. -/
structure ResourceReport where
  /-- The identifier of the resource, empty if it is not told. -/
  id : String
  name : String
  /-- The text of the state, if the answer has a status at all. -/
  status : Option String
deriving DecidableEq, Repr

namespace ResourceReport

/-- The fields of the metadata in a report. -/
def metadataFields : Fields (String × String) :=
  Fields.defaulted "id" .text "" >> Fields.defaulted "name" .text ""

/-- The fields of the status in a report. -/
def statusFields : Fields String :=
  Fields.defaulted "state" .text ""

/-- The fields of a report. -/
def fields : Fields ResourceReport :=
  (Fields.defaulted "metadata" (.record metadataFields) ("", "")
    >> Fields.omittable "status" (.record statusFields)).as
    (fun ((id, name), status) => ⟨id, name, status⟩)
    (fun r => ((r.id, r.name), r.status))

/-- Reports as records. -/
def codec : Codec ResourceReport :=
  .record fields

/-- The state of the resource, unless it is empty. -/
def state? (r : ResourceReport) : Option String :=
  r.status.filter (· ≠ "")

end ResourceReport

end CloudOperator
