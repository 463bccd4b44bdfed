import CloudOperator.Codec.Fields
import CloudOperator.Json.Reader
import CloudOperator.Text.Blank
import CloudOperator.Text.Infix

/-!
# Problems

An answer of the remote API that is no success: its status, what its body says,
and whether the body says that a resource is not in a state to be worked on yet.
-/

namespace CloudOperator

/-- An answer of the remote API that is no success. -/
structure Problem where
  status : Nat
  title : String
  detail : String
  /-- Whether the answer says that a resource is not ready. -/
  notReady : Bool
deriving DecidableEq, Repr

namespace Problem

/-- What the body of an answer may say about a problem. -/
structure Report where
  type : Option String
  title : Option String
  detail : Option String

/-- The fields of what a body says. -/
def Report.fields : Fields Report :=
  (Fields.omittable "type" .text >> Fields.omittable "title" .text
    >> Fields.omittable "detail" .text).as
    (fun (type, title, detail) => ⟨type, title, detail⟩)
    (fun r => (r.type, r.title, r.detail))

/-- What a body says; one that cannot be read says nothing. -/
def Report.ofBody (body : String) : Report :=
  ((Json.read body).bind (Codec.record Report.fields).decode).getD ⟨none, none, none⟩

/-- The letters and digits of ASCII in a text, in lower case. -/
def condensed (text : String) : List Char :=
  (text.toList.filter Char.isAlphanum).map Char.toLower

/-- The condensed words for a resource that is not ready. -/
def markers : List String :=
  ["invalidstatus", "notready"]

/-- Whether a text says that a resource is not ready. -/
def saysNotReady (text : String) : Bool :=
  markers.any fun marker => occursIn marker.toList (condensed text)

/-- The problem of an answer with a status and a body.  A body that names neither a
title nor a detail is itself the detail. -/
def ofBody (status : Nat) (body : String) : Problem :=
  let report := Report.ofBody body
  { status
    title := report.title.getD ""
    detail := match report.detail, report.title with
      | some detail, _ => detail
      | none, none => trimBlanks body
      | none, some _ => ""
    notReady := [report.type, report.title, report.detail].any fun text? =>
      text?.any saysNotReady }

/-- Whether the status blames the request. -/
def isClientError (p : Problem) : Bool :=
  400 ≤ p.status && p.status < 500

/-- Whether the status says that there is no such resource. -/
def isNotFound (p : Problem) : Bool :=
  p.status == 404

/-- The title and the detail, as far as they are given. -/
def description (p : Problem) : String :=
  if p.title = "" ∧ p.detail = "" then "no details"
  else if p.detail = "" then p.title
  else if p.title = "" then p.detail
  else p.title ++ ": " ++ p.detail

/-- The text of a problem. -/
def message (p : Problem) : String :=
  "remote API error " ++ toString p.status ++ ": " ++ p.description

end Problem

end CloudOperator
