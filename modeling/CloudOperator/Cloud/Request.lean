import CloudOperator.Cloud.Endpoint
import CloudOperator.Json.Writer
import CloudOperator.Text.Summary

/-!
# Requests to the remote API

What is asked of the remote API, and the raw form of its answers.
-/

namespace CloudOperator

/-- The method of a request. -/
inductive Method where
  | get
  | post
  | put
  | delete
deriving DecidableEq, Repr

namespace Method

/-- The name of a method. -/
def name : Method → String
  | get => "GET"
  | post => "POST"
  | put => "PUT"
  | delete => "DELETE"

/-- All methods. -/
def all : List Method :=
  [get, post, put, delete]

/-- The word for a method in a summary. -/
def word : Method → String
  | get => "Get"
  | post => "Post"
  | put => "Put"
  | delete => "Delete"

/-- The method of a name. -/
def ofName? (name : String) : Option Method :=
  all.find? (·.name = name)

end Method

/-- A request to the remote API. -/
structure Request where
  method : Method
  path : String
  /-- The token of the tenant for whom the request is made. -/
  bearer : String
  body : Option Json
deriving BEq

namespace Request

/-- The method and the path of a request. -/
def label (r : Request) : String :=
  r.method.name ++ " " ++ r.path

mutual

/-- A body on one line. -/
def bodySummary : Json → String
  | .object members => "Object \x7b" ++ ", ".intercalate (memberSummaries members) ++ "\x7d"
  | .array items => "Array [" ++ ", ".intercalate (itemSummaries items) ++ "]"
  | .text value => "String(" ++ quoted value ++ ")"
  | .bool value => "Bool(" ++ (Json.bool value).write ++ ")"
  | .null | .unpaired => "Null"
  | number => "Number(" ++ number.write ++ ")"

/-- The items of an array, each on one line. -/
def itemSummaries : List Json → List String
  | [] => []
  | item :: items => bodySummary item :: itemSummaries items

/-- The members of an object, each on one line. -/
def memberSummaries : List (String × Json) → List String
  | [] => []
  | (name, value) :: members =>
    (quoted name ++ ": " ++ bodySummary value) :: memberSummaries members

end

/-- A request on one line, without the token. -/
def summary (r : Request) : String :=
  let body := match r.body with
    | some body => "Some(" ++ bodySummary body.canonical ++ ")"
    | none => "None"
  Summary.whole "ApiRequest" [
    ("method", r.method.word), ("path", quoted r.path), ("bearer", Summary.hidden), ("body", body)]

end Request

/-- An answer as it arrives. -/
structure Response where
  status : Nat
  body : String
deriving DecidableEq, Repr

namespace Response

/-- Whether the status tells of a success. -/
def isSuccess (r : Response) : Bool :=
  200 ≤ r.status && r.status < 300

/-- The class of the status, under which answers are counted. -/
def statusClass (r : Response) : String :=
  if r.isSuccess then "2xx"
  else if 300 ≤ r.status ∧ r.status < 400 then "3xx"
  else if 400 ≤ r.status ∧ r.status < 500 then "4xx"
  else "5xx"

end Response

end CloudOperator
