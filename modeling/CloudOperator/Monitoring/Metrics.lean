import CloudOperator.Table

/-!
# Metrics

The counters and the histograms that the operator publishes, and the series that
each observation raises.
-/

namespace CloudOperator

/-- A series of a metric: its name and its labels in the order of their names. -/
structure Series where
  name : String
  labels : List (String × String)
deriving DecidableEq, Repr

namespace Series

/-- A character of the value of a label. -/
def encodeChar (c : Char) : List Char :=
  if c = '\\' then ['\\', '\\']
  else if c = '"' then ['\\', '"']
  else if c = '\n' then ['\\', 'n']
  else [c]

/-- A label with its value. -/
def labelText : String × String → String
  | (label, value) => label ++ "=\"" ++ String.ofList (value.toList.flatMap encodeChar) ++ "\""

/-- The name of a series with its labels. -/
def text (s : Series) : String :=
  match s.labels with
  | [] => s.name
  | labels => s.name ++ "\x7b" ++ ",".intercalate (labels.map labelText) ++ "\x7d"

end Series

/-- Something that is counted. -/
inductive Counter where
  | reconciliations (kind : String)
  | reconciliationErrors (kind : String)
  | phaseTransitions (kind phase : String)
  | debouncedWrites (kind : String)
  | classifiedErrors (kind reaction : String)
  | requeues (reason : String)
  | tokenCacheHits
  | tokenExchanges (result : String)
  | apiRequests (method status : String)
deriving DecidableEq, Repr

namespace Counter

/-- The series of a counter. -/
def series : Counter → Series
  | reconciliations kind => ⟨"aruba_operator_reconciliations_total", [("kind", kind)]⟩
  | reconciliationErrors kind => ⟨"aruba_operator_reconciliation_errors_total", [("kind", kind)]⟩
  | phaseTransitions kind phase =>
    ⟨"aruba_operator_phase_transitions_total", [("kind", kind), ("phase", phase)]⟩
  | debouncedWrites kind => ⟨"aruba_operator_debounced_status_writes_total", [("kind", kind)]⟩
  | classifiedErrors kind reaction =>
    ⟨"aruba_operator_classified_errors_total", [("class", reaction), ("kind", kind)]⟩
  | requeues reason => ⟨"aruba_operator_requeues_total", [("reason", reason)]⟩
  | tokenCacheHits => ⟨"aruba_operator_token_cache_hits_total", []⟩
  | tokenExchanges result => ⟨"aruba_operator_token_exchanges_total", [("result", result)]⟩
  | apiRequests method status =>
    ⟨"aruba_operator_api_requests_total", [("method", method), ("status", status)]⟩

end Counter

/-- Durations that are counted by their length. -/
inductive Histogram where
  | reconciliations (kind : String)
  | apiRequests (method : String)
deriving DecidableEq, Repr

namespace Histogram

/-- The name of a histogram. -/
def name : Histogram → String
  | reconciliations _ => "aruba_operator_reconciliation_duration_seconds"
  | apiRequests _ => "aruba_operator_api_request_duration_seconds"

/-- The labels of a histogram. -/
def labels : Histogram → List (String × String)
  | reconciliations kind => [("kind", kind)]
  | apiRequests method => [("method", method)]

/-- The upper bounds of the buckets of a histogram in seconds, with their texts. -/
def bounds : Histogram → List (String × Float)
  | reconciliations _ =>
    [("0.05", 0.05), ("0.1", 0.1), ("0.5", 0.5), ("1", 1), ("2", 2), ("5", 5), ("10", 10),
      ("30", 30)]
  | apiRequests _ =>
    [("0.05", 0.05), ("0.1", 0.1), ("0.25", 0.25), ("0.5", 0.5), ("1", 1), ("2.5", 2.5), ("5", 5),
      ("10", 10)]

/-- The series of the bucket up to a bound. -/
def bucket (h : Histogram) (bound : String) : Series :=
  ⟨h.name ++ "_bucket", h.labels ++ [("le", bound)]⟩

/-- The series that an observation raises: the buckets that it falls into, which
include all wider ones, and the count of all observations. -/
def raised (h : Histogram) (seconds : Float) : List Series :=
  (h.bounds.filter fun (_, bound) => seconds ≤ bound).map (fun (text, _) => h.bucket text)
    ++ [h.bucket "+Inf", ⟨h.name ++ "_count", h.labels⟩]

end Histogram

/-- How often each series was raised. -/
abbrev Metrics :=
  Table Series Nat

namespace Metrics

/-- A series is raised by one. -/
def raise (m : Metrics) (s : Series) : Metrics :=
  Table.insert m s ((Table.find? m s).getD 0 + 1)

/-- Something is counted. -/
def count (m : Metrics) (c : Counter) : Metrics :=
  m.raise c.series

/-- A duration is observed. -/
def observe (m : Metrics) (h : Histogram) (seconds : Float) : Metrics :=
  (h.raised seconds).foldl raise m

end Metrics

end CloudOperator
