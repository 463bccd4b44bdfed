import CloudOperator.Text.Quoted

/-!
# Summaries of records

A record on one line: its name and its fields with their values.  Secrets are shown
as asterisks.
-/

namespace CloudOperator

namespace Summary

/-- The value that is shown for a secret. -/
def hidden : String :=
  quoted "***"

/-- The fields of a record, with the commas between them. -/
def fieldsText (fields : List (String × String)) : String :=
  ", ".intercalate (fields.map fun (name, value) => name ++ ": " ++ value)

/-- A record with all of its fields. -/
def whole (name : String) (fields : List (String × String)) : String :=
  name ++ " \x7b " ++ fieldsText fields ++ " \x7d"

/-- A record with some of its fields. -/
def partly (name : String) (fields : List (String × String)) : String :=
  name ++ " \x7b " ++ fieldsText fields ++ ", .. \x7d"

end Summary

end CloudOperator
