import CloudOperator.Definition.Command

/-!
# Command line

The command line tool that prints the definitions of the kinds.
-/

open CloudOperator

/-- The tool prints what its arguments ask for; arguments that it does not understand
are an error of usage. -/
def main (args : List String) : IO UInt32 := do
  match Command.output args with
  | some text =>
    IO.print text
    return 0
  | none => return 2
