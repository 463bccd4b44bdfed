import CloudOperator.Definition.Kind
import CloudOperator.Definition.Yaml

/-!
# Printing definitions

The command that prints the definitions of kinds: its arguments, the text it
prints and what it says about itself.
-/

namespace CloudOperator

namespace Kind

/-- The name of a kind on the command line. -/
def argument : Kind → String
  | project => "project"
  | vpc => "vpc"
  | subnet => "subnet"
  | securityGroup => "security-group"
  | securityRule => "security-rule"
  | keyPair => "key-pair"
  | elasticIp => "elastic-ip"
  | blockStorage => "block-storage"
  | cloudServer => "cloud-server"

/-- The kind of a name on the command line. -/
def ofArgument? (name : String) : Option Kind :=
  all.find? (·.argument = name)

end Kind

namespace Command

/-- What the command is asked to do. -/
inductive Request where
  /-- Print the definitions of the kinds, of all if none is named. -/
  | print (kinds : List Kind)
  /-- Say how the command is used. -/
  | help
  /-- The arguments make no sense. -/
  | refuse

/-- The value given in the same argument as an option, without an equals sign. -/
def attached : List Char → String
  | '=' :: rest => String.ofList rest
  | rest => String.ofList rest

/-- One more kind by name. -/
def withKind (kinds : List Kind) (name : String) : Option (List Kind) :=
  (Kind.ofArgument? name).map fun K => kinds ++ [K]

/-- The request of arguments that follow those for `kinds`. -/
def requestAfter (kinds : List Kind) : List String → Request
  | [] => .print kinds
  | "--help" :: _ => .help
  | ["--"] => .print kinds
  | "-k" :: name :: rest | "--kind" :: name :: rest =>
    match withKind kinds name with
    | some kinds => requestAfter kinds rest
    | none => .refuse
  | arg :: rest =>
    match arg.toList with
    | '-' :: 'h' :: _ => .help
    | '-' :: '-' :: 'k' :: 'i' :: 'n' :: 'd' :: '=' :: name =>
      match withKind kinds (String.ofList name) with
      | some kinds => requestAfter kinds rest
      | none => .refuse
    | '-' :: 'k' :: name =>
      match withKind kinds (attached name) with
      | some kinds => requestAfter kinds rest
      | none => .refuse
    | _ => .refuse

/-- The request of the arguments of the command. -/
def request (args : List String) : Request :=
  requestAfter [] args

/-- What the command prints for kinds, all of them if the list is empty. -/
def printed (kinds : List Kind) : String :=
  let kinds := if kinds.isEmpty then Kind.all else kinds
  "# This file is auto-generated by crdgen\n# DO NOT EDIT THIS FILE MANUALLY\n"
    ++ String.join (kinds.map fun K => "---\n" ++ Yaml.document K.definition)

/-- How the command is used. -/
def usage : String :=
  String.join [
    "Generate CRD YAML for the Aruba resource operator\n",
    "\n",
    "Usage: crdgen [OPTIONS]\n",
    "\n",
    "Options:\n",
    "  -k, --kind <KIND>  Only print this kind (repeatable); all kinds when omitted ",
    "[possible values: " ++ ", ".intercalate (Kind.all.map Kind.argument) ++ "]\n",
    "  -h, --help         Print help\n"]

/-- What the command prints for its arguments, unless they make no sense. -/
def output (args : List String) : Option String :=
  match request args with
  | .print kinds => some (printed kinds)
  | .help => some usage
  | .refuse => none

end Command

end CloudOperator
