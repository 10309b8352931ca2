import TlaDigest.Arguments

/-!
# Help

What the program says about its own use.
-/

namespace TlaDigest.Arguments

def programName : String := "tla"

def versionLine : String := programName ++ " 0.1.0"

def usageLine : String := "Usage: " ++ programName ++ " [OPTIONS] <COMMAND>"

def Subcommand.summary : Subcommand → String
  | .parse => "Transpile the PlusCal algorithm, then analyze the module"
  | .transpile => "Transpile the PlusCal algorithm in a module"
  | .analyze => "Check a module's syntax and semantics"
  | .read => "Parse saved tool output from stdin"

/-- A line of a table with two columns. -/
def tableRow (width : Nat) (left right : String) : String :=
  "  " ++ left ++ String.ofList (List.replicate (width - left.length) ' ') ++ "  " ++ right

def subcommandRows : List String :=
  (Subcommand.all.map fun c => tableRow 9 c.word c.summary) ++
    [tableRow 9 helpWord "Print this message or the help of the given subcommand(s)"]

def optionRows : List String := [
  tableRow 19 "    --config <PATH>" "Tools config file",
  tableRow 19 "    --json" "Print results as JSON",
  tableRow 19 "-v, --verbose" "Verbose logging",
  tableRow 19 "-h, --help" "Print help",
  tableRow 19 "-V, --version" "Print version"]

def helpLines : List String :=
  ["Runs the TLA+ transpiler and analyzer and reports their diagnostics", "", usageLine, "",
    "Commands:"] ++ subcommandRows ++ ["", "Options:"] ++ optionRows

/-- The text of a usage error. -/
def errorText : UsageError → String
  | .help => "help"
  | .version => "version"
  | .empty => "a subcommand is required"
  | .missingSubcommand => "a subcommand is required"
  | .unknownSubcommand => "unrecognized subcommand"
  | .unknownArgument => "unexpected argument"
  | .missingOperand => "a required argument was not provided"
  | .invalidValue => "an argument has an invalid value"
  | .repeated => "an argument was used multiple times"
  | .surplusValue => "a value was given to an argument that takes none"

end TlaDigest.Arguments
