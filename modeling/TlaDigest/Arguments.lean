import TlaDigest.Arguments.Level
import TlaDigest.Path
import TlaDigest.Tool

/-!
# Command lines

The command line: what the program is asked to do. Some options may stand before the subcommand or
after it; where both levels give a value, the later one counts.
-/

namespace TlaDigest

inductive Request where
  /-- Transpile a module and analyze it. -/
  | parse (file : Path) (extended : Bool)
  | transpile (file : Path)
  | analyze (file : Path) (extended : Bool)
  /-- Parse output of a tool that is read from the input. -/
  | read (tool : Tool) (source : Option Path) (extended : Bool)
deriving DecidableEq, Repr

structure Arguments where
  config : Option Path
  json : Bool
  verbose : Bool
  request : Request
deriving DecidableEq, Repr

namespace Arguments

/-- A tool by its word on the command line. -/
def toolNamed? : String → Option Tool
  | "transpiler" => some .transpiler
  | "analyzer" => some .analyzer
  | _ => none

inductive Subcommand where
  | parse
  | transpile
  | analyze
  | read
deriving DecidableEq, Repr

namespace Subcommand

def all : List Subcommand := [.parse, .transpile, .analyze, .read]

def word : Subcommand → String
  | .parse => "parse"
  | .transpile => "transpile"
  | .analyze => "analyze"
  | .read => "read"

def ofWord? (word : String) : Option Subcommand := all.find? fun c => c.word == word

def ownOptions : Subcommand → List (String × Slot)
  | .parse => [("extended", .extended)]
  | .transpile => []
  | .analyze => [("extended", .extended)]
  | .read => [("source", .source), ("extended", .extended)]

end Subcommand

/-! ### Levels -/

def sharedOptions : List (String × Slot) :=
  [("config", .config), ("json", .json), ("verbose", .verbose), ("help", .help)]

def sharedLetters : List (Char × Slot) := [('v', .verbose), ('h', .help)]

def helpWord : String := "help"

def topLevel : Level where
  long := sharedOptions ++ [("version", .version)]
  short := sharedLetters ++ [('V', .version)]
  subcommands := Subcommand.all.map Subcommand.word ++ [helpWord]
  hasOperand := false
  operandOk := fun _ => false

def Subcommand.level (c : Subcommand) : Level where
  long := sharedOptions ++ c.ownOptions
  short := sharedLetters
  subcommands := []
  hasOperand := true
  operandOk := fun value =>
    match c with
    | .read => (toolNamed? value).isSome
    | _ => value != ""

/-! ### Reading -/

def Subcommand.request? (c : Subcommand) (s : Scan) (operand : String) : Option Request :=
  let extended := s.has .extended
  match c with
  | .parse => some (.parse ⟨operand⟩ extended)
  | .transpile => some (.transpile ⟨operand⟩)
  | .analyze => some (.analyze ⟨operand⟩ extended)
  | .read => (toolNamed? operand).map fun tool => .read tool ((s.value? .source).map Path.mk) extended

def Subcommand.readLevel (c : Subcommand) (args : List String) : Except UsageError (Scan × Request) := do
  let (s, _) ← Scan.run c.level .start args
  let s ← s.settle c.level
  match s.value? .operand with
  | none => .error .missingOperand
  | some operand =>
    match c.request? s operand with
    | none => .error .invalidValue
    | some request => .ok (s, request)

/-- The answer to a request for help on subcommands. A subcommand has none of its own. -/
def helpOn (words : List String) : UsageError :=
  match words with
  | [] => .help
  | [word] => if topLevel.subcommands.contains word then .help else .unknownSubcommand
  | _ => .unknownSubcommand

/-- Reads a command line, without the name of the program. -/
def parse (args : List String) : Except UsageError Arguments := do
  let (outer, rest) ← Scan.run topLevel .start args
  match rest with
  | none =>
    let outer ← outer.settle topLevel
    .error (if outer.settled.isEmpty then .empty else .missingSubcommand)
  | some (word, args) =>
    match Subcommand.ofWord? word with
    | none => .error (helpOn args)
    | some c =>
      let (inner, request) ← c.readLevel args
      let outer ← outer.settle topLevel
      .ok {
        config := ((inner.value? .config).or (outer.value? .config)).map Path.mk
        json := inner.has .json || outer.has .json
        verbose := inner.has .verbose || outer.has .verbose
        request := request }

end Arguments

end TlaDigest
