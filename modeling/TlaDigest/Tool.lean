import TlaDigest.Analyzer
import TlaDigest.Transpiler

/-!
# Tools

The two tools that are run, and the commands that run them.
-/

namespace TlaDigest

inductive Tool where
  /-- Transpiles the PlusCal algorithm of a module. -/
  | transpiler
  /-- Checks the syntax and semantics of a module. -/
  | analyzer
deriving DecidableEq, Repr

namespace Tool

/-- The name under which a tool is reported. -/
def name : Tool → String
  | .transpiler => Transpiler.tool
  | .analyzer => Analyzer.tool

def mainClass : Tool → String
  | .transpiler => "pcal.trans"
  | .analyzer => "tla2sany.SANY"

end Tool

structure Command where
  tool : Tool
  program : String
  args : List String
deriving DecidableEq, Repr

end TlaDigest
