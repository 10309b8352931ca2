import TlaDigest.Analyzer
import TlaDigest.Exit

/-!
# Runs of a tool

What was parsed from its output, and how its process ended. A run fails silently when the process
reports a failure and its output no problem.
-/

namespace TlaDigest

structure ToolRun (ω : Type) where
  output : ω
  exit : Exit
deriving DecidableEq, Repr

/-- A run with these findings failed silently. -/
def Findings.failedSilently (f : Findings) (exit : Exit) : Bool := !exit.success && f.isEmpty

def ToolRun.transpilerFailedSilently (r : ToolRun Findings) : Bool := r.output.failedSilently r.exit

def ToolRun.analyzerFailedSilently (r : ToolRun Analysis) : Bool :=
  r.output.findings.failedSilently r.exit

/-- The transpiler's run on a module and the analyzer's after it. -/
structure ModuleRun where
  /-- The diagnostics of the transpiler, then those of the analyzer. -/
  findings : Findings
  modules : Catalog String Path
  obligations : List ObligationRecord
  transpilerExit : Exit
  analyzerExit : Exit
deriving DecidableEq, Repr

namespace ModuleRun

def ofRuns (transpiled : ToolRun Findings) (analyzed : ToolRun Analysis) : ModuleRun where
  findings := transpiled.output.merge analyzed.output.findings
  modules := analyzed.output.modules
  obligations := analyzed.output.obligations
  transpilerExit := transpiled.exit
  analyzerExit := analyzed.exit

/-- A tool failed and neither reported a diagnostic. -/
def failedSilently (r : ModuleRun) : Bool :=
  r.findings.isEmpty && !(r.transpilerExit.success && r.analyzerExit.success)

end ModuleRun

end TlaDigest
