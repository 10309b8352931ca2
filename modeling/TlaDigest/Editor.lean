import TlaDigest.Diagnostic

/-!
# Notices for editors

Diagnostics in the form that editors exchange: severities are numbers and every diagnostic names its
source.
-/

namespace TlaDigest.Editor

structure Notice where
  range : Range
  severity : Nat
  source : String
  message : String
deriving DecidableEq, Repr

def severityNumber : Severity → Nat
  | .error => 1
  | .warning => 2

def source : String := "tla"

def notice (d : Diagnostic) : Notice := ⟨d.range, severityNumber d.severity, source, d.message⟩

/-- A range received from an editor, whose end may precede its start. -/
def received (start stop : Position) : Range := .between start stop

end TlaDigest.Editor
