import TlaDigest.Findings

/-!
# Drafts

Diagnostics whose message is still being printed. A header opens a draft, the lines after it add to
its message, and the next header or banner settles it.
-/

namespace TlaDigest

/-- A diagnostic that is not finished. -/
structure Draft where
  location : Location
  severity : Severity
  lines : List String
deriving DecidableEq, Repr

namespace Draft

/-- Starts a draft; the header itself may carry the first line of the message. -/
def start (location : Location) (severity : Severity) (first : Option String) : Draft :=
  ⟨location, severity, first.toList⟩

/-- Adds a line to the message. Blank lines do not count, and blanks around a line are dropped. -/
def push (d : Draft) (line : String) : Draft :=
  match Text.trim line.toList with
  | [] => d
  | text => { d with lines := d.lines ++ [String.ofList text] }

def message (d : Draft) : String := Text.joinLines d.lines

def diagnostic (d : Draft) : Diagnostic := d.location.diagnostic d.severity d.message

def settle (d : Draft) (f : Findings) : Findings := f.add d.location.path d.diagnostic

end Draft

namespace Findings

def settle (f : Findings) : Option Draft → Findings
  | none => f
  | some d => d.settle f

end Findings

end TlaDigest
