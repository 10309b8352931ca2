import TlaDigest.Path
import TlaDigest.Span

/-!
# Diagnostics

A message about a range of a document, with how serious it is. The place of a message is at first
one in the tool's own coordinates (`Location`).
-/

namespace TlaDigest

inductive Severity where
  | error
  | warning
deriving DecidableEq, Repr

namespace Severity

def tag : Severity → String
  | .error => "error"
  | .warning => "warning"

/-- The lower-case form of an ASCII letter; other characters stay. -/
def lower (c : Char) : Char := if 'A' ≤ c ∧ c ≤ 'Z' then Char.ofNat (c.toNat + 32) else c

/-- Reads a tag in any mixture of cases. -/
def ofTag? (cs : List Char) : Option Severity :=
  let word := cs.map lower
  if word = "error".toList then some .error
  else if word = "warning".toList then some .warning
  else none

end Severity

structure Diagnostic where
  range : Range
  severity : Severity
  message : String
deriving DecidableEq, Repr

/-- Where a tool placed a message. Without a span only the file is known. -/
structure Location where
  path : Path
  span : Option Span
deriving DecidableEq, Repr

namespace Location

def isUnknown (l : Location) : Bool := l.span.isNone

/-- The range of the document; the start of it when the position is unknown. -/
def toRange (l : Location) : Range :=
  match l.span with
  | some span => span.toRange
  | none => .origin

def diagnostic (l : Location) (severity : Severity) (message : String) : Diagnostic :=
  ⟨l.toRange, severity, message⟩

end Location

end TlaDigest
