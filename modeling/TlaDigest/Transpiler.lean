import TlaDigest.Draft
import TlaDigest.Line
import TlaDigest.LineParser

/-!
# The transpiler's output

The output of the PlusCal transpiler. Each header opens an error whose message is the text up to the
next header or banner. A header for the input (`-`) is one for the source file, and a header for a
module is one for the file of that module beside it.
-/

namespace TlaDigest.Transpiler

def tool : String := "pluscal"

/-- What is known after some lines. -/
structure State where
  draft : Option Draft
  findings : Findings
deriving DecidableEq, Repr

def State.initial : State := ⟨none, .empty⟩

def State.settle (s : State) : State := ⟨none, s.findings.settle s.draft⟩

/-- Adds text to the draft; without a draft the text is dropped. -/
def State.addText (s : State) (text : String) : State :=
  { s with draft := s.draft.map (·.push text) }

/-- The file that a header names. -/
def resolve (source : Path) : Target → Path
  | .path path => if path = Header.inputPath then source else path
  | .module name => source.siblingModule name

def feed (source : Path) (s : State) (line : String) : State :=
  match Line.classify line with
  | .header h =>
    let draft := Draft.start ⟨resolve source h.target, h.span⟩ .error h.message
    { s.settle with draft := some draft }
  | .banner _ => s.settle
  | .message text => s.addText text
  | .unrecognized text => s.addText text
  | .status _ => s.addText line

def finish (s : State) : Findings := s.settle.findings

def parser (source : Path) : LineParser State Findings := ⟨tool, .initial, feed source, finish⟩

end TlaDigest.Transpiler
