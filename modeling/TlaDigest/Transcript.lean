import TlaDigest.LineParser

/-!
# Transcripts

The raw lines of a run, each under the name of the tool that printed it. A parser is made to keep
one by `LineParser.tee`, which changes nothing else about it.
-/

namespace TlaDigest

structure TranscriptLine where
  tool : String
  text : String
deriving DecidableEq, Repr

abbrev Transcript := Array TranscriptLine

namespace Transcript

def empty : Transcript := #[]

def line (t : Transcript) (tool text : String) : Transcript := t.push ⟨tool, text⟩

def addLines (t : Transcript) (tool : String) (texts : List String) : Transcript :=
  texts.foldl (fun t text => t.line tool text) t

def linesFor (t : Transcript) (tool : String) : List String :=
  (t.toList.filter fun l => l.tool = tool).map (·.text)

end Transcript

namespace LineParser

variable {σ ω : Type}

/-- The parser `p` with a transcript: each line is written down before `p` takes it. -/
def tee (p : LineParser σ ω) (before : Transcript) :
    LineParser (σ × Transcript) (ω × Transcript) where
  tool := p.tool
  start := (p.start, before)
  feed s line := (p.feed s.1 line, s.2.line p.tool line)
  finish s := (p.finish s.1, s.2)

end LineParser

end TlaDigest
