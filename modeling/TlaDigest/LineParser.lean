/-!
# Line parsers

Parsers that are driven line by line. What a parser makes of a run is fixed by the lines alone
(`LineParser.parse`); how the lines arrive is the business of the stream that feeds it.
-/

namespace TlaDigest

/-- A parser with states `σ` and results `ω`. -/
structure LineParser (σ ω : Type) where
  tool : String
  start : σ
  /-- Takes one line, without its line break. -/
  feed : σ → String → σ
  /-- What the lines taken amount to. -/
  finish : σ → ω

namespace LineParser

variable {σ ω : Type}

def after (p : LineParser σ ω) (lines : List String) : σ := lines.foldl p.feed p.start

def parse (p : LineParser σ ω) (lines : List String) : ω := p.finish (p.after lines)

/-- The parser that only collects the lines it is given. -/
def collect (tool : String) : LineParser (Array String) (List String) where
  tool := tool
  start := #[]
  feed := Array.push
  finish := Array.toList

end LineParser

end TlaDigest
