import TlaDigest.LineParser
import TlaDigest.Stream.Lines

/-!
# Feeding a parser

Feeding a parser from a stream that arrives in chunks. A chunk may end anywhere, inside a line or
inside a character; what is left of the last line waits in a buffer. The part of the buffer that was
searched for a line feed before is not searched again.
-/

namespace TlaDigest.Stream

variable {σ ω : Type}

/-- A pass over a stream. -/
structure Feed (σ : Type) where
  state : σ
  /-- The bytes of the unfinished line. -/
  buffer : Array UInt8
  /-- How many bytes of the buffer are known to hold no line feed. -/
  scanned : Nat
  lines : Nat

/-- The first line feed at or after position `i`. -/
def lineBreak? (buffer : Array UInt8) (i : Nat) : Option Nat :=
  if h : i < buffer.size then
    if buffer[i] = lineFeed then some i else lineBreak? buffer (i + 1)
  else none
termination_by buffer.size - i

theorem lineBreak?_bounds {buffer : Array UInt8} {i j : Nat} (h : lineBreak? buffer i = some j) :
    i ≤ j ∧ j < buffer.size := by
  fun_induction lineBreak? buffer i with
  | case1 i hi hfeed =>
    simp only [Option.some.injEq] at h
    omega
  | case2 i hi hfeed ih =>
    have := ih h
    omega
  | case3 i hi => simp at h

/-- Gives the parser every line of the buffer that is complete. The current line starts at `start`,
    and no line feed stands between it and `scanned`. The result is the parser's state, the number of
    lines, and the start of the line that is not complete. -/
def drain (p : LineParser σ ω) (buffer : Array UInt8) (start scanned : Nat) (state : σ)
    (lines : Nat) : σ × Nat × Nat :=
  match _h : lineBreak? buffer scanned with
  | none => (state, lines, start)
  | some stop =>
    let line := lineText (buffer.extract start stop).toList
    drain p buffer (stop + 1) (stop + 1) (p.feed state line) (lines + 1)
termination_by buffer.size - scanned
decreasing_by
  have := lineBreak?_bounds _h
  omega

namespace Feed

def start (p : LineParser σ ω) : Feed σ := ⟨p.start, #[], 0, 0⟩

def push (p : LineParser σ ω) (f : Feed σ) (chunk : List UInt8) : Feed σ :=
  let buffer := f.buffer ++ chunk
  let (state, lines, start) := drain p buffer 0 f.scanned f.state f.lines
  let rest := buffer.extract start buffer.size
  ⟨state, rest, rest.size, lines⟩

/-- The end of the stream: a line without line feed counts when it holds a byte. -/
def stop (p : LineParser σ ω) (f : Feed σ) : ω :=
  if f.buffer.isEmpty then p.finish f.state
  else p.finish (p.feed f.state (lineText f.buffer.toList))

end Feed

/-- The result for a text that is at hand as a whole. -/
def parseText (p : LineParser σ ω) (text : String) : ω :=
  ((Feed.start p).push p (Text.Utf8.encode text.toList)).stop p

end TlaDigest.Stream
