import TlaDigest.Position
import TlaDigest.Text.Digit
import TlaDigest.Text.Numeral

/-!
# Spans

Spans as the tools print them: lines and columns count from one, and the end is the last character
covered. `Span.toRange` maps a span into a document, where counting starts at zero and the end is
excluded; the inclusive end column is the excluded one as it stands.
-/

namespace TlaDigest

/-- A line and a column, both counted from one. -/
structure Spot where
  line : UInt32
  column : UInt32
deriving DecidableEq, Repr

/-- The first character of a span and, when the tool gives it, the last. -/
structure Span where
  first : Spot
  last : Option Spot
deriving DecidableEq, Repr

/-- One less, where there is one less. -/
def predecessor (n : UInt32) : UInt32 := if n = 0 then 0 else n - 1

namespace Span

open Text

/-- The range of a document that a span covers. Without a last character it is a point. -/
def toRange (s : Span) : Range :=
  let start : Position := ⟨predecessor s.first.line, predecessor s.first.column⟩
  match s.last with
  | some last => .between start ⟨predecessor last.line, last.column⟩
  | none => .point start

/-! ### Reading

A spot is written `line:column`, a span `line:column` or `line:column-line:column`. The digits may
be those of any script; the shape decides where a spot ends, and only then are its numbers read. -/

/-- The two runs of digits of a spot. -/
structure SpotText where
  line : List Char
  column : List Char
deriving DecidableEq, Repr

structure Text where
  first : SpotText
  last : Option SpotText
deriving DecidableEq, Repr

def spotText? (cs : List Char) : Option (SpotText × List Char) := do
  let (line, rest) ← digits? cs
  let ':' :: rest := rest | none
  let (column, rest) ← digits? rest
  pure (⟨line, column⟩, rest)

/-- The digit runs of a span at the front, and the rest. A dash has to lead to a second spot. -/
def text? (cs : List Char) : Option (Text × List Char) := do
  let (first, rest) ← spotText? cs
  match rest with
  | '-' :: rest =>
    let (last, rest) ← spotText? rest
    pure (⟨first, some last⟩, rest)
  | rest => pure (⟨first, none⟩, rest)

/-- The numbers of a spot, when both are words. -/
def SpotText.value? (t : SpotText) : Option Spot := do
  let line ← word32? t.line
  let column ← word32? t.column
  pure ⟨line, column⟩

def Text.value? (t : Text) : Option Span := do
  let first ← t.first.value?
  match t.last with
  | none => pure ⟨first, none⟩
  | some last =>
    let last ← last.value?
    pure ⟨first, some last⟩

def ofText? (cs : List Char) : Option Span :=
  match text? cs with
  | some (t, []) => t.value?
  | _ => none

def parse? (s : String) : Option Span := ofText? s.toList

/-! ### Writing -/

def spotChars (p : Spot) : List Char := decimal p.line.toNat ++ ':' :: decimal p.column.toNat

def chars (s : Span) : List Char :=
  match s.last with
  | none => spotChars s.first
  | some last => spotChars s.first ++ '-' :: spotChars last

end Span

end TlaDigest
