import TlaDigest.Line.Header
import TlaDigest.Line.Section
import TlaDigest.Line.Status

/-!
# Lines of tool output

What one line of tool output is. The readers are tried from the most to the least specific: status
record, banner, header, indented message. Every line is of some kind, as what no reader takes is
`unrecognized`.
-/

namespace TlaDigest

inductive Line where
  | header (h : Header)
  /-- Indented text, trimmed. -/
  | message (text : String)
  | banner (s : Section)
  | status (s : Status)
  /-- Any other text, as it stands. -/
  | unrecognized (text : String)
deriving DecidableEq, Repr

namespace Line

open Text

/-- A line that starts with a space or a tab. -/
def isIndented : List Char → Bool
  | c :: _ => c == ' ' || c == '\t'
  | [] => false

/-- A line that is neither record, banner nor header. -/
def loose (line : String) : Line :=
  match trim line.toList with
  | [] => .unrecognized line
  | text => if isIndented line.toList then .message (String.ofList text) else .unrecognized line

/-- Tells what a line is. -/
def classify (line : String) : Line :=
  match Status.ofLine? line.toList with
  | some s => .status s
  | none =>
    match Section.ofLine? line.toList with
    | some s => .banner s
    | none =>
      match Header.ofLine? line.toList with
      | some h => .header h
      | none => loose line

end Line

end TlaDigest
