import TlaDigest.Text.Blank
import TlaDigest.Text.Utf8

/-!
# The lines of a byte string

A line ends at a line feed; a last line needs none, but has to hold a byte. One carriage return at
the end of a line belongs to its line break. Each line is decoded on its own, so an ill-formed
character never reaches past its line.
-/

namespace TlaDigest.Stream

open Text

def lineFeed : UInt8 := 0x0A

def carriageReturn : UInt8 := 0x0D

/-- The text of a line, given by its bytes up to the line feed. -/
def lineText (raw : List UInt8) : String := String.ofList (Utf8.decode (dropFinal carriageReturn raw))

/-- The raw lines of a byte string. -/
def rawLines (bytes : List UInt8) : List (List UInt8) :=
  let pieces := splitOn lineFeed bytes
  if pieces.getLast? = some [] then pieces.dropLast else pieces

def lines (bytes : List UInt8) : List String := (rawLines bytes).map lineText

def textLines (text : String) : List String := lines (Utf8.encode text.toList)

/-- The lines of a byte string up to the first that is not well-formed UTF-8. Here a carriage return
    belongs to the line break only where a line feed follows it. -/
def strictLines (bytes : List UInt8) : List String :=
  let pieces := splitOn lineFeed bytes
  let last := pieces.getLast?.toList.filter (· ≠ [])
  let decoded := (pieces.dropLast.map (dropFinal carriageReturn) ++ last).map Utf8.decode?
  ((decoded.takeWhile Option.isSome).filterMap id).map String.ofList

end TlaDigest.Stream
