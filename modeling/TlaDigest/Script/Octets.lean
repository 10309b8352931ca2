import TlaDigest.Text.Blank
import TlaDigest.Text.Numeral
import TlaDigest.Text.Utf8

/-!
# Octets

Text as scripts and programs see it: bytes without an encoding. Each byte is written as the
character with its number, so that text can be compared with characters.
-/

namespace TlaDigest.Script

open Text

abbrev Octets := List Char

def octets (s : String) : Octets := (Utf8.encode s.toList).map fun b => Char.ofNat b.toNat

def ofBytes (bytes : List UInt8) : Octets := bytes.map fun b => Char.ofNat b.toNat

def toBytes (text : Octets) : List UInt8 := text.map fun c => UInt8.ofNat c.toNat

def plainText (text : Octets) : String := String.ofList (Utf8.decode (toBytes text))

def numeral (n : Int) : Octets := if n < 0 then '-' :: decimal n.natAbs else decimal n.natAbs

def apostrophe : Char := Char.ofNat 39

def inApostrophes (text : Octets) : Octets := apostrophe :: text ++ [apostrophe]

def isNameStart (c : Char) : Bool := ('a' ≤ c && c ≤ 'z') || ('A' ≤ c && c ≤ 'Z') || c == '_'

def isDecimalDigit (c : Char) : Bool := '0' ≤ c && c ≤ '9'

def isNameChar (c : Char) : Bool := isNameStart c || isDecimalDigit c

def isName : Octets → Bool
  | [] => false
  | c :: cs => isNameStart c && cs.all isNameChar

def isSpace (c : Char) : Bool := c == ' ' || ('\t' ≤ c && c ≤ '\r')

def upperCase (c : Char) : Char := if 'a' ≤ c && c ≤ 'z' then Char.ofNat (c.toNat - 32) else c

def lowerCase (c : Char) : Char := if 'A' ≤ c && c ≤ 'Z' then Char.ofNat (c.toNat + 32) else c

/-- The lines of a text, each with the line feed at its end; the last may have none. -/
def linesOf (text : Octets) : List Octets :=
  let parts := splitOn '\n' text
  parts.dropLast.map (· ++ ['\n']) ++ (parts.getLast?.filter (· != [])).toList

/-! ### Numbers -/

def digitOf? (base : Nat) (c : Char) : Option Nat :=
  let n :=
    if isDecimalDigit c then c.toNat - '0'.toNat
    else if 'a' ≤ c && c ≤ 'f' then c.toNat - 'a'.toNat + 10
    else if 'A' ≤ c && c ≤ 'F' then c.toNat - 'A'.toNat + 10
    else 16
  if n < base then some n else none

/-- The number of the digits at the front, and what follows them. -/
def digitsAt (base : Nat) (cs : Octets) : Nat × Octets :=
  let isDigitHere (c : Char) : Bool := (digitOf? base c).isSome
  ((cs.takeWhile isDigitHere).foldl (fun n c => n * base + (digitOf? base c).getD 0) 0,
    cs.dropWhile isDigitHere)

/-- The number at the front: hexadecimal after `0x`, octal after `0`, and else decimal. There is none
    without a digit. -/
def unsignedAt? : Octets → Option (Nat × Octets)
  | '0' :: x :: d :: cs =>
    if (x == 'x' || x == 'X') && (digitOf? 16 d).isSome then some (digitsAt 16 (d :: cs))
    else some (digitsAt 8 ('0' :: x :: d :: cs))
  | '0' :: cs => some (digitsAt 8 ('0' :: cs))
  | c :: cs => if isDecimalDigit c then some (digitsAt 10 (c :: cs)) else none
  | [] => none

/-- The number at the front, with its sign, after blanks. -/
def signedAt? (cs : Octets) : Option (Int × Octets) :=
  match cs.dropWhile isSpace with
  | '-' :: cs => (unsignedAt? cs).map fun (n, rest) => (-(n : Int), rest)
  | '+' :: cs => (unsignedAt? cs).map fun (n, rest) => ((n : Int), rest)
  | cs => (unsignedAt? cs).map fun (n, rest) => ((n : Int), rest)

def wordSize : Nat := 0x10000000000000000

def wrapped (n : Int) : Int := n.bmod wordSize

def bits (n : Int) : Nat := (n.emod wordSize).toNat

/-- The least and the greatest number of sixty-four bits, with sign. -/
def signedBounds : Int × Int := (-0x8000000000000000, 0x7FFFFFFFFFFFFFFF)

def total (ns : List Nat) : Nat := ns.foldl (· + ·) 0

end TlaDigest.Script
