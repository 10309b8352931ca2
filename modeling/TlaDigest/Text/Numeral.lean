/-!
# Decimal numerals for 32-bit words

Coordinates and counters are words of 32 bits: a numeral that denotes a larger number is refused,
never wrapped or clamped.
-/

namespace TlaDigest.Text

def digitValue? (c : Char) : Option Nat :=
  if '0' ≤ c ∧ c ≤ '9' then some (c.toNat - '0'.toNat) else none

/-- Reads on from the number `n`, digit by digit. -/
def natFrom? (n : Nat) : List Char → Option Nat
  | [] => some n
  | c :: cs => (digitValue? c).bind fun d => natFrom? (n * 10 + d) cs

/-- The number denoted by a non-empty run of ASCII digits. Leading zeros are free. -/
def nat? : List Char → Option Nat
  | [] => none
  | cs => natFrom? 0 cs

/-- The word denoted by a numeral, unless the number needs more than 32 bits. -/
def word32? (cs : List Char) : Option UInt32 :=
  (nat? cs).bind fun n => if n < UInt32.size then some (UInt32.ofNat n) else none

/-- A numeral that may carry one leading plus sign, as the counters do. -/
def signedWord32? : List Char → Option UInt32
  | '+' :: cs => word32? cs
  | cs => word32? cs

abbrev decimal (n : Nat) : List Char := Nat.toDigits 10 n

end TlaDigest.Text
