import TlaDigest.Script.Octets

/-!
# Numbers with a fraction

A number is read exactly, rounded to a binary format, and written in decimal digits; each rounding
goes to the nearest neighbour, and halfway to the even one.
-/

namespace TlaDigest.Script

open Text

/-- A number: a fraction with its sign, or a value that is none. -/
inductive Numeric where
  | finite (negative : Bool) (num den : Nat)
  | infinite (negative : Bool)
  | undefined (negative : Bool)
deriving DecidableEq, Repr

/-- The whole number nearest to a fraction; halfway, the even one. -/
def roundDiv (num den : Nat) : Nat :=
  let q := num / den
  let r := num % den
  if 2 * r < den then q else if den < 2 * r then q + 1 else if q % 2 = 0 then q else q + 1

/-- A binary format: the bits of its numbers, and the least and greatest exponents of their last bit. -/
structure BinaryFormat where
  bits : Nat
  least : Int
  greatest : Int

def binary64 : BinaryFormat := ⟨53, -1074, 971⟩

def binary80 : BinaryFormat := ⟨64, -16445, 16320⟩

def shifted (num den : Nat) (e : Int) : Nat × Nat :=
  if 0 ≤ e then (num, den * Nat.pow 2 e.toNat) else (num * Nat.pow 2 (-e).toNat, den)

/-- The nearest number of a format, as a fraction; none where it is too great. -/
def BinaryFormat.nearest? (f : BinaryFormat) (num den : Nat) : Option (Nat × Nat) :=
  if num = 0 then some (0, 1)
  else
    let guess : Int := (Nat.log2 num : Int) - Nat.log2 den - f.bits
    let (n, d) := shifted num den guess
    let e := max f.least (if n / d < Nat.pow 2 f.bits then guess else guess + 1)
    let (n, d) := shifted num den e
    let m := roundDiv n d
    if f.greatest < e || (e = f.greatest && Nat.pow 2 f.bits ≤ m) then none
    else some (if 0 ≤ e then (m * Nat.pow 2 e.toNat, 1) else (m, Nat.pow 2 (-e).toNat))

def Numeric.rounded (f : BinaryFormat) : Numeric → Numeric
  | .finite negative num den =>
    match f.nearest? num den with
    | some (num, den) => .finite negative num den
    | none => .infinite negative
  | x => x

/-! ### Reading -/

/-- The greatest power of ten that is read as it stands. -/
def maxExponent : Nat := 6000

/-- An exponent at the front, after one of its marks; none without a digit. -/
def exponentAt? (marks : List Char) (cs : Octets) : Option (Int × Octets) :=
  match cs with
  | mark :: rest =>
    if marks.contains mark then
      let (sign, digits) : Int × Octets := match rest with
        | '-' :: digits => (-1, digits)
        | '+' :: digits => (1, digits)
        | digits => (1, digits)
      let (n, after) := digitsAt 10 digits
      if digits.length == after.length then none else some (sign * (min n maxExponent : Nat), after)
    else none
  | [] => none

/-- A fraction at the front in a base, with its exponent, and what follows. -/
def fractionAt? (base : Nat) (marks : List Char) (power : Nat) (cs : Octets) :
    Option ((Nat × Nat) × Octets) :=
  let isDigitHere (c : Char) : Bool := (digitOf? base c).isSome
  let whole := cs.takeWhile isDigitHere
  let (part, rest) := match cs.drop whole.length with
    | '.' :: rest => (rest.takeWhile isDigitHere, rest.dropWhile isDigitHere)
    | rest => ([], rest)
  if whole.isEmpty && part.isEmpty then none
  else
    let num := (digitsAt base (whole ++ part)).1
    let den := Nat.pow base part.length
    let (e, rest) := (exponentAt? marks rest).getD (0, rest)
    let scale := Nat.pow power e.natAbs
    some (if e < 0 then (num, den * scale) else (num * scale, den), rest)

/-- The number at the front, after blanks, and what follows. -/
def numericAt? (cs : Octets) : Option (Numeric × Octets) :=
  let cs := cs.dropWhile isSpace
  let (negative, cs) := match cs with
    | '-' :: cs => (true, cs)
    | '+' :: cs => (false, cs)
    | cs => (false, cs)
  let finite : (Nat × Nat) × Octets → Numeric × Octets
    | ((num, den), rest) => (.finite negative num den, rest)
  let startsWith (word : String) : Bool := word.toList.isPrefixOf (cs.map lowerCase)
  if startsWith "infinity" then some (.infinite negative, cs.drop 8)
  else if startsWith "inf" then some (.infinite negative, cs.drop 3)
  else if startsWith "nan" then some (.undefined negative, cs.drop 3)
  else
    match if startsWith "0x" then fractionAt? 16 ['p', 'P'] 2 (cs.drop 2) else none with
    | some found => some (finite found)
    | none => (fractionAt? 10 ['e', 'E'] 10 cs).map finite

/-! ### Writing -/

def pointed (places : Nat) (point : Bool) (digits : Octets) : Octets :=
  let digits := List.replicate (places + 1 - digits.length) '0' ++ digits
  let cut := digits.length - places
  digits.take cut ++ (if point || 0 < places then ['.'] else []) ++ digits.drop cut

def fixedText (places : Nat) (point : Bool) (num den : Nat) : Octets :=
  pointed places point (decimal (roundDiv (num * Nat.pow 10 places) den))

/-- The number of zeros after the point before the first other digit, and one more. -/
def leadingPlaces (num den : Nat) : Nat → Nat → Nat
  | 0, k => k
  | fuel + 1, k => if den ≤ num * Nat.pow 10 k then k else leadingPlaces num den fuel (k + 1)

def decimalExponent (num den : Nat) : Int :=
  if num = 0 then 0
  else if den ≤ num then ((decimal (num / den)).length : Int) - 1
  else
    let start := (Nat.log2 den - Nat.log2 num - 1) * 3 / 10
    Int.neg (leadingPlaces num den (Nat.log2 den + 1) start)

/-- The digits of a fraction, so many after the first, and the power of ten of the first. -/
def scientificDigits (places : Nat) (num den : Nat) : Octets × Int :=
  if num = 0 then (List.replicate (places + 1) '0', 0)
  else
    let e := decimalExponent num den
    let scale : Int := places - e
    let n := if 0 ≤ scale then roundDiv (num * Nat.pow 10 scale.toNat) den
      else roundDiv num (den * Nat.pow 10 (-scale).toNat)
    let digits := decimal n
    if places + 1 < digits.length then (digits.dropLast, e + 1) else (digits, e)

def exponentText (e : Int) : Octets :=
  let digits := decimal e.natAbs
  'e' :: (if e < 0 then '-' else '+') :: (if digits.length < 2 then '0' :: digits else digits)

def scientificText (places : Nat) (point : Bool) (num den : Nat) : Octets :=
  let (digits, e) := scientificDigits places num den
  pointed places point digits ++ exponentText e

def withoutZeros (text : Octets) : Octets :=
  if text.contains '.' then
    let text := (text.reverse.dropWhile (· == '0')).reverse
    if text.getLast? == some '.' then text.dropLast else text
  else text

/-- A fraction with so many digits, in whichever form is shorter. -/
def generalText (digits : Nat) (whole : Bool) (num den : Nat) : Octets :=
  let digits := max digits 1
  let (_, e) := scientificDigits (digits - 1) num den
  if -4 ≤ e && e < digits then
    let text := fixedText ((digits : Int) - 1 - e).toNat whole num den
    if whole then text else withoutZeros text
  else
    let (text, exponent) := cutAt (· == 'e') (scientificText (digits - 1) whole num den)
    (if whole then text else withoutZeros text) ++ exponent

/-- A fraction in hexadecimal digits, of which the first is one, with a power of two. -/
def hexText (places : Option Nat) (point : Bool) (num den : Nat) : Octets :=
  let e : Int := if num = 0 then 0 else
    let guess : Int := (Nat.log2 num : Int) - Nat.log2 den
    let (n, d) := shifted num den guess
    if n < d then guess - 1 else guess
  let (n, d) := shifted num den e
  let wanted := places.getD 13
  let digits := Nat.toDigits 16 (roundDiv (n * Nat.pow 16 wanted) d)
  let text := pointed wanted point digits
  let text := if places.isNone then withoutZeros text else text
  "0x".toList ++ text ++ 'p' :: (if e < 0 then '-' else '+') :: decimal e.natAbs

/-- What stands before a number: its sign, or what is asked for in its place. -/
def Numeric.lead (x : Numeric) (flags : List Char) : Octets :=
  let negative := match x with
    | .finite negative _ _ => negative
    | .infinite negative => negative
    | .undefined negative => negative
  if negative then ['-'] else if flags.contains '+' then ['+'] else if flags.contains ' ' then [' '] else []

/-- A number by the letter of its form, without its sign. -/
def Numeric.body (x : Numeric) (letter : Char) (precision : Option Nat) (mark : Bool) : Octets :=
  match x with
  | .infinite _ => "inf".toList
  | .undefined _ => "nan".toList
  | .finite _ num den =>
    match letter with
    | 'e' => scientificText (precision.getD 6) mark num den
    | 'g' => generalText (precision.getD 6) mark num den
    | 'a' => hexText precision mark num den
    | _ => fixedText (precision.getD 6) mark num den

end TlaDigest.Script
