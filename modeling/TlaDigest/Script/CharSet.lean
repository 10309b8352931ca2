import TlaDigest.Script.Octets

/-!
# Sets of characters

Those between bounds, or all others. Some sets have names, as brackets in patterns and regular
expressions know them; only ASCII characters are in a named set.
-/

namespace TlaDigest.Script

/-- The characters between bounds, or, of a negated set, all others. -/
structure CharSet where
  negated : Bool
  ranges : List (Char × Char)
deriving DecidableEq, Repr

namespace CharSet

def has (s : CharSet) (c : Char) : Bool := (s.ranges.any fun (low, high) => low ≤ c && c ≤ high) != s.negated

def only (c : Char) : CharSet := ⟨false, [(c, c)]⟩

def all : CharSet := ⟨true, []⟩

def named? (name : Octets) : Option (List (Char × Char)) :=
  let digits := ('0', '9')
  let capitals := ('A', 'Z')
  let smalls := ('a', 'z')
  match String.ofList name with
  | "alnum" => some [digits, capitals, smalls]
  | "alpha" => some [capitals, smalls]
  | "blank" => some [('\t', '\t'), (' ', ' ')]
  | "cntrl" => some [('\x00', '\x1f'), ('\x7f', '\x7f')]
  | "digit" => some [digits]
  | "graph" => some [('!', '~')]
  | "lower" => some [smalls]
  | "print" => some [(' ', '~')]
  | "punct" => some [('!', '/'), (':', '@'), ('[', Char.ofNat 96), ('\x7b', '~')]
  | "space" => some [('\t', '\r'), (' ', ' ')]
  | "upper" => some [capitals]
  | "xdigit" => some [digits, ('A', 'F'), ('a', 'f')]
  | _ => none

/-- The name of a set at the front, between colons and with the bracket that closes it, and what follows.
    The text starts after the opening bracket. -/
def namedAt? (text : Octets) : Option (Octets × Octets) :=
  match text with
  | ':' :: rest =>
    let name := rest.takeWhile fun c => 'a' ≤ c && c ≤ 'z'
    match rest.drop name.length with
    | ':' :: ']' :: rest => some (name, rest)
    | _ => none
  | _ => none

/-- Bounds, and the letters of the other case for the letters between them. -/
def foldRange (range : Char × Char) : List (Char × Char) :=
  let letters (first last : Char) : Option (Nat × Nat) :=
    let low := max range.1.toNat first.toNat
    let high := min range.2.toNat last.toNat
    if low ≤ high then some (low, high) else none
  let capitals := (letters 'a' 'z').map fun (low, high) => (Char.ofNat (low - 32), Char.ofNat (high - 32))
  let smalls := (letters 'A' 'Z').map fun (low, high) => (Char.ofNat (low + 32), Char.ofNat (high + 32))
  range :: capitals.toList ++ smalls.toList

def folded (s : CharSet) : CharSet := { s with ranges := s.ranges.flatMap foldRange }

end CharSet

end TlaDigest.Script
