/-!
# UTF-8

The decoder is a machine that takes one byte at a time. A byte that cannot continue the sequence
begun before it ends that sequence as ill-formed and is then read afresh, so each maximal ill-formed
part of the input counts once. The lossy reading puts the replacement character in its place; the
strict reading refuses the whole text.
-/

namespace TlaDigest.Text.Utf8

/-! ### The machine -/

/-- A sequence that is not finished: the next byte must lie between `low` and `high`, `more`
    continuation bytes follow it, and `code` holds the bits read so far. -/
structure Open where
  low : UInt8
  high : UInt8
  more : Nat
  code : Nat
deriving DecidableEq, Repr

/-- Where the machine stands: between characters (`none`), or inside a sequence. -/
abbrev State := Option Open

/-- The first byte of a sequence: the characters it completes (`none` is an ill-formed part), and
    the state after it. -/
def first (b : UInt8) : List (Option Char) × State :=
  if b < 0x80 then ([some (Char.ofNat b.toNat)], none)
  else if 0xC2 ≤ b && b ≤ 0xDF then ([], some ⟨0x80, 0xBF, 0, b.toNat - 0xC0⟩)
  else if b == 0xE0 then ([], some ⟨0xA0, 0xBF, 1, 0⟩)
  else if b == 0xED then ([], some ⟨0x80, 0x9F, 1, 0x0D⟩)
  else if 0xE1 ≤ b && b ≤ 0xEF then ([], some ⟨0x80, 0xBF, 1, b.toNat - 0xE0⟩)
  else if b == 0xF0 then ([], some ⟨0x90, 0xBF, 2, 0⟩)
  else if 0xF1 ≤ b && b ≤ 0xF3 then ([], some ⟨0x80, 0xBF, 2, b.toNat - 0xF0⟩)
  else if b == 0xF4 then ([], some ⟨0x80, 0x8F, 2, 4⟩)
  else ([none], none)

def step : State → UInt8 → List (Option Char) × State
  | none, b => first b
  | some o, b =>
    if o.low ≤ b && b ≤ o.high then
      let code := o.code * 64 + (b.toNat - 0x80)
      match o.more with
      | 0 => ([some (Char.ofNat code)], none)
      | more + 1 => ([], some ⟨0x80, 0xBF, more, code⟩)
    else
      let (chars, state) := first b
      (none :: chars, state)

/-- Runs the machine to the end of the bytes. A sequence left open there is ill-formed. -/
def run : State → List UInt8 → List (Option Char)
  | none, [] => []
  | some _, [] => [none]
  | state, b :: bytes =>
    let (chars, next) := step state b
    chars ++ run next bytes

/-! ### Reading and writing text -/

def replacement : Char := '�'

/-- The lossy reading: every byte string is a text. -/
def decode (bytes : List UInt8) : List Char := (run none bytes).map (·.getD replacement)

/-- The strict reading: refuses a byte string with an ill-formed part. -/
def decode? (bytes : List UInt8) : Option (List Char) :=
  let chars := run none bytes
  if chars.all Option.isSome then some (chars.filterMap id) else none

def encode (chars : List Char) : List UInt8 := chars.flatMap String.utf8EncodeChar

end TlaDigest.Text.Utf8
