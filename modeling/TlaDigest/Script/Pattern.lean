import TlaDigest.Script.CharSet

/-!
# Patterns for texts

A star stands for any text, a question mark for any character, and brackets for one of the
characters in them. Characters that are quoted stand for themselves.
-/

namespace TlaDigest.Script

structure Glyph where
  char : Char
  quoted : Bool
deriving DecidableEq, Repr

def plain (glyphs : List Glyph) : Octets := glyphs.map Glyph.char

inductive PatternItem where
  | exactly (c : Char)
  | any
  | many
  | among (set : CharSet)
deriving DecidableEq, Repr

namespace Pattern

/-- A character fits a part that stands for one character. -/
def fitsOne : PatternItem → Char → Bool
  | .exactly c, d => c == d
  | .any, _ => true
  | .many, _ => false
  | .among set, d => set.has d

def rests : Octets → List Octets
  | [] => [[]]
  | c :: cs => (c :: cs) :: rests cs

def fits : List PatternItem → Octets → Bool
  | [], text => text.isEmpty
  | .many :: items, text => (rests text).any (fits items)
  | item :: items, text =>
    match text with
    | [] => false
    | c :: cs => fitsOne item c && fits items cs

/-- The set with a name at the front; the text starts after the bracket that opens it. -/
def namedAt? (glyphs : List Glyph) : Option (List (Char × Char) × List Glyph) := do
  let bare := glyphs.takeWhile fun g => !g.quoted
  let (name, rest) ← CharSet.namedAt? (plain bare)
  let bounds ← CharSet.named? name
  return (bounds, glyphs.drop (bare.length - rest.length))

/-- The bounds in brackets, up to the bracket that closes them, which cannot come first. Each step takes
    a character, so the length of the text is fuel enough. -/
def bounds? : Nat → List Glyph → Option (List (Char × Char) × List Glyph)
  | 0, _ => none
  | _ + 1, [] => none
  | fuel + 1, low :: rest =>
    let isBare (c : Char) (g : Glyph) : Bool := g.char == c && !g.quoted
    let continued (here : List (Char × Char)) (rest : List Glyph) :
        Option (List (Char × Char) × List Glyph) :=
      match rest with
      | [] => none
      | g :: more =>
        if isBare ']' g then some (here, more)
        else (bounds? fuel (g :: more)).map fun (bounds, rest) => (here ++ bounds, rest)
    match if isBare '[' low then namedAt? rest else none with
    | some (here, rest) => continued here rest
    | none =>
      match rest with
      | dash :: high :: more =>
        if isBare '-' dash && !isBare ']' high then continued [(low.char, high.char)] more
        else continued [(low.char, low.char)] rest
      | rest => continued [(low.char, low.char)] rest

/-- What stands in brackets, up to the one that closes them. -/
def bracketed? (glyphs : List Glyph) : Option (PatternItem × List Glyph) :=
  let isNot (g : Glyph) : Bool := (g.char == '!' || g.char == '^') && !g.quoted
  let negated := (glyphs.head?.map isNot).getD false
  let glyphs := if negated then glyphs.tail else glyphs
  (bounds? (glyphs.length + 1) glyphs).map fun (bounds, rest) => (.among ⟨negated, bounds⟩, rest)

/-- Reads a pattern. Each step takes a character, so the length of the text is fuel enough. -/
def items : Nat → List Glyph → List PatternItem
  | 0, _ => []
  | _ + 1, [] => []
  | fuel + 1, g :: rest =>
    if g.quoted then .exactly g.char :: items fuel rest
    else
      match g.char with
      | '*' => .many :: items fuel rest
      | '?' => .any :: items fuel rest
      | '[' =>
        match bracketed? rest with
        | some (item, rest) => item :: items fuel rest
        | none => .exactly '[' :: items fuel rest
      | c => .exactly c :: items fuel rest

def ofGlyphs (glyphs : List Glyph) : List PatternItem := items (glyphs.length + 1) glyphs

def isOpen (items : List PatternItem) : Bool := items.any fun
  | .exactly _ => false
  | _ => true

/-- A text without the shortest or the longest front, or end, that fits a pattern. -/
def trim (atEnd longest : Bool) (pattern : List PatternItem) (text : Octets) : Octets :=
  let lengths := List.range (text.length + 1)
  let cut (n : Nat) : Octets × Octets :=
    if atEnd then (text.drop (text.length - n), text.take (text.length - n))
    else (text.take n, text.drop n)
  let order := if longest then lengths.reverse else lengths
  ((order.map cut).find? fun (part, _) => fits pattern part).elim text (·.2)

end Pattern

end TlaDigest.Script
