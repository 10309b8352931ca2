import TlaDigest.Script.CharSet
import TlaDigest.Script.Utility.Portion

/-!
# Counting and replacing

Programs that count the parts of texts, and one that replaces characters.
-/

namespace TlaDigest.Script.Utility

open Text JobM

/-! ### Counting -/

/-- The number of words: characters that can be seen start a word, and blanks end it. -/
def wordCount (text : Octets) : Nat :=
  (text.foldl (fun (s : Nat × Bool) c =>
    if isSpace c then (s.1, false)
    else if isHidden c || s.2 then s
    else (s.1 + 1, true)) (0, false)).1

def longestLine (text : Octets) : Nat :=
  let (longest, last) := text.foldl (fun (s : Nat × Nat) c =>
    if c == '\n' || c == '\r' || c == '\x0c' then (max s.1 s.2, 0)
    else if c == '\t' then (s.1, (s.2 / 8 + 1) * 8)
    else if isHidden c then s
    else (s.1, s.2 + 1)) (0, 0)
  max longest last

def counters : List (String × (Octets → Nat)) := [
  ("l", fun text => text.count '\n'), ("w", wordCount), ("m", List.length), ("c", List.length),
  ("L", longestLine)]

def totalCount (key : String) (ns : List Nat) : Nat :=
  if key == "L" then ns.foldl max 0 else total ns

/-- What a file is to `wc`: its size as far as it is known before, and its text. -/
structure Counted where
  name : Octets
  /-- The size of a file; what is no file has none. -/
  size : Option Nat
  text : Except FileError Octets

def counted (name : Octets) : JobM Counted := do
  let j ← get
  let text ← contents name
  let isFile := if isInput name then j.fromFile else match Condition.entryAt? j.tree name with
    | some (.file ..) => true
    | _ => false
  return ⟨name, if isFile then some ((text.toOption.map List.length).getD 0) else none, text⟩

def wc : Utility := fun args => do
  let forms := [plainOption 'l' "lines", plainOption 'w' "words", plainOption 'm' "chars",
    plainOption 'c' "bytes", plainOption 'L' "max-line-length", namedOption "files0-from" .value,
    namedOption "total" .value]
  let r ← requestOf forms 1 args
  let asked := counters.filter fun (key, _) => r.has key
  let asked := if asked.isEmpty then counters.filter fun (key, _) => ["l", "w", "c"].contains key else asked
  let single := r.operands.length < 2 && asked.length == 1
  let files ← (inputsOf r.operands).mapM counted
  let missing (f : Counted) : Bool := match f.text with
    | .error .isDirectory => false
    | .error _ => true
    | .ok _ => false
  let least := if files.any fun f => f.size.isNone && !missing f then 7 else 1
  let width := if single then 1 else max least (decimal (total (files.filterMap (·.size)))).length
  let when := (r.value? "total").getD "auto".toList
  let only := when == "only".toList
  let row (width : Nat) (counts : List Nat) (name : Octets) : JobM Unit :=
    line (((counts.map fun n => padLeft width (decimal n)).intersperse [' ']).flatten ++
      (if name.isEmpty then [] else ' ' :: name))
  let mut rows : List (List Nat) := []
  for f in files do
    let shown := if r.operands.isEmpty then [] else shownName f.name
    let text ← match f.text with
      | .ok text => pure (some text)
      | .error cause =>
        complain (shownName f.name ++ ": ".toList ++ cause.reason.toList) 1
        pure (if cause == .isDirectory then some [] else none)
    match text with
    | none => pure ()
    | some text =>
      let counts := asked.map fun (_, count) => count text
      rows := rows ++ [counts]
      if !only then row width counts shown
  let totals := asked.zipIdx.map fun ((key, _), i) => totalCount key (rows.map fun r => (r[i]?).getD 0)
  if only then row 1 totals []
  else if when == "always".toList || (when == "auto".toList && 1 < r.operands.length) then
    row width totals "total".toList

/-! ### Replacing characters -/

inductive SetPart where
  | chars (text : Octets)
  | letters (capital : Bool)
  /-- The characters of another set that has a name. -/
  | named (text : Octets)
  | alike (c : Char)
  /-- A character again and again: so often, or as often as needed. -/
  | again (c : Char) (count : Option Nat)
deriving DecidableEq, Repr

def allBytes : Octets := (List.range 256).map Char.ofNat

def SetPart.text (needed : Nat) : SetPart → Octets
  | .chars text => text
  | .letters capital => allBytes.filter fun c => if capital then 'A' ≤ c && c ≤ 'Z' else 'a' ≤ c && c ≤ 'z'
  | .named text => text
  | .alike c => [c]
  | .again c (some n) => List.replicate n c
  | .again c none => List.replicate needed c

/-- A character of a set, which may be written as an escape; the answer tells that it was. -/
def setChar : Octets → Option (Char × Bool × Octets)
  | [] => none
  | ['\\'] => some ('\\', false, [])
  | '\\' :: c :: cs =>
    let digits := ((c :: cs).takeWhile fun c => '0' ≤ c && c ≤ '7').take 3
    let digits := if 255 < (digitsAt 8 digits).1 then digits.take 2 else digits
    if digits.isEmpty then
      let plain := match c with
        | 'a' => '\x07'
        | 'b' => '\x08'
        | 'f' => '\x0c'
        | 'n' => '\n'
        | 'r' => '\r'
        | 't' => '\t'
        | 'v' => '\x0b'
        | c => c
      some (plain, true, cs)
    else some (Char.ofNat (digitsAt 8 digits).1, true, (c :: cs).drop digits.length)
  | c :: cs => some (c, false, cs)

def namedPart (name : Octets) : JobM SetPart := do
  match CharSet.named? name with
  | none => die ("invalid character class ".toList ++ quotedName name) 1
  | some ranges =>
    if name == "upper".toList then return .letters true
    else if name == "lower".toList then return .letters false
    else return .named (allBytes.filter (CharSet.has ⟨false, ranges⟩))

/-- The text up to a mark and a bracket, and what follows. -/
def upToMark (mark : Char) : Octets → Option (Octets × Octets)
  | [] => none
  | [_] => none
  | c :: d :: cs =>
    if c == mark && d == ']' then some ([], cs)
    else (upToMark mark (d :: cs)).map fun (text, rest) => (c :: text, rest)

/-- A part that stands in brackets. The text starts after the opening bracket. -/
def bracketPart? (text : Octets) : JobM (Option (SetPart × Octets)) := do
  match text with
  | ':' :: rest =>
    match upToMark ':' rest with
    | some ([], _) => die "missing character class name '[::]'".toList 1
    | some (name, rest) => return some (← namedPart name, rest)
    | none => return none
  | '=' :: rest =>
    match upToMark '=' rest with
    | some ([], _) => die "missing equivalence class character '[==]'".toList 1
    | some ([c], rest) => return some (.alike c, rest)
    | some (text, _) =>
      die (text ++ ": equivalence class operand must be a single character".toList) 1
    | none => return none
  | text =>
    match setChar text with
    | some (c, _, '*' :: rest) =>
      let (count, after) := cutAt (· == ']') rest
      match after with
      | [] => return none
      | _ :: after =>
        let number := if count.isEmpty then some 0
          else if count.head? == some '0' then
            if count.all fun c => (digitOf? 8 c).isSome then some (digitsAt 8 count).1 else none
          else if count.all isDecimalDigit then nat? count else none
        match number with
        | none => die ("invalid repeat count ".toList ++ quotedName count ++ " in [c*n] construct".toList) 1
        | some 0 => return some (.again c none, after)
        | some n => return some (.again c (some n), after)
    | _ => return none

/-- Reads a set. Each step takes a character, so their number is fuel enough. -/
def setParts : Nat → Octets → JobM (List SetPart)
  | 0, _ => return []
  | _ + 1, [] => return []
  | fuel + 1, text => do
    if text == ['\\'] then
      say "warning: an unescaped backslash at end of string is not portable".toList
    match ← (if text.head? == some '[' then bracketPart? text.tail else pure none) with
    | some (part, rest) => return part :: (← setParts fuel rest)
    | none =>
      match setChar text with
      | none => return []
      | some (low, _, '-' :: rest) =>
        match setChar rest with
        | none => return .chars [low] :: (← setParts fuel ['-'])
        | some (high, _, after) =>
          if high < low then
            die ("range-endpoints of ".toList ++ quotedName [low, '-', high] ++
              " are in reverse collating sequence order".toList) 1
          let between := allBytes.filter fun c => low ≤ c && c ≤ high
          return .chars between :: (← setParts fuel after)
      | some (c, _, rest) => return .chars [c] :: (← setParts fuel rest)

/-- Leaves one of several equal characters in a row, if they are among some. -/
def squeezed (among text : Octets) : Octets :=
  (text.foldl (fun (acc : Octets) c =>
    if acc.head? == some c && among.contains c then acc else c :: acc) []).reverse

/-- The places at which letters of one case stand in a set. -/
def letterPlaces (parts : List SetPart) : List Nat :=
  (parts.foldl (fun (s : Nat × List Nat) part =>
    (s.1 + (part.text 0).length, match part with
      | .letters _ => s.2 ++ [s.1]
      | _ => s.2)) (0, [])).2

def checkReplacement (complement truncates : Bool) (first second : List SetPart) : JobM Unit := do
  let isLetters : SetPart → Bool
    | .letters _ => true
    | _ => false
  let isNamed : SetPart → Bool
    | .named _ => true
    | _ => false
  let isAlike : SetPart → Bool
    | .alike _ => true
    | _ => false
  if second.any isAlike then die "[=c=] expressions may not appear in string2 when translating".toList 1
  if second.any isNamed then
    die ("when translating, the only character classes that may appear in\n".toList ++
      "string2 are 'upper' and 'lower'".toList) 1
  if complement && first.any (fun p => isLetters p || isNamed p) &&
      1 < ((second.flatMap (·.text 1)).eraseDups).length then
    die ("when translating with complemented character classes,\n".toList ++
      "string2 must map all characters in the domain to one".toList) 1
  if second.any isLetters && !(letterPlaces second).all (letterPlaces first).contains then
    die "misaligned [:upper:] and/or [:lower:] construct".toList 1
  if !truncates && second.isEmpty && !first.isEmpty then
    die "when not truncating set1, string2 must be non-empty".toList 1

def trSets (r : Request) : JobM (Octets × Option Octets) := do
  let deletes := r.has "d"
  let squeezes := r.has "s"
  let wrong {α : Type} (text : Octets) (more : String) : JobM α := do
    say text
    if more != "" then err (more.toList ++ ['\n'])
    hint 1
  match r.operands with
  | [] => missingOperand 1
  | [a] =>
    if deletes && squeezes then
      wrong ("missing operand after ".toList ++ quotedName a)
        "Two strings must be given when both deleting and squeezing repeats."
    else if !deletes && !squeezes then
      wrong ("missing operand after ".toList ++ quotedName a) "Two strings must be given when translating."
    else return (a, none)
  | [a, b] =>
    if deletes && !squeezes then
      wrong ("extra operand ".toList ++ quotedName b)
        "Only one string may be given when deleting without squeezing repeats."
    else return (a, some b)
  | _ :: _ :: extra :: _ => extraOperand extra 1

def tr : Utility := fun args => do
  let forms := [plainOption 'c' "complement", plainOption 'C' "", plainOption 'd' "delete",
    plainOption 's' "squeeze-repeats", plainOption 't' "truncate-set1"]
  let r ← request ⟨forms, false, 1, []⟩ args
  let (a, b) ← trSets r
  let complement := r.has "c" || r.has "C"
  let first ← setParts (a.length + 1) a
  let second ← setParts (b.getD []).length.succ (b.getD [])
  let isOpen : SetPart → Bool
    | .again _ none => true
    | _ => false
  if first.any isOpen then die "the [c*] repeat construct may not appear in string1".toList 1
  if 1 < (second.filter isOpen).length then
    die "only one [c*] repeat construct may appear in string2".toList 1
  let translates := b.isSome && !r.has "d"
  if translates then checkReplacement complement (r.has "t") first second
  let plain := first.flatMap (·.text 0)
  let domain := if complement then allBytes.filter fun c => !plain.contains c else plain
  let fixed := (second.flatMap (·.text 0)).length
  let into := second.flatMap (·.text (domain.length - fixed))
  let input ← match ← readInput with
    | .ok text => pure text
    | .error cause => die ("read error: ".toList ++ cause.reason.toList) 1
  if r.has "d" then
    let left := input.filter fun c => !domain.contains c
    out (if r.has "s" then squeezed into left else left)
  else if !translates then out (squeezed domain input)
  else
    let domain := if r.has "t" then domain.take into.length else domain
    let last := into.getLastD ' '
    let images := domain.zipIdx.map fun (c, i) => (c, (into[i]?).getD last)
    let table := allBytes.map fun c => (images.reverse.lookup c).getD c
    let table := table.toArray
    let made := input.map fun c => (table[c.toNat]?).getD c
    out (if r.has "s" then squeezed into made else made)

end TlaDigest.Script.Utility
