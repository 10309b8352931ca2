import TlaDigest.Script.Numeric
import TlaDigest.Script.Utility.Portion

/-!
# Ordering

Programs that bring lines into order or compare lines that are in order.
-/

namespace TlaDigest.Script.Utility

open Text JobM

/-! ### Orders -/

def isBlank (c : Char) : Bool := c == ' ' || c == '\t'

def orderOf {α : Type} (less : α → α → Bool) (a b : α) : Ordering :=
  if less a b then .lt else if less b a then .gt else .eq

def byteOrder (a b : Octets) : Ordering := orderOf (fun x y => decide (x < y)) a b

/-- The number at the front of a text, as a whole number and the digits of its fraction. A text without
    one is zero. -/
def plainNumber (text : Octets) : Bool × Octets × Octets :=
  let text := text.dropWhile isBlank
  let (negative, text) := match text with
    | '-' :: rest => (true, rest)
    | rest => (false, rest)
  let (whole, rest) := cutAt (fun c => !isDecimalDigit c) text
  let part := match rest with
    | '.' :: rest => (rest.takeWhile isDecimalDigit).reverse.dropWhile (· == '0') |>.reverse
    | _ => []
  let whole := whole.dropWhile (· == '0')
  (negative && !(whole.isEmpty && part.isEmpty), whole, part)

def numberOrder (a b : Octets) : Ordering :=
  let size (x y : Octets × Octets) : Ordering :=
    ((compare x.1.length y.1.length).then (byteOrder x.1 y.1)).then (byteOrder x.2 y.2)
  match plainNumber a, plainNumber b with
  | (false, x), (false, y) => size x y
  | (true, x), (true, y) => size y x
  | (true, _), (false, _) => .lt
  | (false, _), (true, _) => .gt

def unitRank (text : Octets) : Nat :=
  let text := (text.dropWhile isBlank).dropWhile fun c => c == '-' || isDecimalDigit c || c == '.'
  match text.head? with
  | some 'k' => 1
  | some c => match "KMGTPEZY".toList.findIdx? (· == c) with
    | some i => i + 1
    | none => 0
  | none => 0

/-- Numbers with units compared: first by sign, then by unit, then by value. -/
def unitOrder (a b : Octets) : Ordering :=
  let sign (text : Octets) : Nat := match plainNumber text with
    | (true, _, _) => 0
    | (false, [], []) => 1
    | (false, _, _) => 2
  let ranks := if sign a == 0 then compare (unitRank b) (unitRank a) else compare (unitRank a) (unitRank b)
  ((compare (sign a) (sign b)).then ranks).then (numberOrder a b)

/-- The number of a month by its first letters; zero for everything else. -/
def monthNumber (text : Octets) : Nat :=
  let name := ((text.dropWhile isBlank).take 3).map upperCase
  let months := ["JAN", "FEB", "MAR", "APR", "MAY", "JUN", "JUL", "AUG", "SEP", "OCT", "NOV", "DEC"]
  ((months.findIdx? fun m => m.toList == name).map (· + 1)).getD 0

/-- The rank of what stands at the front of a text: what is no number, then undefined, then numbers. -/
def generalRank : Option Numeric → Nat
  | none => 0
  | some (.undefined _) => 1
  | some (.infinite true) => 2
  | some (.finite ..) => 3
  | some (.infinite false) => 4

def generalOrder (a b : Octets) : Ordering :=
  let x := (numericAt? a).map (·.1)
  let y := (numericAt? b).map (·.1)
  let value : Option Numeric → Int × Nat
    | some (.finite negative num den) => (if negative then -(num : Int) else num, den)
    | _ => (0, 1)
  let (m, d) := value x
  let (n, e) := value y
  (compare (generalRank x) (generalRank y)).then (compare (m * e) (n * d))

/-- The rank of a character in a version: a tilde, the end, digits, letters, all others. -/
def versionRank : Option Char → Int
  | some '~' => -1
  | none => 0
  | some c =>
    if isDecimalDigit c then 0
    else if ('a' ≤ c && c ≤ 'z') || ('A' ≤ c && c ≤ 'Z') then c.toNat
    else c.toNat + 256

/-- Versions compared: runs of other characters and runs of digits in turn. The lengths of the texts
    bound the number of steps. -/
def versionOrder : Nat → Octets → Octets → Ordering
  | 0, _, _ => .eq
  | fuel + 1, a, b =>
    if a.isEmpty && b.isEmpty then .eq
    else
      let (p, a) := cutAt isDecimalDigit a
      let (q, b) := cutAt isDecimalDigit b
      let longer := max p.length q.length
      let ranks := (List.range longer).foldl (fun (o : Ordering) i =>
        o.then (compare (versionRank (p[i]?)) (versionRank (q[i]?)))) .eq
      let (m, a) := cutAt (fun c => !isDecimalDigit c) a
      let (n, b) := cutAt (fun c => !isDecimalDigit c) b
      (ranks.then (compare (digitsAt 10 m).1 (digitsAt 10 n).1)).then (versionOrder fuel a b)

abbrev OrderLetters := List Char

/-- Keys compared as letters ask for, without regard to direction. -/
def keyOrder (letters : OrderLetters) (a b : Octets) : Ordering :=
  let has (c : Char) : Bool := letters.contains c
  if has 'n' then numberOrder a b
  else if has 'g' then generalOrder a b
  else if has 'h' then unitOrder a b
  else if has 'M' then compare (monthNumber a) (monthNumber b)
  else if has 'V' then versionOrder (a.length + b.length + 1) a b
  else
    let seen (text : Octets) : Octets :=
      let text := if has 'd' then text.filter fun c => isBlank c || (isNameChar c && c != '_') else text
      let text := if has 'i' then text.filter fun c => ' ' ≤ c && c ≤ '~' else text
      if has 'f' then text.map upperCase else text
    byteOrder (seen a) (seen b)

/-! ### Keys -/

structure KeyPlace where
  field : Nat
  char : Nat
  skipsBlanks : Bool

structure SortKey where
  start : KeyPlace
  last : Option KeyPlace
  letters : OrderLetters

def afterFields (separator : Option Char) : Nat → Octets → Octets
  | 0, text => text
  | n + 1, text =>
    match separator with
    | some c => afterFields separator n ((text.dropWhile (· != c)).drop 1)
    | none => afterFields separator n ((text.dropWhile isBlank).dropWhile fun c => !isBlank c)

/-- The rest of a line after so many fields, without the separator after the last of them. -/
def beyondField (separator : Option Char) (n : Nat) (text : Octets) : Octets :=
  match separator, n with
  | some c, n + 1 => (afterFields separator n text).dropWhile (· != c)
  | separator, n => afterFields separator n text

def SortKey.of (k : SortKey) (separator : Option Char) (text : Octets) : Octets :=
  let blanksOff (skips : Bool) (text : Octets) : Octets := if skips then text.dropWhile isBlank else text
  let start := (blanksOff k.start.skipsBlanks (afterFields separator k.start.field text)).drop k.start.char
  match k.last with
  | none => start
  | some place =>
    let rest := if place.char == 0 then beyondField separator (place.field + 1) text
      else (blanksOff place.skipsBlanks (afterFields separator place.field text)).drop place.char
    start.take (start.length - rest.length)

def keyNumber (what spec text : Octets) : JobM (Nat × Octets) := do
  let (digits, rest) := cutAt (fun c => !isDecimalDigit c) text
  match nat? digits with
  | some n => return (n, rest)
  | none => die ("invalid number ".toList ++ what ++ ": invalid count at start of ".toList ++ quotedName spec) 2

def badField {α : Type} (what : String) (spec : Octets) : JobM α :=
  die (what.toList ++ ": invalid field specification ".toList ++ quotedName spec) 2

def SortKey.ofText (text : Octets) : JobM SortKey := do
  let isLetter (c : Char) : Bool := "bdfghiMnrRV".toList.contains c
  let (field, rest) ← keyNumber "at field start".toList text text
  if field == 0 then badField "field number is zero" text
  let (char, rest) ← match rest with
    | '.' :: rest => keyNumber ("after '.'".toList) rest rest
    | rest => pure (1, rest)
  if char == 0 then badField "character offset is zero" text
  let (letters, rest) := cutAt (fun c => !isLetter c) rest
  let start : KeyPlace := ⟨field - 1, char - 1, letters.contains 'b'⟩
  match rest with
  | [] => return ⟨start, none, letters⟩
  | ',' :: rest =>
    let (field, after) ← keyNumber ("after ','".toList) rest rest
    if field == 0 then badField "field number is zero" text
    let (char, after) ← match after with
      | '.' :: after => keyNumber ("after '.'".toList) after after
      | after => pure (0, after)
    let (more, after) := cutAt (fun c => !isLetter c) after
    if !after.isEmpty then badField "stray character in field spec" text
    return ⟨start, some ⟨field - 1, char, more.contains 'b'⟩, letters ++ more⟩
  | _ => badField "stray character in field spec" text

/-! ### Sorting -/

structure Sorting where
  keys : List SortKey
  letters : OrderLetters
  separator : Option Char
  stable : Bool
  unique : Bool

def Sorting.byKeys (s : Sorting) (a b : Octets) : Ordering :=
  let directed (letters : OrderLetters) (o : Ordering) : Ordering :=
    if letters.contains 'r' then o.swap else o
  if s.keys.isEmpty then
    let part (text : Octets) : Octets := if s.letters.contains 'b' then text.dropWhile isBlank else text
    directed s.letters (keyOrder s.letters (part a) (part b))
  else
    s.keys.foldl (fun (o : Ordering) k =>
      let own := k.letters.filter fun c => c != 'b'
      let letters := if own.isEmpty then s.letters else own
      let k := if own.isEmpty && k.letters.isEmpty && s.letters.contains 'b' then
        { k with
          start := { k.start with skipsBlanks := true }
          last := k.last.map fun p => { p with skipsBlanks := true } } else k
      o.then (directed letters (keyOrder letters (k.of s.separator a) (k.of s.separator b)))) .eq

def Sorting.order (s : Sorting) (a b : Octets) : Ordering :=
  let last := if s.stable || s.unique then .eq
    else if s.letters.contains 'r' then (byteOrder a b).swap else byteOrder a b
  (s.byKeys a b).then last

/-- Lines in order; of lines that agree only the first, if that is asked for. -/
def Sorting.sorted (s : Sorting) (lines : List Octets) : List Octets :=
  let sorted := lines.mergeSort fun a b => s.order a b != .gt
  if s.unique then
    (sorted.foldl (fun (acc : List Octets) l =>
      match acc with
      | previous :: _ => if s.byKeys previous l == .eq then acc else l :: acc
      | [] => [l]) []).reverse
  else sorted

/-- The first line that is out of order, with its number. -/
def Sorting.disorder? (s : Sorting) : Nat → List Octets → Option (Nat × Octets)
  | n, a :: b :: rest =>
    let o := s.order a b
    if o == .gt || (s.unique && o == .eq) then some (n + 1, b) else s.disorder? (n + 1) (b :: rest)
  | _, _ => none

def clashing (letters : OrderLetters) : Bool :=
  let counted := ['n', 'g', 'h', 'M', 'V'].filter letters.contains
  let ignores := if letters.contains 'd' || letters.contains 'i' then 1 else 0
  1 < counted.length + ignores

def sortForms : List OptionForm := [
  plainOption 'b' "ignore-leading-blanks", plainOption 'c' "check", plainOption 'C' "",
  plainOption 'd' "dictionary-order", plainOption 'f' "ignore-case", plainOption 'g' "general-numeric-sort",
  plainOption 'h' "human-numeric-sort", plainOption 'i' "ignore-nonprinting", plainOption 'M' "month-sort",
  plainOption 'm' "merge", plainOption 'n' "numeric-sort", plainOption 'r' "reverse",
  plainOption 'R' "random-sort", plainOption 's' "stable", plainOption 'u' "unique",
  plainOption 'V' "version-sort", plainOption 'z' "zero-terminated", valuedOption 'k' "key",
  valuedOption 'o' "output", valuedOption 't' "field-separator", valuedOption 'S' "buffer-size",
  valuedOption 'T' "temporary-directory", namedOption "parallel" .value]

def separatorOf (r : Request) : JobM (Option Char) := do
  match r.value? "t" with
  | none => return none
  | some [c] => return some c
  | some [] => die "empty tab".toList 2
  | some ['\\', '0'] => return some '\x00'
  | some text => die ("multi-character tab ".toList ++ quotedName text) 2

/-- The pieces of a text that a character ends; the last may have no end. -/
def piecesOf (feed : Char) (text : Octets) : List Octets :=
  let parts := splitOn feed text
  parts.dropLast ++ (parts.getLast?.filter (· != [])).toList

def sort : Utility := fun args => do
  let r ← requestOf sortForms 2 args
  let letters := "bdfghiMnrRV".toList.filter fun c => r.has (String.singleton c)
  let keys ← (r.values "k").mapM SortKey.ofText
  let separator ← separatorOf r
  for l in letters :: keys.map (·.letters) do
    if clashing l then
      let shown := "bdfghiMnrRV".toList.filter fun c => l.contains c && c != 'r' && c != 'b' && c != 'f'
      die ("options ".toList ++ inApostrophes ('-' :: shown) ++ " are incompatible".toList) 2
  let s : Sorting := ⟨keys, letters, separator, r.has "s", r.has "u"⟩
  let feed := if r.has "z" then '\x00' else '\n'
  let checks := r.has "c" || r.has "C"
  match r.operands with
  | _ :: extra :: _ =>
    if checks then die ("extra operand ".toList ++ quotedName extra ++ " not allowed with -c".toList) 2
  | _ => pure ()
  let texts ← (inputsOf r.operands).mapM fun name => do
    match ← contents name with
    | .ok text => pure text
    | .error .isDirectory => die ("read failed: ".toList ++ shownName name ++ ": Is a directory".toList) 2
    | .error cause => die ("cannot read: ".toList ++ shownName name ++ ": ".toList ++ cause.reason.toList) 2
  let lines := texts.flatMap (piecesOf feed)
  if checks then
    match s.disorder? 1 lines with
    | none => return ()
    | some (n, text) =>
      if r.has "C" then stop 1
      die ((inputsOf r.operands).headD [] ++ ':' :: decimal n ++ ": disorder: ".toList ++ text) 1
  else
    let text := (s.sorted lines).flatMap (· ++ [feed])
    match r.value? "o" with
    | none => out text
    | some name =>
      match ← writeFile name text with
      | .ok _ => return ()
      | .error cause => die ("open failed: ".toList ++ shownName name ++ ": ".toList ++ cause.reason.toList) 2

/-! ### Equal lines -/

structure Sameness where
  fields : Nat
  chars : Nat
  width : Option Nat
  ignoresCase : Bool

def Sameness.key (s : Sameness) (text : Octets) : Octets :=
  let rest := (afterFields none s.fields text).drop s.chars
  let rest := (s.width.map rest.take).getD rest
  if s.ignoresCase then rest.map upperCase else rest

def runsOf (s : Sameness) (lines : List Octets) : List (List Octets) :=
  lines.splitBy fun a b => s.key a == s.key b

def uniq : Utility := fun args => do
  let forms := [plainOption 'c' "count", plainOption 'd' "repeated", plainOption 'D' "",
    namedOption "all-repeated" .maybe, plainOption 'i' "ignore-case", plainOption 'u' "unique",
    valuedOption 'f' "skip-fields", valuedOption 's' "skip-chars", valuedOption 'w' "check-chars",
    plainOption 'z' "zero-terminated", namedOption "group" .maybe]
  let args := args.flatMap fun arg => match arg with
    | '-' :: c :: cs => if (c :: cs).all isDecimalDigit then [['-', 'f'], c :: cs] else [arg]
    | _ => [arg]
  let r ← requestOf forms 1 args
  let number (key what : String) : JobM (Option Nat) := do
    match r.value? key with
    | none => return none
    | some text =>
      match if text.all isDecimalDigit then nat? text else none with
      | some n => return some n
      | none => die (text ++ ": invalid number of ".toList ++ what.toList) 1
  let fields ← number "f" "fields to skip"
  let chars ← number "s" "bytes to skip"
  let width ← number "w" "bytes to compare"
  let s : Sameness := ⟨fields.getD 0, chars.getD 0, width, r.has "i"⟩
  let feed := if r.has "z" then '\x00' else '\n'
  let (source, target) ← match r.operands with
    | [] => pure (['-'], none)
    | [source] => pure (source, none)
    | [source, target] => pure (source, some target)
    | _ :: _ :: extra :: _ => extraOperand extra 1
  match ← contents source with
  | .error cause => die (shownName source ++ ": ".toList ++ cause.reason.toList) 1
  | .ok text =>
    let runs := runsOf s (piecesOf feed text)
    let all := r.has "D" || r.has "all-repeated"
    let chosen := runs.filter fun run =>
      (!(r.has "d" || all) || 1 < run.length) && (!r.has "u" || run.length == 1)
    let apart := r.has "group" || r.value? "all-repeated" == some "separate".toList
    let shown (run : List Octets) : Octets :=
      let listed := if all || r.has "group" then run else run.take 1
      listed.flatMap fun l =>
        (if r.has "c" then padLeft 7 (decimal run.length) ++ [' '] else []) ++ l ++ [feed]
    let text := ((chosen.map shown).intersperse (if apart then [feed] else [])).flatten
    match target with
    | none => out text
    | some name =>
      if isInput name then out text
      else
        match ← writeFile name text with
        | .ok _ => return ()
        | .error cause => die (shownName name ++ ": ".toList ++ cause.reason.toList) 1

/-! ### Two files -/

def twoFiles (operands : List Octets) : JobM ((Octets × Octets) × (Octets × Octets)) := do
  match operands with
  | [a, b] =>
    let read (name : Octets) : JobM Octets := do
      match ← contents name with
      | .ok text => return text
      | .error cause => die (shownName name ++ ": ".toList ++ cause.reason.toList) 1
    return ((a, ← read a), (b, ← read b))
  | [] => missingOperand 1
  | [a] => misuse ("missing operand after ".toList ++ quotedName a) 1
  | _ :: _ :: extra :: _ => extraOperand extra 1

/-- What `comm` has done: which lines were met last, and whether some line had no partner. -/
structure Comparing where
  unpaired : Bool
  disorder : Bool × Bool
  counts : Nat × Nat × Nat

def comm : Utility := fun args => do
  let forms := [plainOption '1' "", plainOption '2' "", plainOption '3' "", namedOption "check-order" .nothing,
    namedOption "nocheck-order" .nothing, namedOption "output-delimiter" .value, namedOption "total" .nothing,
    plainOption 'z' "zero-terminated"]
  let r ← requestOf forms 1 args
  let ((_, a), (_, b)) ← twoFiles r.operands
  let tab := (r.value? "output-delimiter").getD ['\t']
  let column (n : Nat) (text : Octets) : JobM Unit := do
    let before := (if n > 1 && !r.has "1" then tab else []) ++ (if n > 2 && !r.has "2" then tab else [])
    if !r.has (toString n) then line (before ++ text)
  let warn (first : Bool) (state : Comparing) : JobM Comparing := do
    let known := if first then state.disorder.1 else state.disorder.2
    if known || r.has "nocheck-order" || !(state.unpaired || r.has "check-order") then return state
    say ("file ".toList ++ (if first then ['1'] else ['2']) ++ " is not in sorted order".toList)
    if r.has "check-order" then stop 1
    return { state with disorder := if first then (true, state.disorder.2) else (state.disorder.1, true) }
  let checked (first : Bool) (lines : List Octets) (state : Comparing) : JobM Comparing := do
    match lines with
    | x :: y :: _ => if byteOrder x y == .gt then warn first state else return state
    | _ => return state
  let rec merge : Nat → List Octets → List Octets → Comparing → JobM Comparing
    | 0, _, _, state => return state
    | _ + 1, [], [], state => return state
    | fuel + 1, x :: xs, [], state => do
      column 1 x
      let state ← checked true (x :: xs)
        { state with unpaired := true, counts := (state.counts.1 + 1, state.counts.2) }
      merge fuel xs [] state
    | fuel + 1, [], y :: ys, state => do
      column 2 y
      let state ← checked false (y :: ys)
        { state with unpaired := true, counts := (state.counts.1, state.counts.2.1 + 1, state.counts.2.2) }
      merge fuel [] ys state
    | fuel + 1, x :: xs, y :: ys, state => do
      match byteOrder x y with
      | .eq =>
        column 3 x
        let state ← checked true (x :: xs)
          { state with counts := (state.counts.1, state.counts.2.1, state.counts.2.2 + 1) }
        merge fuel xs ys (← checked false (y :: ys) state)
      | .lt =>
        column 1 x
        let state ← checked true (x :: xs)
          { state with unpaired := true, counts := (state.counts.1 + 1, state.counts.2) }
        merge fuel xs (y :: ys) state
      | .gt =>
        column 2 y
        let state ← checked false (y :: ys)
          { state with unpaired := true, counts := (state.counts.1, state.counts.2.1 + 1, state.counts.2.2) }
        merge fuel (x :: xs) ys state
  let feed := if r.has "z" then '\x00' else '\n'
  let (xs, ys) := (piecesOf feed a, piecesOf feed b)
  let state ← merge (xs.length + ys.length + 1) xs ys ⟨false, (false, false), (0, 0, 0)⟩
  if r.has "total" then
    let (m, n, k) := state.counts
    line ((([m, n, k].map decimal) ++ ["total".toList]).intersperse tab).flatten
  if state.disorder.1 || state.disorder.2 then die "input is not in sorted order".toList 1

structure Joining where
  separator : Option Char
  keys : Nat × Nat
  /-- What stands for a field that is missing. -/
  missing : Octets
  /-- The fields to print: of a file, or, without one, the key. -/
  form : Option (List (Option Bool × Nat))
  ignoresCase : Bool

def Joining.fields (k : Joining) (text : Octets) : List Octets :=
  match k.separator with
  | some c => splitOn c text
  | none => (splitOn ' ' (text.map fun c => if c == '\t' then ' ' else c)).filter fun f => !f.isEmpty

def Joining.key (k : Joining) (second : Bool) (fields : List Octets) : Octets :=
  let key := (fields[if second then k.keys.2 else k.keys.1]?).getD []
  if k.ignoresCase then key.map lowerCase else key

def Joining.joined (k : Joining) (a b : Option (List Octets)) : Octets :=
  let glue := [k.separator.getD ' ']
  let shown (field : Option Octets) : Octets := match field with
    | some (c :: cs) => c :: cs
    | _ => k.missing
  let key := match a, b with
    | some a, _ => (a[k.keys.1]?).getD []
    | none, some b => (b[k.keys.2]?).getD []
    | none, none => []
  let others (n : Nat) (fields : Option (List Octets)) : List Octets :=
    ((fields.getD []).zipIdx.filter fun (_, i) => i != n).map (·.1)
  let parts : List Octets := match k.form with
    | none => key :: others k.keys.1 a ++ others k.keys.2 b
    | some form => form.map fun place => match place with
      | (none, _) => shown (some key)
      | (some false, n) => shown (a.bind fun a => a[n]?)
      | (some true, n) => shown (b.bind fun b => b[n]?)
  (parts.intersperse glue).flatten

def joinForm? (text : Octets) : Option (List (Option Bool × Nat)) :=
  ((splitOn ',' text).flatMap (splitOn ' ')).mapM fun part =>
    match part with
    | ['0'] => some (none, 0)
    | '1' :: '.' :: digits => (nat? digits).map fun n => (some false, n - 1)
    | '2' :: '.' :: digits => (nat? digits).map fun n => (some true, n - 1)
    | _ => none

def join : Utility := fun args => do
  let forms := [valuedOption '1' "", valuedOption '2' "", valuedOption 'j' "", valuedOption 'a' "",
    valuedOption 'v' "", valuedOption 'e' "", valuedOption 'o' "", valuedOption 't' "",
    plainOption 'i' "ignore-case", namedOption "check-order" .nothing, namedOption "nocheck-order" .nothing]
  let r ← requestOf forms 1 args
  let ((_, a), (_, b)) ← twoFiles r.operands
  let number (key : String) : Nat := (((r.value? key).orElse fun _ => r.value? "j").bind nat?).getD 1
  let k : Joining := ⟨(r.value? "t").bind List.head?, (number "1" - 1, number "2" - 1),
    (r.value? "e").getD [], (r.value? "o").bind joinForm?, r.has "i"⟩
  let left := (bareLines a).map k.fields
  let right := (bareLines b).map k.fields
  let asked (key : String) (n : String) : Bool := (r.values key).contains n.toList
  let showsPairs := !r.has "v"
  let shows (n : String) : Bool := asked "a" n || asked "v" n
  let rec merge : Nat → List (List Octets) → List (List Octets) → JobM Unit
    | 0, _, _ => return ()
    | _ + 1, [], [] => return ()
    | fuel + 1, x :: xs, [] => do
      if shows "1" then line (k.joined (some x) none)
      merge fuel xs []
    | fuel + 1, [], y :: ys => do
      if shows "2" then line (k.joined none (some y))
      merge fuel [] ys
    | fuel + 1, x :: xs, y :: ys => do
      match byteOrder (k.key false x) (k.key true y) with
      | .lt =>
        if shows "1" then line (k.joined (some x) none)
        merge fuel xs (y :: ys)
      | .gt =>
        if shows "2" then line (k.joined none (some y))
        merge fuel (x :: xs) ys
      | .eq =>
        let same := (y :: ys).takeWhile fun l => k.key true l == k.key false x
        if showsPairs then
          for l in same do line (k.joined (some x) (some l))
        let again := (xs.head?.map fun next => k.key false next == k.key false x).getD false
        merge fuel xs (if again then y :: ys else (y :: ys).drop same.length)
  merge (left.length + right.length + 1) left right

end TlaDigest.Script.Utility
