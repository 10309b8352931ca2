import TlaDigest.Script.Regex.Reader
import TlaDigest.Script.Utility.Printing

/-!
# Portions of a text

Programs that copy text, or a part of it: the first lines or the last ones, columns, or the text
from its end to its start.
-/

namespace TlaDigest.Script.Utility

open Text JobM

/-! ### Whole texts -/

/-- A character as it is shown where nothing may stay hidden. -/
def visible (tabs : Bool) (c : Char) : Octets :=
  let low (n : Nat) : Octets :=
    if n < 32 then ['^', Char.ofNat (n + 64)] else if n == 127 then ['^', '?'] else [Char.ofNat n]
  if c == '\n' || (c == '\t' && !tabs) then [c]
  else if c.toNat < 128 then low c.toNat
  else 'M' :: '-' :: low (c.toNat - 128)

structure CatStyle where
  numbers : Bool
  filled : Bool
  squeezes : Bool
  ends : Bool
  tabs : Bool
  hidden : Bool

/-- What `cat` makes of lines; `number` is the number of the next one and `blank` tells whether the line
    before was empty. -/
def CatStyle.text (s : CatStyle) : Nat → Bool → List Octets → Octets
  | _, _, [] => []
  | number, blank, text :: rest =>
    let body := withoutFeed text
    let isBlank := text == ['\n']
    if s.squeezes && blank && isBlank then s.text number true rest
    else
      let counts := s.numbers && !(s.filled && isBlank)
      let lead := if counts then padLeft 6 (decimal number) ++ ['\t'] else []
      let shownBody := body.flatMap fun c =>
        if s.hidden then visible s.tabs c else if s.tabs && c == '\t' then ['^', 'I'] else [c]
      let feed := if text.length == body.length then [] else if s.ends then ['$', '\n'] else ['\n']
      lead ++ shownBody ++ feed ++ s.text (if counts then number + 1 else number) isBlank rest

def cat : Utility := fun args => do
  let forms := [plainOption 'A' "show-all", plainOption 'b' "number-nonblank", plainOption 'e' "",
    plainOption 'E' "show-ends", plainOption 'n' "number", plainOption 's' "squeeze-blank",
    plainOption 't' "", plainOption 'T' "show-tabs", plainOption 'u' "", plainOption 'v' "show-nonprinting"]
  let r ← requestOf forms 1 args
  let any (keys : List String) : Bool := keys.any r.has
  let style : CatStyle := ⟨any ["n", "b"], r.has "b", r.has "s", any ["A", "E", "e"], any ["A", "T", "t"],
    any ["A", "e", "t", "v"]⟩
  if any ["A", "b", "e", "E", "n", "s", "t", "T", "v"] then
    out (style.text 1 false (linesOf (← allText r.operands)))
  else overFiles r.operands fun _ text => out text
  let isClosed := match (← get).input with
    | .error cause => cause == .badDescriptor
    | .ok _ => false
  if isClosed && (inputsOf r.operands).any isInput then
    complain ("closing standard input: ".toList ++ FileError.badDescriptor.reason.toList) 1

def tac : Utility := fun args => do
  let r ← requestOf [plainOption 'b' "before", plainOption 'r' "regex", valuedOption 's' "separator"] 1 args
  let separator := (r.value? "s").getD ['\n']
  for name in inputsOf r.operands do
    match ← contents name with
    | .ok text => out (records separator (text.length + 1) text).reverse.flatten
    | .error cause =>
      complain ("failed to open ".toList ++ quotedName name ++ " for reading: ".toList ++ cause.reason.toList) 1
where
  /-- The pieces of a text, each with the separator at its end. -/
  records (separator : Octets) : Nat → Octets → List Octets
    | 0, _ => []
    | _ + 1, [] => []
    | fuel + 1, text =>
      let front := upTo separator text
      front :: records separator fuel (text.drop front.length)
  upTo (separator : Octets) : Octets → Octets
    | [] => []
    | c :: cs => if separator.isPrefixOf (c :: cs) then separator else c :: upTo separator cs

def rev : Utility := fun args => do
  let r ← requestOf [] 1 args
  for name in inputsOf r.operands do
    match ← contents name with
    | .ok text => out ((linesOf text).flatMap fun l =>
      let body := withoutFeed l
      body.reverse ++ l.drop body.length)
    | .error cause => complain ("cannot open ".toList ++ name ++ ": ".toList ++ cause.reason.toList) 1

def tee : Utility := fun args => do
  let r ← requestOf [plainOption 'a' "append", plainOption 'i' "ignore-interrupts", plainOption 'p' ""] 1 args
  match ← readInput with
  | .error cause => complain ("read error: ".toList ++ cause.reason.toList) 1
  | .ok text =>
    out text
    for name in r.operands do
      if name == "/dev/stdout".toList || name == "/dev/fd/1".toList then
        out text
        continue
      if name == "/dev/stderr".toList || name == "/dev/fd/2".toList then
        err text
        continue
      let before := ((← get).tree.read (pathOf name)).toOption.getD []
      let kept := if r.has "a" then ofBytes before else []
      match ← writeFile name (kept ++ text) with
      | .ok _ => pure ()
      | .error cause => unreadable name cause 1

/-! ### Parts -/

def sizedNumber? (text : Octets) : Option Nat :=
  let (digits, unit) := cutAt (fun c => !isDecimalDigit c) text
  match nat? digits with
  | none => none
  | some n =>
    match String.ofList unit with
    | "" => some n
    | "b" => some (n * 512)
    | "k" => some (n * 1024)
    | "K" => some (n * 1024)
    | "KiB" => some (n * 1024)
    | "kB" => some (n * 1000)
    | "KB" => some (n * 1000)
    | "M" => some (n * 1048576)
    | "m" => some (n * 1048576)
    | "MB" => some (n * 1000000)
    | "G" => some (n * 1073741824)
    | _ => none

structure Portion where
  bytes : Bool
  fromEnd : Bool
  rest : Bool
  count : Nat

def Portion.of (p : Portion) (zero : Bool) (text : Octets) : Octets :=
  let cut {α : Type} (list : List α) : List α :=
    let n := if p.fromEnd then list.length - p.count else p.count
    if p.fromEnd == p.rest then list.take n else list.drop n
  if p.bytes then cut text
  else
    let feed := if zero then '\x00' else '\n'
    let parts := splitOn feed text
    let lines := parts.dropLast.map (· ++ [feed]) ++ (parts.getLast?.filter (· != [])).toList
    (cut lines).flatten

def heading (name : Octets) : Octets :=
  "==> ".toList ++ (if name == ['-'] then "standard input".toList else name) ++ " <==\n".toList

/-- Prints a part of each file; what is not asked for stays unread. -/
def portioned (r : Request) (names : List Octets) (p : Portion) : JobM Unit := do
  let names := inputsOf names
  let shows := r.has "v" || (1 < names.length && !r.has "q")
  let mut first := true
  for name in names do
    match ← contents name with
    | .error cause =>
      complain ("cannot open ".toList ++ quotedName name ++ " for reading: ".toList ++ cause.reason.toList) 1
    | .ok text =>
      if shows then out ((if first then [] else ['\n']) ++ heading name)
      first := false
      let part := p.of (r.has "z") text
      out part
      if isInput name && !p.fromEnd && !p.rest && (← get).fromFile then unread (text.drop part.length)

def portionForms : List OptionForm :=
  [valuedOption 'n' "lines", valuedOption 'c' "bytes", plainOption 'q' "quiet",
    namedOption "silent" .nothing, plainOption 'v' "verbose", plainOption 'z' "zero-terminated"]

def countedWord (bytes : Bool) : Octets :=
  ("invalid number of " ++ if bytes then "bytes: " else "lines: ").toList

def head : Utility := fun args => do
  let args ← match args with
    | ('-' :: c :: cs) :: rest =>
      if isDecimalDigit c then do
        let (digits, letters) := cutAt (fun c => !isDecimalDigit c) (c :: cs)
        let bad := letters.find? fun c => !"cqvzbkm".toList.contains c
        match bad with
        | some c => do
          say ("invalid trailing option -- ".toList ++ [c])
          hint 1
        | none =>
          let unit := letters.filter fun c => c == 'b' || c == 'k' || c == 'm'
          let count := ['-', if letters.contains 'c' || !unit.isEmpty then 'c' else 'n']
          let marks := (letters.filter fun c => c == 'q' || c == 'v' || c == 'z').map fun c => ['-', c]
          pure ([count, digits ++ unit] ++ marks ++ rest)
      else pure args
    | args => pure args
  let r ← requestOf portionForms 1 args
  match r.last? ["n", "c"] with
  | none => portioned r r.operands ⟨false, false, false, 10⟩
  | some (key, value) =>
    let bytes := key == "c"
    let (rest, digits) := match value with
      | '-' :: digits => (true, digits)
      | '+' :: digits => (false, digits)
      | digits => (false, digits)
    match sizedNumber? digits with
    | some n => portioned r r.operands ⟨bytes, rest, rest, n⟩
    | none => die (countedWord bytes ++ quotedName digits) 1

/-- `tail`. A count may stand right after a dash or a plus sign. -/
def tail : Utility := fun args => do
  let args := match args with
    | (sign :: c :: cs) :: rest =>
      if (sign == '-' || sign == '+') && (c :: cs).all isDecimalDigit then
        [['-', 'n'], sign :: c :: cs] ++ rest
      else args
    | args => args
  match args with
  | ('-' :: c :: _) :: _ =>
    if isDecimalDigit c then die ("option used in invalid context -- ".toList ++ [c]) 1
  | _ => pure ()
  let forms := portionForms ++ [plainOption 'f' "follow", plainOption 'F' "", valuedOption 's' "sleep-interval"]
  let r ← requestOf forms 1 args
  match r.last? ["n", "c"] with
  | none => portioned r r.operands ⟨false, true, false, 10⟩
  | some (key, value) =>
    let bytes := key == "c"
    let (fromStart, digits) := match value with
      | '+' :: digits => (true, digits)
      | '-' :: digits => (false, digits)
      | digits => (false, digits)
    match sizedNumber? digits with
    | some n =>
      portioned r r.operands (if fromStart then ⟨bytes, false, true, n - 1⟩ else ⟨bytes, true, false, n⟩)
    | none => die (countedWord bytes ++ quotedName value) 1

/-! ### Columns -/

/-- A list of positions: bounds, of which the last may be open. -/
abbrev Positions := List (Nat × Option Nat)

def isListed (list : Positions) (n : Nat) : Bool :=
  list.any fun (low, high) => low ≤ n && (high.map fun h => decide (n ≤ h)).getD true

def positions (fields : Bool) (text : Octets) : JobM (Nat × Option Nat) := do
  let zero := if fields then "fields are numbered from 1" else "byte/character positions are numbered from 1"
  let number (digits : Octets) : JobM Nat := do
    match if digits.all isDecimalDigit then nat? digits else none with
    | some n => return n
    | none =>
      let what := if fields then "invalid field value " else "invalid byte/character position "
      misuse (what.toList ++ quotedName (digits.dropWhile isDecimalDigit)) 1
  match cutAt (· == '-') text with
  | ([], []) => misuse zero.toList 1
  | (low, []) =>
    let n ← number low
    if n == 0 then misuse zero.toList 1
    return (n, some n)
  | (low, _ :: high) =>
    if low.isEmpty && high.isEmpty then misuse "invalid range with no endpoint: -".toList 1
    let first ← if low.isEmpty then pure 1 else number low
    if first == 0 then misuse zero.toList 1
    if high.isEmpty then return (first, none)
    let last ← number high
    if last < first then misuse "invalid decreasing range".toList 1
    return (first, some last)

structure Cutting where
  list : Positions
  complement : Bool
  /-- What stands between fields; without it, characters are taken. -/
  delimiter : Option Char
  /-- What is put between the parts, where something else than before is asked for. -/
  joint : Option Octets
  /-- Lines without a delimiter are left out. -/
  strict : Bool

def Cutting.takes (c : Cutting) (n : Nat) : Bool := isListed c.list n != c.complement

/-- Characters of a line; where runs that are listed apart meet, the joint is put between them. -/
def Cutting.characters (c : Cutting) (text : Octets) : Octets :=
  let starts := c.list.map (·.1)
  let chosen := text.zipIdx.filter fun (_, i) => c.takes (i + 1)
  let marked := chosen.zipIdx.map fun ((ch, i), k) =>
    let before := if k == 0 then none else (chosen[k - 1]?).map (·.2)
    let apart := before.any fun b => b + 1 != i || (starts.contains (i + 1) &&
      !(c.list.any fun (low, high) => low < i + 1 && (high.map fun h => decide (i + 1 ≤ h)).getD true))
    (if apart then c.joint.getD [] else []) ++ [ch]
  marked.flatten

/-- The part of a line that is taken; none where the line is left out. -/
def Cutting.of? (c : Cutting) (text : Octets) : Option Octets :=
  match c.delimiter with
  | none => some (c.characters text)
  | some d =>
    if !text.contains d then if c.strict then none else some text
    else
      let fields := (splitOn d text).zipIdx.filterMap fun (field, i) =>
        if c.takes (i + 1) then some field else none
      some (fields.intersperse (c.joint.getD [d])).flatten

def cut : Utility := fun args => do
  let forms := [valuedOption 'b' "bytes", valuedOption 'c' "characters", valuedOption 'f' "fields",
    valuedOption 'd' "delimiter", plainOption 's' "only-delimited", plainOption 'n' "",
    namedOption "complement" .nothing, namedOption "output-delimiter" .value,
    plainOption 'z' "zero-terminated"]
  let r ← requestOf forms 1 args
  let lists := r.options.filter fun o => ["b", "c", "f"].contains o.1
  if ((r.value? "d").map fun d => decide (1 < d.length)).getD false then
    misuse "the delimiter must be a single character".toList 1
  match lists with
  | [] => misuse "you must specify a list of bytes, characters, or fields".toList 1
  | _ :: _ :: _ => misuse "only one list may be specified".toList 1
  | [(key, text)] =>
    let fields := key == "f"
    if !fields && r.has "d" then
      misuse "an input delimiter may be specified only when operating on fields".toList 1
    if !fields && r.has "s" then
      misuse "suppressing non-delimited lines makes sense\n\tonly when operating on fields".toList 1
    let parts := (splitOn ',' text).flatMap fun part => splitOn ' ' part
    let list ← parts.mapM (positions fields)
    let delimiter := if fields then some (((r.value? "d").getD ['\t']).headD '\x00') else none
    let cutting : Cutting := ⟨list, r.has "complement", delimiter, r.value? "output-delimiter", r.has "s"⟩
    let feed := if r.has "z" then '\x00' else '\n'
    overFiles r.operands fun _ text => do
      let parts := splitOn feed text
      let lines := parts.dropLast ++ (parts.getLast?.filter (· != [])).toList
      out ((lines.filterMap cutting.of?).flatMap (· ++ [feed]))

/-- The delimiters of `paste`, of which some may be empty. -/
def pasteDelimiters : Octets → Option (List Octets)
  | [] => some []
  | ['\\'] => none
  | '\\' :: c :: cs =>
    let d : Octets := match c with
      | 'n' => ['\n']
      | 't' => ['\t']
      | '0' => []
      | c => [c]
    (pasteDelimiters cs).map (d :: ·)
  | c :: cs => (pasteDelimiters cs).map ([c] :: ·)

/-- Texts with delimiters between them, which are taken in turn. -/
def pasted (delimiters : List Octets) (texts : List Octets) : Octets :=
  texts.zipIdx.flatMap fun (text, i) =>
    (if i == 0 || delimiters.isEmpty then [] else (delimiters[(i - 1) % delimiters.length]?).getD []) ++ text

def paste : Utility := fun args => do
  let r ← requestOf [valuedOption 'd' "delimiters", plainOption 's' "serial", plainOption 'z' "zero-terminated"]
    1 args
  let given := (r.value? "d").getD ['\t']
  match pasteDelimiters given with
  | none => die ("delimiter list ends with an unescaped backslash: ".toList ++ given) 1
  | some delimiters =>
    let names := inputsOf r.operands
    let dashes := (names.filter isInput).length
    let input ← if dashes == 0 then pure [] else do
      pure (((← readInput).toOption.map bareLines).getD [])
    let mut columns : List (List Octets) := []
    let mut seen := 0
    for name in names do
      if isInput name then
        let k := seen
        let mine := if r.has "s" then (if k == 0 then input else [])
          else (input.zipIdx.filter fun (_, i) => i % dashes == k).map (·.1)
        columns := columns ++ [mine]
        seen := seen + 1
      else
        match ← contents name with
        | .ok text => columns := columns ++ [bareLines text]
        | .error cause =>
          unreadable name cause 1
          if !r.has "s" then stop 1
    if r.has "s" then
      for column in columns do line (pasted delimiters column)
    else
      let rows := columns.foldl (fun n c => max n c.length) 0
      for i in List.range rows do
        line (pasted delimiters (columns.map fun column => (column[i]?).getD []))

/-! ### Widths -/

def columnAfter (column : Nat) (c : Char) : Nat :=
  if c == '\t' then column + 8 - column % 8
  else if c == '\x08' then column - 1
  else if c == '\r' then 0
  else column + 1

def columnsOf (bytes : Bool) (text : Octets) : Nat :=
  if bytes then text.length else text.foldl columnAfter 0

/-- A line in pieces that are not wider than asked for; with `spaces`, they end after a blank where
    there is one. The piece that has begun is kept from its end. -/
def folded (width : Nat) (spaces bytes : Bool) : Octets → Octets → List Octets
  | begun, [] => [begun.reverse]
  | begun, c :: cs =>
    let next := c :: begun
    if columnsOf bytes next.reverse ≤ width || begun.isEmpty then folded width spaces bytes next cs
    else
      let isBlank (c : Char) : Bool := c == ' ' || c == '\t'
      let tail := begun.takeWhile fun c => !isBlank c
      if spaces && tail.length < begun.length then
        (begun.drop tail.length).reverse :: folded width spaces bytes (c :: tail) cs
      else begun.reverse :: folded width spaces bytes [c] cs

def fold : Utility := fun args => do
  let args := args.flatMap fun arg => match arg with
    | '-' :: c :: cs => if isDecimalDigit c then [['-', 'w'], c :: cs] else [arg]
    | _ => [arg]
  let r ← requestOf [plainOption 'b' "bytes", plainOption 's' "spaces", valuedOption 'w' "width"] 1 args
  let given := (r.value? "w").getD "80".toList
  match if given.all isDecimalDigit then nat? given else none with
  | none => die ("invalid number of columns: ".toList ++ quotedName given) 1
  | some 0 =>
    die ("invalid number of columns: ".toList ++ quotedName given ++
      ": Numerical result out of range".toList) 1
  | some width =>
    overFiles r.operands fun _ text => out ((linesOf text).flatMap fun l =>
      let body := withoutFeed l
      ((folded width (r.has "s") (r.has "b") [] body).intersperse ['\n']).flatten ++ l.drop body.length)

/-- The column of the next stop for a tab, after a column. -/
def nextStop (stops : List Nat) (column : Nat) : Nat :=
  match stops with
  | [width] => column + width - column % width
  | stops => (stops.find? fun s => column < s).getD (column + 1)

def tabStops (r : Request) : JobM (List Nat) := do
  match r.value? "t" with
  | none => return [8]
  | some text =>
    let parts := (splitOn ',' text).flatMap (splitOn ' ')
    let stops := parts.filterMap nat?
    match (text.dropWhile fun c => isDecimalDigit c || c == ',' || c == ' ') with
    | [] => return if stops.isEmpty then [8] else stops
    | bad => die ("tab size contains invalid character(s): ".toList ++ quotedName bad) 1

/-- A line with blanks for its tabs; with `initial`, only for those before other text. -/
def expanded (stops : List Nat) (initial : Bool) : Nat → Bool → Octets → Octets
  | _, _, [] => []
  | column, seen, c :: cs =>
    if c == '\t' && !(initial && seen) then
      let next := nextStop stops column
      List.replicate (next - column) ' ' ++ expanded stops initial next seen cs
    else c :: expanded stops initial (columnAfter column c) (seen || c != ' ') cs

def expand : Utility := fun args => do
  let r ← requestOf [plainOption 'i' "initial", valuedOption 't' "tabs"] 1 args
  let stops ← tabStops r
  overFiles r.operands fun _ text => out ((linesOf text).flatMap (expanded stops (r.has "i") 0 false))

/-- A line with tabs for blanks, where they reach a stop; the blanks that may become a tab are counted in
    `pending`. Without `all`, only blanks before other text count. -/
def unexpanded (stops : List Nat) (all : Bool) : Nat → Nat → Bool → Octets → Octets
  | _, pending, _, [] => List.replicate pending ' '
  | column, pending, seen, c :: cs =>
    if (c == ' ' || c == '\t') && (all || !seen) then
      let next := nextStop stops (column - pending + pending)
      if c == '\t' then '\t' :: unexpanded stops all next 0 seen cs
      else if column + 1 == nextStop stops column then
        (if pending == 0 && all && seen then ' ' else '\t') :: unexpanded stops all (column + 1) 0 seen cs
      else unexpanded stops all (column + 1) (pending + 1) seen cs
    else List.replicate pending ' ' ++ c :: unexpanded stops all (columnAfter column c) 0 true cs

def unexpand : Utility := fun args => do
  let r ← requestOf [plainOption 'a' "all", namedOption "first-only" .nothing, valuedOption 't' "tabs"] 1 args
  let stops ← tabStops r
  let all := (r.has "a" || r.has "t") && !r.has "first-only"
  overFiles r.operands fun _ text => out ((linesOf text).flatMap (unexpanded stops all 0 0 false))

/-! ### Numbered lines -/

structure NumberStyle where
  width : Nat
  separator : Octets
  left : Bool
  zeros : Bool

def NumberStyle.text (s : NumberStyle) (n : Int) : Octets :=
  let digits := numeral n
  let fill := s.width - digits.length
  if s.left then digits ++ List.replicate fill ' '
  else if s.zeros then
    (if n < 0 then ['-'] else []) ++ List.replicate fill '0' ++ decimal n.natAbs
  else List.replicate fill ' ' ++ digits

def nl : Utility := fun args => do
  let forms := [valuedOption 'b' "body-numbering", valuedOption 'h' "header-numbering",
    valuedOption 'f' "footer-numbering", valuedOption 'i' "line-increment", valuedOption 'w' "number-width",
    valuedOption 's' "number-separator", valuedOption 'v' "starting-line-number",
    valuedOption 'n' "number-format", valuedOption 'l' "join-blank-lines", plainOption 'p' "no-renumber",
    valuedOption 'd' "section-delimiter"]
  let r ← requestOf forms 1 args
  let number (key what : String) (usual : Int) : JobM Int := do
    match r.value? key with
    | none => return usual
    | some text =>
      match signedAt? text with
      | some (n, []) => return n
      | _ => die (what.toList ++ quotedName text) 1
  let start ← number "v" "invalid starting line number: " 1
  let step ← number "i" "invalid line number increment: " 1
  let width ← number "w" "invalid line number field width: " 6
  let format := (r.value? "n").getD "rn".toList
  let style : NumberStyle := ⟨width.toNat, (r.value? "s").getD ['\t'], format == "ln".toList,
    format == "rz".toList⟩
  let which := (r.value? "b").getD ['t']
  let pattern : Option Regex ← match which with
    | 'p' :: text =>
      match Regex.ofText ⟨false, false, false⟩ text with
      | .ok read => pure (some read.regex)
      | .error fault => die fault.message.toList 1
    | ['a'] => pure none
    | ['n'] => pure none
    | ['t'] => pure none
    | _ => misuse ("invalid body numbering style: ".toList ++ quotedName which) 1
  let blank := List.replicate (style.width + style.separator.length) ' '
  let mut n := start
  for text in bareLines (← allText r.operands) do
    let counts := match pattern, which with
      | some regex, _ => (regex.searchFrom? (regex.subject false text) 0).isSome
      | none, ['a'] => true
      | none, ['n'] => false
      | none, _ => !text.isEmpty
    if counts then
      line (style.text n ++ style.separator ++ text)
      n := n + step
    else line (if text.isEmpty then blank else blank ++ text)

end TlaDigest.Script.Utility
