import TlaDigest.Script.Pattern
import TlaDigest.Script.Regex.Reader
import TlaDigest.Script.Utility.Portion

/-!
# Searching for lines that match

A line is selected when a match lies in it that is as long and stands as the options ask; what is
shown of it, and of the lines around it, depends on them, too.
-/

namespace TlaDigest.Script.Utility

open Text JobM

/-! ### What is sought -/

inductive Extent where
  | anywhere
  /-- Between characters that are not part of words. -/
  | words
  | wholeLine
deriving DecidableEq, Repr

/-- What is sought: expressions, one of which has to match. -/
structure Quest where
  regexes : List Regex
  extent : Extent

namespace Quest

def accepts (q : Quest) (s : Regex.Subject) (start : Nat) (state : Regex.State) : Bool :=
  match q.extent with
  | .anywhere => true
  | .words => !s.wordBefore start && !s.wordAt state.position
  | .wholeLine => start == 0 && state.position == s.text.size

/-- The first match from a place on, by where it starts and where the longest one ends. -/
def searchFrom? (q : Quest) (text : Octets) (start : Nat) : Option (Nat × Nat) :=
  let subjects := q.regexes.map fun r => (r, r.subject false text)
  (List.range (text.length + 1 - start)).findSome? fun i =>
    let ends := subjects.flatMap fun (r, s) =>
      ((r.states s [⟨start + i, []⟩]).filter (q.accepts s (start + i))).map (·.position)
    if ends.isEmpty then none else some (start + i, ends.foldl max 0)

def selects (q : Quest) (text : Octets) : Bool := (q.searchFrom? text 0).isSome

/-- All matches in a line that are not empty. Each starts after the one before, so the text bounds them. -/
def matchesIn (q : Quest) (text : Octets) : Nat → Nat → List (Nat × Nat)
  | 0, _ => []
  | fuel + 1, start =>
    match q.searchFrom? text start with
    | none => []
    | some (a, b) =>
      if a == b then q.matchesIn text fuel (b + 1) else (a, b) :: q.matchesIn text fuel b

end Quest

/-- A text as an expression that matches just this text. -/
def literalRegex (foldsCase : Bool) (text : Octets) : Regex :=
  text.foldr (fun c r =>
    .sequence (.one (if foldsCase then (CharSet.only c).folded else .only c)) r) .empty

/-- An expression with escapes for digits and blanks, in the extended form. -/
def withoutEscapes : Octets → Octets
  | '\\' :: 'd' :: rest => "[0-9]".toList ++ withoutEscapes rest
  | '\\' :: 'D' :: rest => "[^0-9]".toList ++ withoutEscapes rest
  | '\\' :: 't' :: rest => '\t' :: withoutEscapes rest
  | '\\' :: c :: rest => '\\' :: c :: withoutEscapes rest
  | c :: rest => c :: withoutEscapes rest
  | [] => []

/-! ### What is shown -/

structure Showing where
  names : Bool
  numbers : Bool
  offsets : Bool
  onlyMatches : Bool
  colours : Bool
  before : Nat
  after : Nat
  grouped : Bool
  separator : Option Octets
  feed : Char

namespace Showing

def coloured (s : Showing) (code : String) (text : Octets) : Octets :=
  let escape : Octets := ['\x1b', '[']
  if s.colours then
    escape ++ code.toList ++ 'm' :: escape ++ 'K' :: text ++ escape ++ 'm' :: escape ++ ['K']
  else text

def lead (s : Showing) (name : Octets) (number offset : Nat) (mark : Char) : Octets :=
  let mark := s.coloured "36" [mark]
  (if s.names then s.coloured "35" name ++ mark else []) ++
    (if s.numbers then s.coloured "32" (decimal number) ++ mark else []) ++
    (if s.offsets then s.coloured "32" (decimal offset) ++ mark else [])

def marked (s : Showing) (q : Quest) (text : Octets) : Octets :=
  if s.colours then
    let spans := q.matchesIn text (text.length + 1) 0
    let (shown, last) := spans.foldl (fun (acc : Octets × Nat) (a, b) =>
      (acc.1 ++ (text.drop acc.2).take (a - acc.2) ++ s.coloured "01;31" ((text.drop a).take (b - a)), b))
      ([], 0)
    shown ++ text.drop last
  else text

end Showing

structure NumberedLine where
  number : Nat
  offset : Nat
  text : Octets

def numberedLines (feed : Char) (text : Octets) : List NumberedLine :=
  let parts := splitOn feed text
  let parts := parts.dropLast ++ (parts.getLast?.filter (· != [])).toList
  (parts.foldl (fun (acc : List NumberedLine × Nat × Nat) part =>
    (⟨acc.2.1, acc.2.2, part⟩ :: acc.1, acc.2.1 + 1, acc.2.2 + part.length + 1)) ([], 1, 0)).1.reverse

structure Looking where
  /-- The lines since the last that was shown, the latest first. -/
  recent : List NumberedLine
  /-- The number of lines that are still to be shown after the last selected one. -/
  pending : Nat
  shown : Option Nat
  count : Nat
  text : List Octets

def Looking.next (q : Quest) (s : Showing) (inverted : Bool) (most : Option Nat) (name : Octets)
    (apart : Bool) (l : Looking) (line : NumberedLine) : Looking :=
  let context (line : NumberedLine) : Octets :=
    if s.onlyMatches then [] else s.lead name line.number line.offset '-' ++ line.text ++ [s.feed]
  let exhausted := (most.map fun n => decide (n ≤ l.count)).getD false
  let selected := !exhausted && q.selects line.text != inverted
  if selected then
    let before := (l.recent.take s.before).reverse
    let first := (before.head?.map (·.number)).getD line.number
    let gap := match l.shown with
      | some n => decide (n + 1 < first)
      | none => apart
    let separator := if gap && s.grouped then
      (s.separator.map fun t => s.coloured "36" t ++ ['\n']).getD [] else []
    let own :=
      if s.onlyMatches then
        if inverted then []
        else (q.matchesIn line.text (line.text.length + 1) 0).flatMap fun (a, b) =>
          s.lead name line.number (line.offset + a) ':' ++
            s.coloured "01;31" ((line.text.drop a).take (b - a)) ++ [s.feed]
      else
        s.lead name line.number line.offset ':' ++
          (if inverted then line.text else s.marked q line.text) ++ [s.feed]
    ⟨[], s.after, some line.number, l.count + 1,
      own :: (before.map context).reverse ++ (separator :: l.text)⟩
  else
    match l.pending with
    | n + 1 => { l with pending := n, shown := some line.number, text := context line :: l.text }
    | 0 => { l with recent := (line :: l.recent).take s.before }

/-! ### The program -/

def grepForms : List OptionForm := [
  plainOption 'E' "extended-regexp", plainOption 'F' "fixed-strings", plainOption 'G' "basic-regexp",
  plainOption 'P' "perl-regexp", valuedOption 'e' "regexp", valuedOption 'f' "file",
  plainOption 'i' "ignore-case", plainOption 'y' "", namedOption "no-ignore-case" .nothing,
  plainOption 'w' "word-regexp", plainOption 'x' "line-regexp", plainOption 'z' "null-data",
  plainOption 's' "no-messages", plainOption 'v' "invert-match", valuedOption 'm' "max-count",
  plainOption 'b' "byte-offset", plainOption 'n' "line-number", namedOption "line-buffered" .nothing,
  plainOption 'H' "with-filename", plainOption 'h' "no-filename", namedOption "label" .value,
  plainOption 'o' "only-matching", plainOption 'q' "quiet", namedOption "silent" .nothing,
  namedOption "binary-files" .value, plainOption 'a' "text", plainOption 'I' "",
  valuedOption 'd' "directories", valuedOption 'D' "devices", plainOption 'r' "recursive",
  plainOption 'R' "dereference-recursive", namedOption "include" .value, namedOption "exclude" .value,
  namedOption "exclude-dir" .value, plainOption 'L' "files-without-match",
  plainOption 'l' "files-with-matches", plainOption 'c' "count", plainOption 'T' "initial-tab",
  plainOption 'Z' "null", valuedOption 'B' "before-context", valuedOption 'A' "after-context",
  valuedOption 'C' "context", namedOption "color" .maybe, namedOption "colour" .maybe,
  plainOption 'U' "binary", namedOption "group-separator" .value, namedOption "no-group-separator" .nothing]

def grepUsage : Octets := "Usage: grep [OPTION]... PATTERNS [FILE]...\n".toList

def contextArguments (args : List Octets) : List Octets :=
  args.flatMap fun arg => match arg with
    | '-' :: c :: cs => if (c :: cs).all isDecimalDigit then [['-', 'C'], c :: cs] else [arg]
    | _ => [arg]

/-- The patterns that a command line names, and what comes after them. -/
def grepPatterns (r : Request) : JobM (List Octets × List Octets) := do
  let given ← (r.options.filter fun o => o.1 == "e" || o.1 == "f").mapM fun (key, value) => do
    if key == "e" then return splitOn '\n' value
    match ← contents value with
    | .ok text => return bareLines text
    | .error cause => die (shownName value ++ ": ".toList ++ cause.reason.toList) 2
  if r.has "e" || r.has "f" then return (given.flatten, r.operands)
  match r.operands with
  | [] =>
    err grepUsage
    hint 2
  | pattern :: files => return (splitOn '\n' pattern, files)

def grepRegex (r : Request) (pattern : Octets) : JobM Regex := do
  let foldsCase := r.has "i" || r.has "y"
  let kind := ((r.last? ["E", "F", "G", "P"]).map (·.1)).getD "G"
  if kind == "F" then return literalRegex foldsCase pattern
  let text := if kind == "P" then withoutEscapes pattern else pattern
  match Regex.ofText ⟨kind != "G", foldsCase, false⟩ text with
  | .ok read =>
    for warning in read.warnings do say ("warning: ".toList ++ warning)
    return read.regex
  | .error fault => die fault.message.toList 2

def contextLength (r : Request) (key : String) : JobM (Option Nat) := do
  match (r.last? [key, "C"]).map (·.2) with
  | none => return none
  | some text =>
    match if text.all isDecimalDigit then nat? text else none with
    | some n => return some n
    | none => die (text ++ ": invalid context length argument".toList) 2

/-- The files below a directory, in the order of their names. The depth of the tree is bounded by the
    number of entries. -/
def filesBelow (tree : FileTree) (skips : Octets → Bool) : Nat → Place → Octets → List Octets
  | 0, _, _ => []
  | fuel + 1, place, path =>
    let names := (tree.names place).map fun n => (n, octets (String.ofList n))
    let sorted := names.mergeSort fun a b => !decide (b.2 < a.2)
    sorted.flatMap fun (name, shown) =>
      let path := if path.getLast? == some '/' then path ++ shown else path ++ '/' :: shown
      let path := if path.take 2 == ['.', '/'] && fuel == tree.entries.length then path.drop 2 else path
      match tree.entry? (place ++ [name]) with
      | some (.link _) => []
      | _ =>
        if tree.isDirectory (place ++ [name]) then
          if skips shown then [] else filesBelow tree skips fuel (place ++ [name]) path
        else [path]

/-- The files that are looked at: those that are named, and, if asked for, those below directories. -/
def grepFiles (r : Request) (files : List Octets) : JobM (List Octets) := do
  if !(r.has "r" || r.has "R" || r.value? "d" == some "recurse".toList) then return inputsOf files
  let tree := (← get).tree
  let fits (key : String) (name : Octets) : Bool :=
    (r.values key).any fun p => Pattern.fits (Pattern.ofGlyphs (p.map fun c => ⟨c, false⟩)) name
  let wanted (path : Octets) : Bool :=
    let name := (path.reverse.takeWhile (· != '/')).reverse
    (!r.has "include" || fits "include" name) && !fits "exclude" name
  return (if files.isEmpty then [['.']] else files).flatMap fun name =>
    match tree.locate (pathOf name) with
    | .ok place =>
      if tree.isDirectory place && !isInput name then
        (filesBelow tree (fits "exclude-dir") (tree.entries.length + 1) place name).filter wanted
      else [name]
    | .error _ => [name]

def grep : Utility := fun args => do
  let r ← request ⟨grepForms, true, 2, grepUsage⟩ (contextArguments args)
  let (patterns, files) ← grepPatterns r
  let before ← contextLength r "B"
  let after ← contextLength r "A"
  let most ← match r.value? "m" with
    | none => pure none
    | some text =>
      match if text.all isDecimalDigit then nat? text else none with
      | some n => pure (some n)
      | none => die "invalid max count".toList 2
  let regexes ← patterns.mapM (grepRegex r)
  let q : Quest := ⟨regexes, if r.has "x" then .wholeLine else if r.has "w" then .words else .anywhere⟩
  let recursive := r.has "r" || r.has "R"
  let names := match (r.last? ["h", "H"]).map (·.1) with
    | some "h" => false
    | some _ => true
    | none => 1 < files.length || recursive
  let always := ((r.last? ["color", "colour"]).map fun o => o.2 == "always".toList).getD false
  let separator := if r.has "no-group-separator" then none
    else some ((r.value? "group-separator").getD "--".toList)
  let feed := if r.has "z" then '\x00' else '\n'
  let s : Showing := ⟨names, r.has "n", r.has "b", r.has "o", always, before.getD 0, after.getD 0,
    before.isSome || after.isSome, separator, feed⟩
  let quiet := r.has "q" || r.has "silent"
  let silent := quiet || r.has "c" || r.has "l" || r.has "L"
  let mut found := false
  let mut failed := false
  let mut apart := false
  if most == some 0 then stop 1
  for file in ← grepFiles r files do
    if quiet && found then break
    let name := if isInput file then (r.value? "label").getD "(standard input)".toList else file
    match ← contents file with
    | .error cause =>
      if cause == .isDirectory && r.value? "d" == some "skip".toList then continue
      if !r.has "s" then say (name ++ ": ".toList ++ cause.reason.toList)
      failed := true
    | .ok text =>
      let binary := text.contains '\x00' && !r.has "a" && !r.has "z" &&
        r.value? "binary-files" != some "text".toList
      if binary && (r.has "I" || r.value? "binary-files" == some "without-match".toList) then continue
      let looked := (numberedLines feed text).foldl (Looking.next q s (r.has "v") most name apart)
        ⟨[], 0, none, 0, []⟩
      if 0 < looked.count then found := true
      let ends : Char := if r.has "Z" then '\x00' else '\n'
      if quiet then pure ()
      else if r.has "l" then
        if 0 < looked.count then out (s.coloured "35" name ++ [ends])
      else if r.has "L" then
        if looked.count == 0 then out (s.coloured "35" name ++ [ends])
      else if r.has "c" then
        out ((if names then s.coloured "35" name ++ s.coloured "36" [':'] else []) ++ decimal looked.count ++
          ['\n'])
      else if binary then
        if 0 < looked.count then
          out ((← get).called ++ ": ".toList ++ name ++ ": binary file matches\n".toList)
      else out looked.text.reverse.flatten
      if 0 < looked.count && !silent then apart := true
  setStatus (if failed && !(quiet && found) then 2 else if found then 0 else 1)

/-- `egrep` and `fgrep`, which stand for `grep` with an option. -/
def grepWith (option : String) : Utility := fun args => do
  modify fun j => { j with called := "grep".toList }
  grep (option.toList :: args)

end TlaDigest.Script.Utility
