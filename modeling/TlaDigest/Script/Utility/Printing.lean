import TlaDigest.Script.Condition
import TlaDigest.Script.Job
import TlaDigest.Script.Printf

/-!
# Printing

Programs that print what they are told, or something about the system, and those that only end.
-/

namespace TlaDigest.Script.Utility

open Text JobM

def extraOperand {α : Type} (operand : Octets) (status : Nat) : JobM α :=
  misuse ("extra operand ".toList ++ quotedName operand) status

def missingOperand {α : Type} (status : Nat) : JobM α := misuse "missing operand".toList status

/-! ### Text -/

def printf : Utility := fun args => do
  let args := match args with
    | ['-', '-'] :: rest => rest
    | args => args
  match args with
  | [] => missingOperand 1
  | format :: args =>
    let p := Script.printf .program format args
    out p.out
    for (arg, refusal) in p.refused do
      match refusal with
      | .notNumber => complain (inApostrophes arg ++ ": expected a numeric value".toList) 1
      | .leftover => complain (inApostrophes arg ++ ": value not completely converted".toList) 1
      | .outOfRange => complain (inApostrophes arg ++ ": Numerical result out of range".toList) 1
      | .surplus text => say ("warning: ".toList ++ text ++
          ": character(s) following character constant have been ignored".toList)
    match p.invalid, p.args with
    | some spelling, _ => die (spelling.getD ['%'] ++ ": invalid conversion specification".toList) 1
    | none, arg :: _ =>
      if !(p.took || p.isOver) then
        say ("warning: ignoring excess arguments, starting with ".toList ++ inApostrophes arg)
    | none, [] => return ()

/-- The options at the front of the arguments of `echo`: no line feed, and escapes. -/
def echoOptions : List Octets → Bool × Bool × List Octets
  | arg :: rest =>
    match arg with
    | '-' :: c :: cs =>
      if (c :: cs).all fun c => c == 'n' || c == 'e' || c == 'E' then
        let (bare, escapes, args) := echoOptions rest
        let here := (c :: cs).foldl (fun (s : Bool × Bool) c =>
          (s.1 || c == 'n', if c == 'e' then true else if c == 'E' then false else s.2)) (bare, escapes)
        (here.1, here.2, args)
      else (false, false, arg :: rest)
    | _ => (false, false, arg :: rest)
  | [] => (false, false, [])

def echo : Utility := fun args => do
  let (bare, escapes, args) := echoOptions args
  let text := (args.intersperse [' ']).flatten
  let (text, stopped) := if escapes then unescaped .program (text.length + 1) text else (text, false)
  out (if bare || stopped then text else text ++ ['\n'])

/-- The number of bytes that are enough for anyone who reads without end. -/
def endless : Nat := 2097152

def yes : Utility := fun args => do
  let r ← requestOf [] 1 args
  let text := (if r.operands.isEmpty then ['y'] else (r.operands.intersperse [' ']).flatten) ++ ['\n']
  out (List.replicate (endless / text.length + 1) text).flatten

/-! ### Sequences of numbers -/

/-- A decimal number: a whole number and the places after its point. -/
structure Scaled where
  digits : Int
  places : Nat

def Scaled.ofText? (text : Octets) : Option Scaled :=
  let (negative, rest) := match text with
    | '-' :: rest => (true, rest)
    | '+' :: rest => (false, rest)
    | rest => (false, rest)
  let (whole, rest) := cutAt (fun c => !isDecimalDigit c) rest
  let (part, rest) := match rest with
    | '.' :: rest => cutAt (fun c => !isDecimalDigit c) rest
    | rest => ([], rest)
  let (e, rest) := (exponentAt? ['e', 'E'] rest).getD (0, rest)
  if (whole.isEmpty && part.isEmpty) || !rest.isEmpty then none
  else
    let n : Int := (digitsAt 10 (whole ++ part)).1
    let n := if negative then -n else n
    let places : Int := part.length - e
    some (if 0 ≤ places then ⟨n, places.toNat⟩ else ⟨n * Nat.pow 10 (-places).toNat, 0⟩)

def Scaled.at (x : Scaled) (places : Nat) : Int := x.digits * Nat.pow 10 (places - x.places)

/-- A number with places after the point, at least so wide, by zeros after its sign. -/
def scaledText (width places : Nat) (n : Int) : Octets :=
  let body := pointed places false (decimal n.natAbs)
  let sign := if n < 0 then ['-'] else []
  sign ++ List.replicate (width - sign.length - body.length) '0' ++ body

/-- A format with one directive for numbers with a fraction: what stands before it, the directive, and
    what follows. -/
def sequenceFormat (format : Octets) : JobM (Octets × Directive × Octets) := do
  let shown := "format ".toList ++ quotedName format
  match cutDirective (format.length + 1) format with
  | none => die (shown ++ " has no % directive".toList) 1
  | some (before, rest) =>
    match directive? .program rest [] with
    | none => die (shown ++ " ends in %".toList) 1
    | some (d, after, _) =>
      if !"aAeEfFgG".toList.contains d.letter then
        die (shown ++ " has unknown %".toList ++ [d.letter] ++ " directive".toList) 1
      match cutDirective (after.length + 1) after with
      | some _ => die (shown ++ " has too many % directives".toList) 1
      | none => return (literal before, d, literal after)
where
  /-- The text before a directive, and what follows its mark. -/
  cutDirective : Nat → Octets → Option (Octets × Octets)
    | 0, _ => none
    | _ + 1, [] => none
    | fuel + 1, '%' :: '%' :: cs => (cutDirective fuel cs).map fun (a, b) => ('%' :: '%' :: a, b)
    | _ + 1, '%' :: cs => some ([], cs)
    | fuel + 1, c :: cs => (cutDirective fuel cs).map fun (a, b) => (c :: a, b)
  literal : Octets → Octets
    | '%' :: '%' :: cs => '%' :: literal cs
    | c :: cs => c :: literal cs
    | [] => []

def seqForms : List OptionForm :=
  [valuedOption 'f' "format", valuedOption 's' "separator", plainOption 'w' "equal-width"]

def seq : Utility := fun args => do
  let isNumber (arg : Octets) : Bool := match arg with
    | '-' :: c :: _ => isDecimalDigit c || c == '.'
    | _ => false
  let r ← request ⟨seqForms, false, 1, []⟩ (args.takeWhile fun a => !isNumber a)
  let operands := r.operands ++ args.dropWhile fun a => !isNumber a
  let number (arg : Octets) : JobM Scaled := do
    match Scaled.ofText? arg with
    | some x => return x
    | none => misuse ("invalid floating point argument: ".toList ++ quotedName arg) 1
  let one : Scaled := ⟨1, 0⟩
  let (first, step, last) ← match operands with
    | [] => missingOperand 1
    | [last] => do pure (one, one, ← number last)
    | [first, last] => do pure (← number first, one, ← number last)
    | [first, step, last] => do pure (← number first, ← number step, ← number last)
    | _ :: _ :: _ :: extra :: _ => extraOperand extra 1
  if step.digits == 0 then
    misuse ("invalid Zero increment value: ".toList ++ quotedName ((operands[1]?).getD [])) 1
  let places := max first.places step.places
  let scale := max places last.places
  let (a, b, c) := (first.at scale, step.at scale, last.at scale)
  let count := if (0 < b && c < a) || (b < 0 && a < c) then 0 else ((c - a).tdiv b).toNat + 1
  let values := (List.range count).map fun i => a + b * (i : Nat)
  let cut (n : Int) : Int := n.tdiv (Nat.pow 10 (scale - places))
  let texts ← match r.value? "f" with
    | some format => do
      let (before, d, after) ← sequenceFormat format
      pure (values.map fun n =>
        before ++ d.numeric (.finite (n < 0) n.natAbs (Nat.pow 10 scale)) ++ after)
    | none =>
      let plain := values.map fun n => scaledText 0 places (cut n)
      let width := if r.has "w" then
        max (scaledText 0 places (cut a)).length (scaledText 0 places (cut c)).length else 0
      pure (if width == 0 then plain else values.map fun n => scaledText width places (cut n))
  if !texts.isEmpty then
    line (texts.intersperse ((r.value? "s").getD ['\n'])).flatten

/-! ### Names of files -/

def lastName (ending path : Octets) : Octets :=
  let trimmed := path.reverse.dropWhile (· == '/')
  let name := (trimmed.takeWhile (· != '/')).reverse
  let name := if name.isEmpty && !path.isEmpty then ['/'] else name
  if ending.isSuffixOf name && name != ending then name.take (name.length - ending.length) else name

def directoryOf (path : Octets) : Octets :=
  let above := ((path.reverse.dropWhile (· == '/')).dropWhile (· != '/')).dropWhile (· == '/')
  if !above.isEmpty then above.reverse else if path.head? == some '/' then ['/'] else ['.']

def ending (r : Request) : Octets := [if r.has "z" then '\x00' else '\n']

def basename : Utility := fun args => do
  let forms := [plainOption 'a' "multiple", valuedOption 's' "suffix", plainOption 'z' "zero"]
  let r ← request ⟨forms, false, 1, []⟩ args
  let suffix := r.value? "s"
  match r.operands with
  | [] => missingOperand 1
  | paths =>
    if suffix.isSome || r.has "a" then
      out (paths.flatMap fun p => lastName (suffix.getD []) p ++ ending r)
    else
      match paths with
      | [path] => out (lastName [] path ++ ending r)
      | [path, suffix] => out (lastName suffix path ++ ending r)
      | _ => extraOperand ((paths[2]?).getD []) 1

def dirname : Utility := fun args => do
  let r ← request ⟨[plainOption 'z' "zero"], false, 1, []⟩ args
  if r.operands.isEmpty then missingOperand 1
  out (r.operands.flatMap fun p => directoryOf p ++ ending r)

def placePath (place : Place) : Octets :=
  if place.isEmpty then ['/'] else place.flatMap fun n => '/' :: octets (String.ofList n)

def pwd : Utility := fun args => do
  let r ← requestOf [plainOption 'L' "logical", plainOption 'P' "physical"] 1 args
  if !r.operands.isEmpty then say "ignoring non-option arguments".toList
  let j ← get
  let place := placePath j.tree.working
  let logical := (j.environment.lookup "PWD".toList).getD []
  let holds := logical.head? == some '/' &&
    match j.tree.locate (pathOf logical) with
    | .ok p => p == j.tree.working
    | .error _ => false
  line (if (r.last? ["L", "P"]).map (·.1) == some "L" && holds then logical else place)

/-! ### The system -/

def printenv : Utility := fun args => do
  let r ← request ⟨[plainOption '0' "null"], false, 2, []⟩ args
  let stop : Octets := [if r.has "0" then '\x00' else '\n']
  let environment := (← get).environment
  if r.operands.isEmpty then
    out (environment.flatMap fun (name, value) => name ++ '=' :: value ++ stop)
  else
    for name in r.operands do
      match environment.lookup name with
      | some value => out (value ++ stop)
      | none => worsen 1

/-- What the system calls itself, by the letters that ask for it. -/
def systemNames : List (String × String) :=
  [("s", "Linux"), ("n", "localhost"), ("r", "6.1.0"), ("v", "#1 SMP"), ("m", "x86_64"), ("p", "unknown"),
    ("i", "unknown"), ("o", "GNU/Linux")]

def uname : Utility := fun args => do
  let forms := [plainOption 'a' "all", plainOption 's' "kernel-name", plainOption 'n' "nodename",
    plainOption 'r' "kernel-release", plainOption 'v' "kernel-version", plainOption 'm' "machine",
    plainOption 'p' "processor", plainOption 'i' "hardware-platform", plainOption 'o' "operating-system"]
  let r ← requestOf forms 1 args
  match r.operands with
  | extra :: _ => extraOperand extra 1
  | [] =>
    let asked := systemNames.filter fun (letter, name) =>
      (r.has "a" && name != "unknown") || r.has letter || (r.options.isEmpty && letter == "s")
    line ((asked.map fun n => n.2.toList).intersperse [' ']).flatten

def whoami : Utility := fun args => do
  let r ← requestOf [] 1 args
  match r.operands with
  | extra :: _ => extraOperand extra 1
  | [] => line "root".toList

def id : Utility := fun args => do
  let forms := [plainOption 'u' "user", plainOption 'g' "group", plainOption 'G' "groups",
    plainOption 'n' "name", plainOption 'r' "real"]
  let r ← requestOf forms 1 args
  match r.operands.filter fun user => user != "root".toList with
  | user :: _ => die (quotedName user ++ ": no such user".toList) 1
  | [] =>
    if r.has "u" || r.has "g" || r.has "G" then line (if r.has "n" then "root".toList else ['0'])
    else line "uid=0(root) gid=0(root) groups=0(root)".toList

def tty : Utility := fun args => do
  let r ← requestOf [plainOption 's' "silent", namedOption "quiet" .nothing] 2 args
  match r.operands with
  | extra :: _ => extraOperand extra 2
  | [] =>
    if !(r.has "s" || r.has "quiet") then line "not a tty".toList
    setStatus 1

/-! ### Time -/

/-- An interval of time: a number, perhaps with a letter for its unit, in millionths of a second. -/
def interval? (arg : Octets) : Option Nat := do
  let (x, rest) ← numericAt? arg
  let unit ← match rest with
    | [] => some 1
    | ['s'] => some 1
    | ['m'] => some 60
    | ['h'] => some 3600
    | ['d'] => some 86400
    | _ => none
  match x with
  | .finite false num den => some (num * unit * 1000000 / den)
  | .finite true 0 _ => some 0
  | .infinite false => some 1000000000000
  | _ => none

def sleep : Utility := fun args => do
  let r ← requestOf [] 1 args
  if r.operands.isEmpty then missingOperand 1
  for arg in r.operands do
    if (interval? arg).isNone then say ("invalid time interval ".toList ++ quotedName arg)
  if r.operands.any fun arg => (interval? arg).isNone then hint 1
  pass (total (r.operands.filterMap interval?))

/-! ### Conditions -/

def test : Utility := fun args => do
  match Condition.holds (← get).tree args with
  | .ok p => setStatus (if p then 0 else 1)
  | .error fault =>
    let text := match fault with
      | .unexpected operator => "extra argument ".toList ++ quotedName operator
      | .argumentExpected operator => "missing argument after ".toList ++ quotedName operator
      | .closingExpected => quotedName [')'] ++ " expected".toList
      | .illegalNumber text => "invalid integer ".toList ++ quotedName text
    die text 2

def bracket : Utility := fun args => do
  if args.getLast? == some [']'] then test args.dropLast
  else die ("missing ".toList ++ inApostrophes [']']) 2

end TlaDigest.Script.Utility
