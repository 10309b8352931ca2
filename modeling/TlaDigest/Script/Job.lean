import TlaDigest.FileTree
import TlaDigest.Script.Octets

/-!
# Small programs at work

A job reads its input and files, prints, and ends with a status; what it does to the files stays.
Nothing outside is started.
-/

namespace TlaDigest.Script

open Text

inductive Printing where
  | out (text : Octets)
  | err (text : Octets)
deriving DecidableEq, Repr

structure Job where
  called : Octets
  environment : List (Octets × Octets)
  /-- The permissions that new files do not get. -/
  mask : Nat
  tree : FileTree
  input : Except FileError Octets
  fromFile : Bool
  reads : Bool
  /-- What it has printed, the latest first. -/
  printed : List Printing
  status : Nat
  elapsed : Nat

abbrev JobM := ExceptT Unit (StateM Job)

abbrev Utility := List Octets → JobM Unit

namespace JobM

/-! ### Printing -/

def out (text : Octets) : JobM Unit :=
  modify fun j => if text.isEmpty then j else { j with printed := .out text :: j.printed }

def err (text : Octets) : JobM Unit :=
  modify fun j => if text.isEmpty then j else { j with printed := .err text :: j.printed }

def line (text : Octets) : JobM Unit := out (text ++ ['\n'])

def say (text : Octets) : JobM Unit := do
  err ((← get).called ++ ": ".toList ++ text ++ ['\n'])

def setStatus (n : Nat) : JobM Unit := modify fun j => { j with status := n }

def worsen (n : Nat) : JobM Unit := modify fun j => { j with status := max j.status n }

def complain (text : Octets) (status : Nat) : JobM Unit := do
  say text
  worsen status

def stop {α : Type} (status : Nat) : JobM α := do
  setStatus status
  throw ()

def die {α : Type} (text : Octets) (status : Nat) : JobM α := do
  say text
  stop status

/-- Ends the program, which was called wrong: it points to its help. -/
def hint {α : Type} (status : Nat) : JobM α := do
  err ("Try ".toList ++ inApostrophes ((← get).called ++ " --help".toList) ++
    " for more information.\n".toList)
  stop status

def misuse {α : Type} (text : Octets) (status : Nat) : JobM α := do
  say text
  hint status

/-! ### Reading -/

def readInput : JobM (Except FileError Octets) := do
  let j ← get
  set { j with input := j.input.map fun _ => [], reads := true }
  return j.input

def unread (text : Octets) : JobM Unit := modify fun j => { j with input := .ok text }

def isInput (name : Octets) : Bool :=
  ["-", "/dev/stdin", "/dev/fd/0", "/proc/self/fd/0"].any fun n => n.toList == name

def pathOf (name : Octets) : Path := ⟨plainText name⟩

def contents (name : Octets) : JobM (Except FileError Octets) := do
  if isInput name then readInput
  else return ((← get).tree.read (pathOf name)).map ofBytes

def writeFile (name text : Octets) : JobM (Except FileError Unit) := do
  let j ← get
  match j.tree.write (pathOf name) (toBytes text) with
  | .ok tree =>
    set { j with tree := tree }
    return .ok ()
  | .error cause => return .error cause

def change (f : FileTree → Except FileError FileTree) : JobM (Except FileError Unit) := do
  let j ← get
  match f j.tree with
  | .ok tree =>
    set { j with tree := tree }
    return .ok ()
  | .error cause => return .error cause

def pass (time : Nat) : JobM Unit := modify fun j => { j with elapsed := j.elapsed + time }

end JobM

/-! ### Names in messages -/

def isPlainChar (c : Char) : Bool := isNameChar c || "%+,-./:@^".toList.contains c

def isHidden (c : Char) : Bool := c < ' ' || '\x7f' ≤ c

def hiddenEscape (c : Char) : Octets :=
  match c with
  | '\n' => "\\n".toList
  | '\t' => "\\t".toList
  | '\r' => "\\r".toList
  | c =>
    let digits := Nat.toDigits 8 c.toNat
    '\\' :: List.replicate (3 - digits.length) '0' ++ digits

/-- Text in apostrophes, of which those in the text are escaped. -/
def escapedQuote (text : Octets) : Octets :=
  inApostrophes (text.flatMap fun c =>
    if c == apostrophe then [apostrophe, '\\', apostrophe, apostrophe] else [c])

/-- A name in quotes, as a script would write it: in apostrophes, or in double quotes if there are
    apostrophes in it; what cannot be shown is written as an escape. -/
def quotedName (name : Octets) : Octets :=
  if name.any isHidden then
    let parts := (name.splitBy fun a b => isHidden a == isHidden b).map fun part =>
      if part.any isHidden then '$' :: inApostrophes (part.flatMap hiddenEscape) else inApostrophes part
    (if (name.head?.map isHidden).getD false then [apostrophe, apostrophe] else []) ++ parts.flatten
  else if name.contains apostrophe then
    if name.any fun c => c == '"' || c == '$' || c == '\\' || c == '!' || c == Char.ofNat 96
    then escapedQuote name else '"' :: name ++ ['"']
  else inApostrophes name

/-- A name as messages write it: bare when it is plain, and else in quotes. -/
def shownName (name : Octets) : Octets :=
  if name.all isPlainChar && !name.isEmpty then name else quotedName name

/-! ### Options -/

inductive Takes where
  | nothing
  | value
  /-- A value may follow, in the same argument. -/
  | maybe
deriving DecidableEq, Repr

/-- An option that a program knows, by a letter or by a name. -/
structure OptionForm where
  letter : Option Char
  long : String
  takes : Takes
deriving DecidableEq, Repr

def plainOption (letter : Char) (long : String) : OptionForm := ⟨some letter, long, .nothing⟩

def valuedOption (letter : Char) (long : String) : OptionForm := ⟨some letter, long, .value⟩

def namedOption (long : String) (takes : Takes) : OptionForm := ⟨none, long, takes⟩

namespace OptionForm

/-- The key of an option: its letter, or its name where it has none. -/
def key (f : OptionForm) : String := (f.letter.map String.singleton).getD f.long

end OptionForm

structure Request where
  options : List (String × Octets)
  operands : List Octets

namespace Request

def has (r : Request) (key : String) : Bool := r.options.any fun o => o.1 == key

def value? (r : Request) (key : String) : Option Octets :=
  (r.options.reverse.find? fun o => o.1 == key).map (·.2)

def values (r : Request) (key : String) : List Octets :=
  (r.options.filter fun o => o.1 == key).map (·.2)

def last? (r : Request) (keys : List String) : Option (String × Octets) :=
  r.options.reverse.find? fun o => keys.contains o.1

def adding (r : Request) (option : String × Octets) : Request := { r with options := option :: r.options }

end Request

namespace JobM

structure Reading where
  forms : List OptionForm
  mixed : Bool
  /-- The status of a program that was called wrong. -/
  fault : Nat
  usage : Octets

def Reading.wrong {α : Type} (r : Reading) (text : Octets) : JobM α := do
  say text
  err r.usage
  hint r.fault

/-- The form of an option with a name, which may be cut short where only one can be meant. -/
def longForm (r : Reading) (name : Octets) : JobM OptionForm := do
  let shown := inApostrophes ("--".toList ++ name)
  match r.forms.filter fun f => f.long.toList == name with
  | f :: _ => return f
  | [] =>
    match r.forms.filter fun f => f.long != "" && name.isPrefixOf f.long.toList with
    | [] => r.wrong ("unrecognized option ".toList ++ shown)
    | [f] => return f
    | fs =>
      let possible := fs.flatMap fun f => ' ' :: inApostrophes ("--".toList ++ f.long.toList)
      r.wrong ("option ".toList ++ shown ++ " is ambiguous; possibilities:".toList ++ possible)

def longOption (r : Reading) (text : Octets) (rest : List Octets) :
    JobM ((String × Octets) × List Octets) := do
  let (name, value) := cutAt (· == '=') text
  let f ← longForm r name
  let shown := inApostrophes ("--".toList ++ f.long.toList)
  match f.takes, value, rest with
  | .nothing, [], rest => return ((f.key, []), rest)
  | .nothing, _, _ => r.wrong ("option ".toList ++ shown ++ " doesn't allow an argument".toList)
  | _, _ :: value, rest => return ((f.key, value), rest)
  | .maybe, [], rest => return ((f.key, []), rest)
  | .value, [], value :: rest => return ((f.key, value), rest)
  | .value, [], [] => r.wrong ("option ".toList ++ shown ++ " requires an argument".toList)

/-- The options of one argument, letter by letter, and the arguments after it. -/
def letterOptions (r : Reading) : Octets → List Octets → JobM (List (String × Octets) × List Octets)
  | [], rest => return ([], rest)
  | c :: cs, rest => do
    match r.forms.find? fun f => f.letter == some c with
    | none => r.wrong ("invalid option -- ".toList ++ inApostrophes [c])
    | some f =>
      match f.takes, cs, rest with
      | .nothing, cs, rest =>
        let (more, rest) ← letterOptions r cs rest
        return ((f.key, []) :: more, rest)
      | .maybe, cs, rest => return ([(f.key, cs)], rest)
      | .value, [], value :: rest => return ([(f.key, value)], rest)
      | .value, [], [] =>
        r.wrong ("option requires an argument -- ".toList ++ inApostrophes [c])
      | .value, value, rest => return ([(f.key, value)], rest)

/-- Reads a command line. Each step takes an argument, so their number is fuel enough. -/
def request (r : Reading) (args : List Octets) : JobM Request := go (args.length + 1) args
where
  go : Nat → List Octets → JobM Request
    | 0, args => return ⟨[], args⟩
    | _ + 1, [] => return ⟨[], []⟩
    | fuel + 1, arg :: rest => do
      match arg with
      | ['-', '-'] => return ⟨[], rest⟩
      | '-' :: '-' :: text =>
        let (option, rest) ← longOption r text rest
        return (← go fuel rest).adding option
      | '-' :: c :: cs =>
        let (options, rest) ← letterOptions r (c :: cs) rest
        let more ← go fuel rest
        return { more with options := options ++ more.options }
      | arg =>
        if r.mixed then
          let more ← go fuel rest
          return { more with operands := arg :: more.operands }
        else return ⟨[], arg :: rest⟩

def requestOf (forms : List OptionForm) (fault : Nat) (args : List Octets) : JobM Request :=
  request ⟨forms, true, fault, []⟩ args

/-! ### Files one after the other -/

def inputsOf (names : List Octets) : List Octets := if names.isEmpty then [['-']] else names

def unreadable (name : Octets) (cause : FileError) (status : Nat) : JobM Unit :=
  complain (shownName name ++ ": ".toList ++ cause.reason.toList) status

/-- Does something with each file, or with the input when none is named. -/
def overFiles (names : List Octets) (f : Octets → Octets → JobM Unit) : JobM Unit := do
  for name in inputsOf names do
    match ← contents name with
    | .ok text => f name text
    | .error cause => unreadable name cause 1

/-- The texts of all files that can be read, in one piece. -/
def allText (names : List Octets) : JobM Octets := do
  let texts ← (inputsOf names).mapM fun name => do
    match ← contents name with
    | .ok text => return text
    | .error cause =>
      unreadable name cause 1
      return []
  return texts.flatten

end JobM

def withoutFeed (line : Octets) : Octets := if line.getLast? == some '\n' then line.dropLast else line

def bareLines (text : Octets) : List Octets := (linesOf text).map withoutFeed

def unlines (lines : List Octets) : Octets := lines.flatMap (· ++ ['\n'])

def padLeft (width : Nat) (text : Octets) : Octets := List.replicate (width - text.length) ' ' ++ text

end TlaDigest.Script
