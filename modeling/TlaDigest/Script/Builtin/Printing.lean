import TlaDigest.Script.Builtin.Answer
import TlaDigest.Script.Condition
import TlaDigest.Script.Printf

/-!
# Printing and testing

Commands that print, test, and move from directory to directory.
-/

namespace TlaDigest.Script.Builtin

open Text ShellM

/-! ### Printing -/

def echo : Command := fun _ args => do
  let (bare, args) := match args with
    | ['-', 'n'] :: rest => (true, rest)
    | args => (false, args)
  let text := (args.intersperse [' ']).flatten
  let (out, stopped) := unescaped .shell (text.length + 1) text
  write 1 (if bare || stopped then out else out ++ ['\n'])
  setStatus 0

def refusalText : Refusal → String
  | .notNumber => ": expected numeric value"
  | .leftover => ": not completely converted"
  | .outOfRange => ": Numerical result out of range"
  | .surplus _ => ""

/-- A refusal that the shell reports: a lone quote is zero here, and what follows a character is left
    out. -/
def isReported (arg : Octets) : Refusal → Bool
  | .surplus _ => false
  | .notNumber => arg.head? != some '"' && arg.head? != some apostrophe
  | _ => true

def printf : Command := fun name args =>
  withOptions name "" "" args fun _ args => do
    match args with
    | [] => mistake name "usage: printf format [arg ...]".toList 2
    | format :: args =>
      let p := Script.printf .shell format args
      let refused := p.refused.filter fun (arg, r) => isReported arg r
      for (arg, r) in refused do
        reportFor name (arg ++ (refusalText r).toList)
      write 1 p.out
      match p.invalid with
      | some (some spelling) => mistake name (spelling ++ ": invalid directive".toList) 2
      | some none => mistake name "missing format character".toList 2
      | none => setStatus (if refused.isEmpty then 0 else 1)

/-! ### Conditions -/

def test : Command := fun name args => do
  match Condition.holds (← get).world.tree args with
  | .ok p => setStatus (if p then 0 else 1)
  | .error fault => mistake name fault.message 2

def bracket : Command := fun name args =>
  if args.getLast? == some [']'] then test name args.dropLast else mistake name "missing ]".toList 2

/-! ### Directories -/

def placeText (place : Place) : Octets :=
  if place.isEmpty then ['/'] else place.flatMap fun n => '/' :: Expansion.nameOctets n

/-- The last of the letters `L` and `P` asks for the place itself, without regard to the way to it. -/
def asksPlace (letters : List (Char × Octets)) : Bool := (letters.getLast?.map (·.1)) == some 'P'

def pwd : Command := fun name args =>
  withOptions name "LP" "" args fun letters _ => do
    let sh ← get
    let text := if asksPlace letters then placeText sh.world.tree.working else sh.directory
    write 1 (text ++ ['\n'])
    setStatus 0

def isDoubled (path : Octets) : Bool := path.takeWhile (· == '/') == ['/', '/']

/-- The path that a way from a directory makes: a step up takes away the step before it. -/
def walked (directory way : Octets) : Octets :=
  let isWhole := way.head? == some '/'
  let start := if isWhole then [] else splitOn '/' directory
  let lead := if isDoubled (if isWhole then way else directory) then ['/'] else []
  let steps := (start ++ splitOn '/' way).foldl (fun (path : List Octets) step =>
    if step.isEmpty || step == ['.'] then path
    else if step == ['.', '.'] then path.dropLast
    else path ++ [step]) []
  lead ++ if steps.isEmpty then ['/'] else steps.flatMap ('/' :: ·)

def isDirectoryAt (tree : FileTree) (path : Octets) : Bool := tree.holdsDirectory ⟨plainText path⟩

/-- A way that starts at a directory which is known, not at one of several. -/
def isDirect (way : Octets) : Bool :=
  match splitOn '/' way with
  | [] :: _ :: _ => true
  | first :: _ => first == ['.'] || first == ['.', '.']
  | [] => false

/-- The directory to which a way leads, from one of the directories of a list, and whether it is told. -/
def findDirectory (sh : Shell) (asked : Octets) : Octets × Bool :=
  let way := if asked.isEmpty then ['.'] else asked
  if isDirect asked then (way, false)
  else
    let listed := splitOn ':' ((sh.binding? "CDPATH".toList).getD [])
    let candidates := listed.map fun dir =>
      if dir.isEmpty then (way, false)
      else ((if dir.getLast? == some '/' then dir else dir ++ ['/']) ++ way, true)
    (candidates.find? fun c => isDirectoryAt sh.world.tree c.1).getD (way, false)

def enter (name asked path : Octets) (physical told : Bool) : ShellM Unit := do
  let sh ← get
  let path := if physical then path else walked sh.directory path
  match sh.world.tree.locate ⟨plainText path⟩ with
  | .ok place =>
    if sh.world.tree.isDirectory place then
      let directory := if physical then placeText place else path
      set { sh with
        world := { sh.world with tree := { sh.world.tree with working := place } }, directory := directory }
      assign "OLDPWD".toList sh.directory
      assign "PWD".toList directory
      modify fun sh =>
        let exported (n : Octets) (sh : Shell) := sh.bind n (some { sh.bindingOf n with exported := true })
        exported "PWD".toList (exported "OLDPWD".toList sh)
      if told then write 1 (directory ++ ['\n'])
      setStatus 0
    else mistake name ("can't cd to ".toList ++ asked) 2
  | .error _ => mistake name ("can't cd to ".toList ++ asked) 2

def cd : Command := fun name args =>
  withOptions name "LP" "" args fun letters args => do
    let sh ← get
    let back := args.head? == some ['-']
    let asked := match args with
      | ['-'] :: _ => (sh.binding? "OLDPWD".toList).getD []
      | dir :: _ => dir
      | [] => (sh.binding? "HOME".toList).getD []
    let (path, told) := findDirectory sh asked
    enter name asked path (asksPlace letters) (told || back)

end TlaDigest.Script.Builtin
