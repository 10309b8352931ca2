import TlaDigest.Script.Awk.Reader
import TlaDigest.Script.Engine
import TlaDigest.Script.Job

/-!
# Running programs for records

The rules of a program are tried on one record after the other, before the first and after the last
one those that ask for it. Commands are started by whoever runs the program.
-/

namespace TlaDigest.Script.Awk

open Text

/-! ### The machine -/

inductive Slot where
  | cell (c : Cell)
  | array (id : Nat)
  /-- A name of the caller that has no value yet: it may become an array there. -/
  | borrowed (name : Octets)

abbrev Frame := List (Octets × Slot)

inductive Output where
  | channel (c : Option Channel)
  | command (text : List Octets)

structure Machine where
  program : Program
  called : Octets
  globals : List (Octets × Cell)
  /-- The arrays of names, and what is in them, the latest key first. -/
  names : List (Octets × Nat)
  arrays : List (Nat × List (Octets × Cell))
  nextArray : Nat
  frames : List Frame
  record : Octets
  fields : List Cell
  /-- What is left of the file that is read, and the number of the next operand. -/
  input : Option Octets
  operand : Nat
  named : Bool
  isOver : Bool
  inputs : List (Octets × Octets)
  outputs : List (Octets × Output)
  /-- What is printed but not written yet, the latest first. -/
  pending : List Octets
  /-- The rules for ranges that have begun, by their numbers. -/
  ranges : List Nat
  status : Nat
  seed : Nat

inductive Leap where
  | next
  | nextFile
  | exit
  | back (value : Cell)
  | leave
  | skip
  | fault (text : Octets)

abbrev AwkM := ExceptT Leap (StateT Machine ShellM)

def outside {α : Type} (action : ShellM α) : AwkM α := liftM (m := StateT Machine ShellM) (liftM action)

/-- A command of which only the name and the arguments are known is started in this process. -/
abbrev Start := (Octets → FileError → ShellM Unit) → List Octets → ShellM Unit

/-! ### Variables -/

def Machine.global (m : Machine) (name : String) : Cell := (m.globals.lookup name.toList).getD .unset

def Machine.setGlobal (m : Machine) (name : Octets) (c : Cell) : Machine :=
  { m with globals := (name, c) :: m.globals.filter fun e => e.1 != name }

/-- The text that an argument of a directive stands for, by its letter. -/
def directiveText (d : Directive) (text : Octets) (c : Cell) : Octets :=
  let clipped (n : Int) : Int := max signedBounds.1 (min signedBounds.2 n)
  let n := truncated c.toFloat
  match d.letter with
  | 'd' => d.signed (clipped n)
  | 'i' => d.signed (clipped n)
  | 'o' => d.unsigned 8 (bits n)
  | 'x' => d.unsigned 16 (bits n)
  | 'X' => (d.unsigned 16 (bits n)).map upperCase
  | 'u' => d.unsigned 10 (bits n)
  | 'c' =>
    match c with
    | .number x => d.padded [byteOf (truncated x).toNat]
    | .numeral _ x => d.padded [byteOf (truncated x).toNat]
    | _ => d.padded (text.take 1)
  | 's' => d.padded (match d.precision with
    | some n => text.take n
    | none => text)
  | letter => if "aAeEfFgG".toList.contains letter then d.numeric (numericOf c.toFloat) else d.spelling

def formattedNumber (format : Octets) (x : Float) : Octets :=
  match format with
  | '%' :: rest =>
    match directive? .program rest [] with
    | some (d, rest, _) => directiveText d [] (.number x) ++ rest
    | none => format
  | format => format

/-- A value as text; numbers that are not whole are written by a format. -/
def textBy (format : Octets) : Cell → Octets
  | .unset => []
  | .text s => s
  | .numeral s _ => s
  | .number x => numberText formattedNumber format x

def Machine.text (m : Machine) (c : Cell) : Octets :=
  match c with
  | .number _ => textBy (textBy [] (m.global "CONVFMT")) c
  | c => textBy [] c

def isTrue : Cell → Bool
  | .text s => !s.isEmpty
  | c => c.toFloat != 0

/-! ### Fields -/

/-- The pieces of a text between matches of a pattern. Each step goes on in the text. -/
def splitBy (r : Regex) (s : Regex.Subject) : Nat → Nat → Nat → List Octets
  | 0, start, _ => [s.part start s.text.size]
  | fuel + 1, start, from₀ =>
    match r.searchFrom? s from₀ with
    | none => [s.part start s.text.size]
    | some (a, state) =>
      if state.position == a then
        if s.text.size ≤ a then [s.part start s.text.size] else splitBy r s fuel start (a + 1)
      else s.part start a :: splitBy r s fuel state.position state.position

/-- The fields of a text. A blank asks for words, and nothing for characters. -/
def fieldsBy (separator text : Octets) : List Octets :=
  if text.isEmpty then []
  else
    match separator with
    | [' '] => (text.splitBy fun a b => isBlank a == isBlank b).filter fun part => !part.all isBlank
    | [] => text.map fun c => [c]
    | [c] => splitOn c text
    | separator =>
      let r := Reader.patternOf separator
      splitBy r (r.subject false text) (text.length + 1) 0 0
where
  isBlank (c : Char) : Bool := c == ' ' || c == '\t' || c == '\n'

def Machine.setRecord (m : Machine) (record : Octets) : Machine :=
  let fields := (fieldsBy (textBy [] (m.global "FS")) record).map Cell.ofInput
  { m with record := record, fields := fields }

def Machine.rebuilt (m : Machine) (fields : List Cell) : Machine :=
  let separator := m.text (m.global "OFS")
  { m with fields := fields, record := ((fields.map m.text).intersperse separator).flatten }

/-- Gives a field a value; the record is the field with the number zero. -/
def Machine.setField (m : Machine) (index : Nat) (c : Cell) : Machine :=
  match index with
  | 0 => m.setRecord (m.text c)
  | i + 1 =>
    let fields := m.fields ++ List.replicate (i + 1 - m.fields.length) (.text [])
    m.rebuilt (fields.set i c)

def Machine.setFieldCount (m : Machine) (n : Nat) : Machine :=
  m.rebuilt (m.fields.take n ++ List.replicate (n - m.fields.length) (.text []))

/-! ### Names -/

def value (name : Octets) : AwkM Cell := do
  let m ← get
  match (m.frames.headD []).lookup name with
  | some (.cell c) => return c
  | some _ => return .unset
  | none =>
    if name == "NF".toList then return .ofNat m.fields.length
    else return (m.globals.lookup name).getD .unset

def setValue (name : Octets) (c : Cell) : AwkM Unit := modify fun m =>
  match m.frames with
  | frame :: rest =>
    if frame.any fun e => e.1 == name then
      { m with frames := (frame.map fun e => if e.1 == name then (name, .cell c) else e) :: rest }
    else setOutside m
  | [] => setOutside m
where
  setOutside (m : Machine) : Machine :=
    if name == "NF".toList then m.setFieldCount (truncated c.toFloat).toNat else m.setGlobal name c

/-- The array of a name, which is made if there is none; names that are borrowed are sought at the
    caller. -/
def arrayIn (m : Machine) (name : Octets) : List Frame → Nat × Machine × List Frame
  | [] =>
    match m.names.lookup name with
    | some id => (id, m, [])
    | none => (m.nextArray, { m with names := (name, m.nextArray) :: m.names, nextArray := m.nextArray + 1 }, [])
  | frame :: rest =>
    let placed (id : Nat) : Frame := frame.map fun e => if e.1 == name then (name, .array id) else e
    match frame.lookup name with
    | none =>
      let (id, m, _) := arrayIn m name []
      (id, m, frame :: rest)
    | some (.array id) => (id, m, frame :: rest)
    | some (.borrowed other) =>
      let (id, m, rest) := arrayIn m other rest
      (id, m, placed id :: rest)
    | some (.cell _) => (m.nextArray, { m with nextArray := m.nextArray + 1 }, placed m.nextArray :: rest)
termination_by frames => frames.length

def arrayOf (name : Octets) : AwkM Nat := do
  let m ← get
  let (id, m, frames) := arrayIn m name m.frames
  set { m with frames := frames }
  return id

def Machine.elements (m : Machine) (id : Nat) : List (Octets × Cell) := (m.arrays.lookup id).getD []

def Machine.setElements (m : Machine) (id : Nat) (list : List (Octets × Cell)) : Machine :=
  { m with arrays := (id, list) :: m.arrays.filter fun e => e.1 != id }

/-- The value under a key, which is made if there is none. -/
def elementAt (id : Nat) (key : Octets) : AwkM Cell := do
  let m ← get
  match (m.elements id).lookup key with
  | some c => return c
  | none =>
    set (m.setElements id ((key, .unset) :: m.elements id))
    return .unset

def setElement (id : Nat) (key : Octets) (c : Cell) : AwkM Unit := modify fun m =>
  let list := m.elements id
  if list.any fun e => e.1 == key then
    m.setElements id (list.map fun e => if e.1 == key then (key, c) else e)
  else m.setElements id ((key, c) :: list)

/-! ### Input -/

/-- The record at the front of a text and what follows it; none at the end. -/
def recordAt (separator text : Octets) : Option (Octets × Octets) :=
  match separator with
  | [] =>
    let text := text.dropWhile (· == '\n')
    if text.isEmpty then none
    else
      let r := Reader.patternOf "\n\n+".toList
      match r.searchFrom? (r.subject false text) 0 with
      | some (a, state) => some (text.take a, text.drop state.position)
      | none => some (if text.getLast? == some '\n' then text.dropLast else text, [])
  | [c] =>
    if text.isEmpty then none
    else
      let (record, rest) := cutAt (· == c) text
      some (record, rest.drop 1)
  | separator =>
    if text.isEmpty then none
    else
      let r := Reader.patternOf separator
      match r.searchFrom? (r.subject false text) 0 with
      | some (a, state) => some (text.take a, text.drop (max state.position 1))
      | none => some (text, [])

def Machine.recordSeparator (m : Machine) : Octets := m.text (m.global "RS")

def ownInput : ShellM Octets := do
  let sh ← get
  let channel := sh.channel? 0
  match sh.world.unread channel with
  | .ok input =>
    set { sh with world := sh.world.leave channel [], clock := max sh.clock input.ready }
    return input.text
  | .error _ => return []

def fileText (name : Octets) : ShellM (Except FileError Octets) := do
  if JobM.isInput name then return .ok (← ownInput)
  else return ((← get).world.tree.read ⟨plainText name⟩).map ofBytes

def cannotOpen {α : Type} (name : Octets) (cause : FileError) (what : String) : AwkM α :=
  throw (.fault ("cannot open \"".toList ++ name ++ '"' :: what.toList ++ " (".toList ++ cause.reason.toList ++ [')']))

/-- Gives a variable a value that stands on the command line. -/
def assignText (arg : Octets) : AwkM Unit := do
  let (name, rest) := cutAt (· == '=') arg
  setValue name (.ofInput (Reader.unescape (rest.length + 1) (rest.drop 1)))

/-- Opens the next file that the command line names, or the input when it names none. The answer tells
    whether there is one. Each step takes an operand. -/
def openNext : Nat → AwkM Bool
  | 0 => return false
  | fuel + 1 => do
    let m ← get
    let count := (truncated (m.global "ARGC").toFloat).toNat
    if m.operand < count then
      let id ← arrayOf "ARGV".toList
      let m ← get
      let arg := m.text (((m.elements id).lookup (decimal m.operand)).getD .unset)
      set { m with operand := m.operand + 1 }
      if arg.isEmpty then openNext fuel
      else if isName (cutAt (· == '=') arg).1 && arg.contains '=' then
        assignText arg
        openNext fuel
      else
        match ← outside (fileText arg) with
        | .error cause => cannotOpen arg cause ""
        | .ok text =>
          modify fun m => { m.setGlobal "FILENAME".toList (.text arg) with input := some text, named := true }
          modify fun m => m.setGlobal "FNR".toList (.number 0)
          return true
    else if m.named then return false
    else
      let text ← outside ownInput
      modify fun m => { m with input := some text, named := true }
      return true

/-- The next record of the input. Each file takes a step. -/
def nextRecord : Nat → AwkM (Option Octets)
  | 0 => return none
  | fuel + 1 => do
    let m ← get
    match m.input.bind (recordAt m.recordSeparator) with
    | some (record, rest) =>
      set { m with input := some rest }
      return some record
    | none =>
      if m.isOver then return none
      else if ← openNext ((truncated (m.global "ARGC").toFloat).toNat + 1) then nextRecord fuel
      else
        modify fun m => { m with input := none, isOver := true }
        return none

def maxFiles : Nat := 10000

def counted (names : List String) : AwkM Unit := modify fun m =>
  names.foldl (fun m name => m.setGlobal name.toList (.number ((m.global name).toFloat + 1))) m

/-! ### Output -/

def flush : AwkM Unit := do
  let text := ((← get).pending.reverse).flatten
  modify fun m => { m with pending := [] }
  if !text.isEmpty then
    match ← outside (ShellM.writeTo ((← outside get).channel? 1) text) with
    | .refused cause =>
      modify fun m => { m with status := 2 }
      let called := (← get).called
      outside (ShellM.write 2 (called ++ ": write failure (".toList ++ cause.reason.toList ++ ")\n".toList ++
        called ++ ": close failure on /dev/stdout\n".toList))
    | _ => return ()

def print (text : Octets) : AwkM Unit := modify fun m => { m with pending := text :: m.pending }

/-- Runs a command, with a text as its input or the input of this process. The answer tells how it ended and
    what it printed, if that is `captured`. -/
def runCommand (start : Start) (command : Octets) (input : Option Octets) (captured : Bool) :
    AwkM (Exit × Octets) := do
  flush
  outside do
    let sh ← get
    let (w, channel) := sh.world.addStream
    let (w, source) := w.addInput ⟨input.getD [], 0⟩
    set { sh with world := w }
    let exit ← ShellM.fork do
      if captured then modify fun sh => sh.connect 1 (some channel)
      if input.isSome then modify fun sh => sh.connect 0 (some source)
      start (fun _ _ => ShellM.setStatus 127) ["sh".toList, ['-', 'c'], command]
    return (exit, (← get).world.written channel)

def send (sink : Sink) (name text : Octets) : AwkM Unit := do
  let m ← get
  match sink with
  | .command =>
    match m.outputs.lookup name with
    | some (.command before) =>
      let joined : Octets × Output := (name, .command (text :: before))
      modify fun m => { m with outputs := m.outputs.map fun e => if e.1 == name then joined else e }
    | _ =>
      flush
      modify fun m => { m with outputs := m.outputs ++ [(name, .command [text])] }
  | .file appends =>
    if name == "/dev/stdout".toList || name == ['-'] then print text
    else if name == "/dev/stderr".toList then outside (ShellM.write 2 text)
    else
      match m.outputs.lookup name with
      | some (.channel c) =>
        let _ ← outside (ShellM.writeTo c text)
      | _ =>
        match ← outside (Engine.openFile (if appends then .append else .write) name) with
        | .ok c =>
          modify fun m => { m with outputs := m.outputs ++ [(name, .channel c)] }
          let _ ← outside (ShellM.writeTo c text)
        | .error _ =>
          let tree := (← outside get).world.tree
          let cause := match tree.write ⟨plainText name⟩ [] with
            | .error cause => cause
            | .ok _ => .denied
          cannotOpen name cause " for output"

/-- Closes a file or a command. The answer is the status of a command, and negative when nothing was
    open. -/
def close (start : Start) (name : Octets) : AwkM Int := do
  let m ← get
  let output := m.outputs.lookup name
  let wasRead := m.inputs.any fun e => e.1 == name
  set { m with
    outputs := m.outputs.filter fun e => e.1 != name, inputs := m.inputs.filter fun e => e.1 != name }
  match output with
  | some (.command text) =>
    let (exit, _) ← runCommand start name (some text.reverse.flatten) false
    return ShellM.statusOf exit
  | some (.channel _) => return 0
  | none => return if wasRead then 0 else -1

def closeAll (start : Start) : AwkM Unit := do
  let pending := (← get).pending
  modify fun m => { m with pending := [] }
  for (name, _) in (← get).outputs do
    let _ ← close start name
  modify fun m => { m with pending := m.pending ++ pending }
  flush

/-! ### Functions -/

def fault {α : Type} (text : Octets) : AwkM α := do
  let m ← get
  let shown (name : String) : Octets := m.text (m.global name)
  throw (.fault ("run time error: ".toList ++ text ++ "\n\tFILENAME=\"".toList ++ shown "FILENAME" ++
    "\" FNR=".toList ++ shown "FNR" ++ " NR=".toList ++ shown "NR"))

def formatted (name : String) (format : Octets) (args : List Cell) : AwkM Octets :=
  go (format.length + 1) format args
where
  go : Nat → Octets → List Cell → AwkM Octets
    | 0, _, _ => return []
    | _ + 1, [], _ => return []
    | fuel + 1, '%' :: '%' :: cs, args => return '%' :: (← go fuel cs args)
    | fuel + 1, '%' :: cs, args => do
      let m ← get
      match directive? .program cs (args.map m.text) with
      | none => return '%' :: cs
      | some (d, rest, left) =>
        match args.drop (args.length - left.length) with
        | [] => fault ("not enough arguments passed to ".toList ++ name.toList ++ "(\"".toList ++ format ++
            "\")".toList)
        | arg :: more => return directiveText d (m.text arg) arg ++ (← go fuel rest more)
    | fuel + 1, cs, args => do
      let (plain, rest) := cutAt (· == '%') cs
      return plain ++ (← go fuel rest args)

/-- A replacement: a mark stands for the text that was matched. -/
def replaced (found : Octets) : Octets → Octets
  | '\\' :: '&' :: cs => '&' :: replaced found cs
  | '\\' :: '\\' :: cs => '\\' :: replaced found cs
  | '&' :: cs => found ++ replaced found cs
  | c :: cs => c :: replaced found cs
  | [] => []

/-- A text with matches of a pattern replaced, at most so many, and their number. A match of nothing does
    not count right after another match. Each step goes on in the text. -/
def substituted (r : Regex) (s : Regex.Subject) (replacement : Octets) :
    Nat → Nat → Nat → Option Nat → Octets × Nat
  | 0, _, start, _ => (s.part start s.text.size, 0)
  | _ + 1, 0, start, _ => (s.part start s.text.size, 0)
  | fuel + 1, most + 1, start, last =>
    match r.searchFrom? s start with
    | none => (s.part start s.text.size, 0)
    | some (a, state) =>
      let stop := state.position
      let before := s.part start a
      if a == stop && last == some a then
        if s.text.size ≤ a then (before, 0)
        else
          let (more, n) := substituted r s replacement fuel (most + 1) (a + 1) none
          (before ++ s.part a (a + 1) ++ more, n)
      else
        let own := replaced (s.part a stop) replacement
        if a == stop then
          if s.text.size ≤ a then (before ++ own, 1)
          else
            let (more, n) := substituted r s replacement fuel most (a + 1) none
            (before ++ own ++ (if most == 0 then [] else s.part a (a + 1)) ++
              (if most == 0 then s.part a (a + 1) ++ more else more), n + 1)
        else
          let (more, n) := substituted r s replacement fuel most stop (some stop)
          (before ++ own ++ more, n + 1)

/-- A part of a text, from a place on, which may lie outside. -/
def part (text : Octets) (start : Float) (size : Option Float) : Octets :=
  let rounded (x : Float) : Int := truncated x.round
  let first := rounded start
  let stop : Int := match size with
    | some n => first + rounded n
    | none => text.length + 1
  let low := max 1 first
  let high := min stop (text.length + 1)
  (text.drop (low - 1).toNat).take (high - low).toNat

/-- The place of a text in another one, from one on; zero if it is not there. -/
def indexOf (text wanted : Octets) : Nat :=
  (((List.range (text.length + 1)).find? fun i => wanted.isPrefixOf (text.drop i)).map (· + 1)).getD 0

/-- The next number that nobody can foresee, from a number. -/
def nextSeed (seed : Nat) : Nat := (seed * 1103515245 + 12345) % 2147483648

def systemStatus (exit : Exit) : Nat := ((exit.signal?.map (256 + ·)).orElse fun _ => exit.code?).getD 0

/-! ### Expressions -/

structure Runner where
  eval (e : Expr) : AwkM Cell
  run (a : Action) : AwkM Unit

namespace Runner

def text (r : Runner) (e : Expr) : AwkM Octets := do
  let c ← r.eval e
  return (← get).text c

def float (r : Runner) (e : Expr) : AwkM Float := do return (← r.eval e).toFloat

def key (r : Runner) (list : List Expr) : AwkM Octets := do
  let parts ← list.mapM r.text
  let m ← get
  return (parts.intersperse (m.text (m.global "SUBSEP"))).flatten

def pattern (r : Runner) (e : Expr) : AwkM Regex := do
  match e with
  | .pattern p => return p
  | e => return Reader.patternOf (← r.text e)

/-- Something that can be given a value, once the expressions in it are worked out. -/
inductive Target where
  | name (n : Octets)
  | element (array : Nat) (key : Octets)
  | field (index : Nat)

/-- What an expression stands for that is given a value. -/
def target (r : Runner) (e : Expr) : AwkM Target := do
  match e with
  | .name n => return .name n
  | .element array list =>
    let k ← r.key list
    return .element (← arrayOf array) k
  | .field index =>
    let i := truncated (← r.float index)
    if i < 0 then fault ("negative field index $".toList ++ Script.numeral i) else return .field i.toNat
  | _ => return .name []

def Target.value : Target → AwkM Cell
  | .name n => Awk.value n
  | .element id k => elementAt id k
  | .field 0 => do return .ofInput (← get).record
  | .field (i + 1) => do return ((← get).fields[i]?).getD .unset

def Target.assign (t : Target) (c : Cell) : AwkM Unit :=
  match t with
  | .name n => setValue n c
  | .element id k => setElement id k c
  | .field i => modify fun m => m.setField i c

/-- Compares two values: as numbers if both are, and else as texts. -/
def holds (m : Machine) (c : Comparison) (a b : Cell) : Bool :=
  let decided (less equal : Bool) : Bool := match c with
    | .less => less
    | .lessOrEqual => less || equal
    | .equal => equal
    | .different => !equal
    | .greater => !(less || equal)
    | .greaterOrEqual => !less
  if a.isNumber && b.isNumber then decided (a.toFloat < b.toFloat) (a.toFloat == b.toFloat)
  else decided (m.text a < m.text b) (m.text a == m.text b)

/-- Puts a record where it belongs: in a target, or in place of the record. -/
def received (r : Runner) (into : Option Expr) (record : Octets) : AwkM Unit := do
  match into with
  | some e => (← r.target e).assign (.ofInput record)
  | none => modify fun m => m.setRecord record

/-- The next record of a file or a command that was opened under a name. -/
def readOn (r : Runner) (into : Option Expr) (name : Octets) (counters : List String) : AwkM Cell := do
  let m ← get
  match recordAt m.recordSeparator ((m.inputs.lookup name).getD []) with
  | none => return .number 0
  | some (record, rest) =>
    modify fun m => { m with inputs := m.inputs.map fun e => if e.1 == name then (name, rest) else e }
    r.received into record
    counted counters
    return .number 1

def call (r : Runner) (name : Octets) (args : List Expr) : AwkM Cell := do
  match (← get).program.functions.find? fun f => f.name == name with
  | none => fault ("function ".toList ++ name ++ " never defined".toList)
  | some f =>
    let slots ← args.mapM fun e => do
      match e with
      | .name n =>
        let m ← get
        match (m.frames.headD []).lookup n, m.names.lookup n with
        | some (.array id), _ => return Slot.array id
        | some (.cell .unset), _ => return .borrowed n
        | some (.borrowed _), _ => return .borrowed n
        | some (.cell c), _ => return .cell c
        | none, some id => return .array id
        | none, none =>
          match ← value n with
          | .unset => return .borrowed n
          | c => return .cell c
      | e => return .cell (← r.eval e)
    let slots := slots ++ List.replicate (f.parameters.length - slots.length) (.cell .unset)
    modify fun m => { m with frames := f.parameters.zip slots :: m.frames }
    let leaveFrame : AwkM Unit := modify fun m => { m with frames := m.frames.drop 1 }
    try
      r.run f.body
      leaveFrame
      return .unset
    catch leap =>
      leaveFrame
      match leap with
      | .back c => return c
      | leap => throw leap

def substitute (r : Runner) (all : Bool) (pattern replacement : Expr) (into : Expr) : AwkM Cell := do
  let p ← r.pattern pattern
  let replacement ← r.text replacement
  let t ← r.target into
  let text := (← get).text (← t.value)
  let s := p.subject false text
  let (result, n) := substituted p s replacement (text.length + 2) (if all then text.length + 2 else 1) 0 none
  if 0 < n then t.assign (.text result)
  return .ofNat n

def compute (r : Runner) (start : Start) (name : String) (args : List Expr) : AwkM Cell := do
  let numeric (f : Float → Float) : AwkM Cell := do
    return .number (f (← r.float (args.headD (.number 0))))
  match name, args with
  | "length", [] => return .ofNat (← get).record.length
  | "length", [.name n] =>
    let m ← get
    match (m.frames.headD []).lookup n, m.names.lookup n with
    | some (.array id), _ => return .ofNat (m.elements id).length
    | none, some id => return .ofNat (m.elements id).length
    | _, _ => return .ofNat (m.text (← value n)).length
  | "length", [e] => return .ofNat (← r.text e).length
  | "substr", e :: from₀ :: rest =>
    let text ← r.text e
    let first ← r.float from₀
    let size ← rest.head?.mapM r.float
    return .text (part text first size)
  | "index", [a, b] =>
    let text ← r.text a
    return .ofNat (indexOf text (← r.text b))
  | "split", e :: .name n :: rest =>
    let text ← r.text e
    let parts ← match rest with
      | [.pattern p] => pure (if text.isEmpty then [] else splitBy p (p.subject false text) (text.length + 1) 0 0)
      | [separator] => do pure (fieldsBy (← r.text separator) text)
      | _ => do pure (fieldsBy (textBy [] ((← get).global "FS")) text)
    let id ← arrayOf n
    let list := parts.zipIdx.map fun (p, i) => (decimal (i + 1), Cell.ofInput p)
    modify fun m => m.setElements id list.reverse
    return .ofNat parts.length
  | "sub", [p, t] => r.substitute false p t (.field (.number 0))
  | "sub", [p, t, into] => r.substitute false p t into
  | "gsub", [p, t] => r.substitute true p t (.field (.number 0))
  | "gsub", [p, t, into] => r.substitute true p t into
  | "match", [e, p] =>
    let text ← r.text e
    let p ← r.pattern p
    let (first, size) : Nat × Int := match p.searchFrom? (p.subject false text) 0 with
      | some (a, state) => (a + 1, (state.position : Int) - a)
      | none => (0, -1)
    modify fun m => (m.setGlobal "RSTART".toList (.ofNat first)).setGlobal "RLENGTH".toList
      (.number (Float.ofInt size))
    return .ofNat first
  | "sprintf", e :: rest =>
    let format ← r.text e
    return .text (← formatted "sprintf" format (← rest.mapM r.eval))
  | "tolower", [e] => return .text ((← r.text e).map lowerCase)
  | "toupper", [e] => return .text ((← r.text e).map upperCase)
  | "int", _ => numeric fun x => if x < 0 then x.ceil else x.floor
  | "sqrt", _ => numeric Float.sqrt
  | "exp", _ => numeric Float.exp
  | "log", _ => numeric Float.log
  | "sin", _ => numeric Float.sin
  | "cos", _ => numeric Float.cos
  | "atan2", [a, b] =>
    let y ← r.float a
    return .number (Float.atan2 y (← r.float b))
  | "rand", _ =>
    modify fun m => { m with seed := nextSeed m.seed }
    return .number (Float.ofNat (← get).seed / 2147483648)
  | "srand", _ =>
    let before := (← get).seed
    let seed ← args.head?.mapM r.float
    modify fun m => { m with seed := ((seed.map truncated).getD 0).toNat }
    return .ofNat before
  | "system", [e] =>
    let (exit, _) ← runCommand start (← r.text e) none false
    return .ofNat (systemStatus exit)
  | "close", [e] => return .number (Float.ofInt (← close start (← r.text e)))
  | "fflush", _ =>
    flush
    return .number 0
  | _, _ => return .unset

def value (r : Runner) (start : Start) : Expr → AwkM Cell
  | .number x => return .number x
  | .text s => return .text s
  | .pattern p => do
    let s := p.subject false (← get).record
    return .ofBool (p.searchFrom? s 0).isSome
  | .name n => Awk.value n
  | .element array list => do (← r.target (.element array list)).value
  | .field index => do (← r.target (.field index)).value
  | .tuple list => do return .text (← r.key list)
  | .assigned operation into e => do
    let c ← r.eval e
    let t ← r.target into
    let c ← match operation with
      | none => pure (match c with
        | .unset => .unset
        | c => c)
      | some o => do pure (.number (o.value (← t.value).toFloat c.toFloat))
    t.assign c
    return c
  | .chosen condition yes no => do
    if isTrue (← r.eval condition) then r.eval yes else r.eval no
  | .both a b => do
    if isTrue (← r.eval a) then return .ofBool (isTrue (← r.eval b)) else return .ofBool false
  | .either a b => do
    if isTrue (← r.eval a) then return .ofBool true else return .ofBool (isTrue (← r.eval b))
  | .negated a => do return .ofBool (!isTrue (← r.eval a))
  | .signed changes a => do
    let x ← r.float a
    return .number (if changes then -x else x)
  | .calculated o a b => do
    let x ← r.float a
    return .number (o.value x (← r.float b))
  | .joined a b => do
    let s ← r.text a
    return .text (s ++ (← r.text b))
  | .compared c a b => do
    let x ← r.eval a
    let y ← r.eval b
    return .ofBool (holds (← get) c x y)
  | .fits wanted subject p => do
    let text ← r.text subject
    let p ← r.pattern p
    return .ofBool ((p.searchFrom? (p.subject false text) 0).isSome == wanted)
  | .member list array => do
    let k ← r.key list
    let id ← arrayOf array
    return .ofBool (((← get).elements id).any fun e => e.1 == k)
  | .stepped before up into => do
    let t ← r.target into
    let x := (← t.value).toFloat
    let y := if up then x + 1 else x - 1
    t.assign (.number y)
    return .number (if before then x else y)
  | .called name args => r.call name args
  | .computed name args => r.compute start name args
  | .read into none => do
    match ← nextRecord maxFiles with
    | none => return .number 0
    | some record =>
      r.received into record
      counted ["NR", "FNR"]
      return .number 1
  | .read into (some file) => do
    let name ← r.text file
    if ((← get).inputs.lookup name).isNone then
      match ← outside (fileText name) with
      | .ok text => modify fun m => { m with inputs := (name, text) :: m.inputs }
      | .error _ => return .number (-1)
    r.readOn into name []
  | .readFrom into command => do
    let name ← r.text command
    if ((← get).inputs.lookup name).isNone then
      let (_, text) ← runCommand start name none true
      modify fun m => { m with inputs := (name, text) :: m.inputs }
    r.readOn into name ["NR"]

/-! ### Actions -/

def maxRounds : Nat := 1000000

/-- Runs the body of a loop. The answer tells whether the loop goes on. -/
def round (body : AwkM Unit) : AwkM Bool := do
  try
    body
    return true
  catch leap =>
    match leap with
    | .leave => return false
    | .skip => return true
    | leap => throw leap

def loop (condition : AwkM Bool) (body step : AwkM Unit) : Nat → Bool → AwkM Unit
  | 0, _ => return ()
  | fuel + 1, checks => do
    let goes ← if checks then condition else pure true
    if goes then
      if ← round body then
        step
        loop condition body step fuel true

def each (r : Runner) (name : Octets) (body : Action) : List Octets → AwkM Unit
  | [] => return ()
  | k :: rest => do
    setValue name (.ofInput k)
    if ← round (r.run body) then each r name body rest

def printed (r : Runner) (isFormatted : Bool) (args : List Expr) : AwkM Octets := do
  if isFormatted then
    match args with
    | [] => return []
    | e :: rest =>
      let format ← r.text e
      formatted "printf" format (← rest.mapM r.eval)
  else
    let cells ← args.mapM r.eval
    let m ← get
    let shown (c : Cell) : Octets := match c with
      | .number x => numberText formattedNumber (textBy [] (m.global "OFMT")) x
      | c => m.text c
    let body := if args.isEmpty then m.record
      else ((cells.map shown).intersperse (m.text (m.global "OFS"))).flatten
    return body ++ m.text (m.global "ORS")

def action (r : Runner) : Action → AwkM Unit
  | .block list => list.forM r.run
  | .value e => do
    let _ ← r.eval e
  | .print isFormatted args sink => do
    let text ← r.printed isFormatted args
    match sink with
    | none => print text
    | some (kind, e) => send kind (← r.text e) text
  | .branch condition yes no => do
    if isTrue (← r.eval condition) then r.run yes
    else
      match no with
      | some no => r.run no
      | none => return ()
  | .loop condition checksFirst body step =>
    let holds : AwkM Bool := match condition with
      | some e => do return isTrue (← r.eval e)
      | none => return true
    let after : AwkM Unit := match step with
      | some a => r.run a
      | none => return ()
    loop holds (r.run body) after maxRounds checksFirst
  | .each name array body => do
    let id ← arrayOf array
    r.each name body (((← get).elements id).map (·.1))
  | .delete array none => do
    let id ← arrayOf array
    modify fun m => m.setElements id []
  | .delete array (some list) => do
    let k ← r.key list
    let id ← arrayOf array
    modify fun m => m.setElements id ((m.elements id).filter fun e => e.1 != k)
  | .leave => throw .leave
  | .skip => throw .skip
  | .next => throw .next
  | .nextFile => throw .nextFile
  | .exit status => do
    match status with
    | some e =>
      let n := truncated (← r.float e)
      modify fun m => { m with status := (n.emod 256).toNat }
    | none => pure ()
    throw .exit
  | .back none => throw (.back .unset)
  | .back (some e) => do
    let c ← r.eval e
    throw (.back c)

end Runner

def runner (start : Start) : Nat → Runner
  | 0 => ⟨fun _ => fault "nested too deep".toList, fun _ => fault "nested too deep".toList⟩
  | depth + 1 =>
    let r := runner start depth
    ⟨r.value start, r.action⟩

def maxDepth : Nat := 4000

/-! ### Programs -/

/-- Runs the action of a rule; without one the record is printed. -/
def perform (r : Runner) (action : Option Action) : AwkM Unit :=
  match action with
  | some a => r.run a
  | none => r.run (.print false [] none)

def tryRules (r : Runner) : List (Rule × Nat) → AwkM Unit
  | [] => return ()
  | (rule, i) :: rest => do
    match rule.selector with
    | .always => perform r rule.action
    | .each e => if isTrue (← r.eval e) then perform r rule.action
    | .range start stop =>
      let begun := (← get).ranges.contains i
      if begun || isTrue (← r.eval start) then
        if isTrue (← r.eval stop) then modify fun m => { m with ranges := m.ranges.filter (· != i) }
        else if !begun then modify fun m => { m with ranges := i :: m.ranges }
        perform r rule.action
    | .first => pure ()
    | .last => pure ()
    tryRules r rest

def records (r : Runner) (rules : List (Rule × Nat)) : Nat → AwkM Unit
  | 0 => return ()
  | fuel + 1 => do
    match ← nextRecord maxFiles with
    | none => return ()
    | some record =>
      modify fun m => m.setRecord record
      counted ["NR", "FNR"]
      try tryRules r rules
      catch leap =>
        match leap with
        | .next => pure ()
        | .nextFile => modify fun m => { m with input := some [] }
        | leap => throw leap
      records r rules fuel

/-- Runs the rules for the start, for the records and for the end. -/
def rulesInOrder (r : Runner) (rules : List Rule) : AwkM Unit := do
  let ending (leap : Leap) : AwkM Unit := match leap with
    | .exit => return ()
    | leap => throw leap
  let isFirst (rule : Rule) : Bool := rule.selector matches .first
  let isLast (rule : Rule) : Bool := rule.selector matches .last
  let others := rules.filter fun rule => !isFirst rule && !isLast rule
  let mut left := false
  try (rules.filter isFirst).forM fun rule => perform r rule.action
  catch leap =>
    ending leap
    left := true
  if others.isEmpty && !rules.any isLast then return ()
  if !left then
    try records r others.zipIdx Runner.maxRounds
    catch leap => ending leap
  try (rules.filter isLast).forM fun rule => perform r rule.action
  catch leap => ending leap

def complete (start : Start) (program : Program) : AwkM Unit := do
  let r := runner start maxDepth
  try
    rulesInOrder r program.rules
    closeAll start
  catch leap =>
    match leap with
    | .fault text =>
      let called := (← get).called
      outside (ShellM.write 2 (called ++ ": ".toList ++ text ++ ['\n']))
      closeAll start
      modify fun m => { m with status := 2 }
    | _ => closeAll start

/-! ### The command line -/

structure Request where
  separator : Option Octets
  assignments : List Octets
  files : List Octets
  operands : List Octets

/-- Reads the options of a command line; an option that is not known is the fault. Each step takes an
    argument. -/
def Request.ofArgs : Nat → Request → List Octets → Except Octets Request
  | 0, r, args => .ok { r with operands := args }
  | _ + 1, r, [] => .ok r
  | fuel + 1, r, arg :: rest =>
    let valued (set : Octets → Request) (value : Octets) : Except Octets Request :=
      match value, rest with
      | [], v :: rest => ofArgs fuel (set v) rest
      | [], [] => .error arg
      | v, rest => ofArgs fuel (set v) rest
    match arg with
    | ['-', '-'] => .ok { r with operands := rest }
    | '-' :: 'F' :: value => valued (fun v => { r with separator := some v }) value
    | '-' :: 'v' :: value => valued (fun v => { r with assignments := r.assignments ++ [v] }) value
    | '-' :: 'f' :: value => valued (fun v => { r with files := r.files ++ [v] }) value
    | '-' :: 'W' :: value => valued (fun _ => r) value
    | '-' :: _ :: _ => .error arg
    | _ => .ok { r with operands := arg :: rest }

def usualGlobals : List (Octets × Cell) :=
  let texts : List (String × String) := [("CONVFMT", "%.6g"), ("FILENAME", ""), ("FS", " "), ("OFMT", "%.6g"),
    ("OFS", " "), ("ORS", "\n"), ("RS", "\n"), ("SUBSEP", "\x1c")]
  let numbers : List (String × Float) := [("FNR", 0), ("NR", 0), ("RLENGTH", -1), ("RSTART", 0)]
  (texts.map fun (name, text) => (name.toList, .text text.toList)) ++
    numbers.map fun (name, x) => (name.toList, .number x)

/-- The functions that an expression or a part of it calls, up to a depth. -/
def calledIn : Nat → Expr → List Octets
  | 0, _ => []
  | fuel + 1, e =>
    let go := calledIn fuel
    match e with
    | .element _ key => key.flatMap go
    | .field a => go a
    | .tuple items => items.flatMap go
    | .assigned _ a b => go a ++ go b
    | .chosen a b c => go a ++ go b ++ go c
    | .both a b => go a ++ go b
    | .either a b => go a ++ go b
    | .negated a => go a
    | .signed _ a => go a
    | .calculated _ a b => go a ++ go b
    | .joined a b => go a ++ go b
    | .compared _ a b => go a ++ go b
    | .fits _ a b => go a ++ go b
    | .member key _ => key.flatMap go
    | .called name args => name :: args.flatMap go
    | .computed _ args => args.flatMap go
    | _ => []

def calledBy : Nat → Action → List Octets
  | 0, _ => []
  | fuel + 1, a =>
    let exprs (list : List Expr) : List Octets := list.flatMap (calledIn fuel)
    match a with
    | .block list => list.flatMap (calledBy fuel)
    | .value e => exprs [e]
    | .print _ args _ => exprs args
    | .branch e yes no => exprs [e] ++ calledBy fuel yes ++ no.toList.flatMap (calledBy fuel)
    | .loop e _ body step => exprs e.toList ++ calledBy fuel body ++ step.toList.flatMap (calledBy fuel)
    | .each _ _ body => calledBy fuel body
    | .exit e => exprs e.toList
    | .back e => exprs e.toList
    | _ => []

def Program.missing? (p : Program) : Option Octets :=
  let actions := p.rules.filterMap Rule.action ++ p.functions.map Function.body
  (actions.flatMap (calledBy Reader.maxNesting)).find? fun name => !p.functions.any fun f => f.name == name

def Machine.start (called : Octets) (program : Program) (environment : List (Octets × Octets))
    (operands : List Octets) : Machine :=
  let arguments := ("awk".toList :: operands).zipIdx.map fun (arg, i) => (decimal i, Cell.ofInput arg)
  { program := program, called := called
    globals := ("ARGC".toList, .ofNat arguments.length) :: usualGlobals
    names := [("ENVIRON".toList, 0), ("ARGV".toList, 1)]
    arrays := [(0, environment.map fun (name, value) => (name, .ofInput value)), (1, arguments)]
    nextArray := 2, frames := [], record := [], fields := [], input := none, operand := 1, named := false
    isOver := false, inputs := [], outputs := [], pending := [], ranges := [], status := 0, seed := 1 }

def separatorText (text : Octets) : Octets :=
  if text == ['t'] then ['\t'] else Reader.unescape (text.length + 1) text

def execute (start : Start) (called : Octets) (environment : List (Octets × Octets)) (r : Request)
    (text : Octets) (operands : List Octets) : ShellM Unit := do
  let complain (text : Octets) : ShellM Unit := do
    ShellM.write 2 (called ++ ": ".toList ++ text ++ ['\n'])
    ShellM.setStatus 2
  let lines := text.count '\n' + 2
  match Program.ofText text with
  | .error fault => complain ("line ".toList ++ decimal fault.line ++ ": ".toList ++ fault.text)
  | .ok program =>
    match program.missing? with
    | some name =>
      complain ("line ".toList ++ decimal lines ++ ": function ".toList ++ name ++ " never defined".toList)
    | none =>
      let action : AwkM Unit := do
        match r.separator with
        | some s => modify fun m => m.setGlobal "FS".toList (.text (separatorText s))
        | none => pure ()
        r.assignments.forM assignText
        complete start program
      let (_, m) ← action.run.run (Machine.start called program environment operands)
      ShellM.setStatus m.status

/-- The text of a program in some files, or why one cannot be read. -/
def programText : List Octets → ShellM (Except (Octets × FileError) Octets)
  | [] => return .ok []
  | name :: rest => do
    match ← fileText name with
    | .error cause => return .error (name, cause)
    | .ok text =>
      match ← programText rest with
      | .ok more => return .ok (text ++ '\n' :: more)
      | .error fault => return .error fault

def awk (start : Start) (environment : List (Octets × Octets)) (called : Octets) (args : List Octets) :
    ShellM Unit := do
  let refuse (text : Octets) : ShellM Unit := do
    ShellM.write 2 (called ++ ": ".toList ++ text ++ ['\n'])
    ShellM.setStatus 2
  match Request.ofArgs (args.length + 1) ⟨none, [], [], []⟩ args with
  | .error arg => refuse ("not an option: ".toList ++ arg)
  | .ok r =>
    match r.files, r.operands with
    | [], [] =>
      ShellM.write 2 "Usage: mawk [Options] [Program] [file ...]\n".toList
      ShellM.setStatus 2
    | [], text :: operands => execute start called environment r text operands
    | files, operands =>
      match ← programText files with
      | .error (name, cause) =>
        refuse ("cannot open \"".toList ++ name ++ "\" (".toList ++ cause.reason.toList ++ [')'])
      | .ok text => execute start called environment r text operands

end TlaDigest.Script.Awk
