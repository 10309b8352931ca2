import TlaDigest.Exit
import TlaDigest.Script.Source
import TlaDigest.Script.World

/-!
# A shell at work

Its variables and parameters, its descriptors, and how the flow of commands is left. An action
changes the shell, and may leave the flow.
-/

namespace TlaDigest.Script

open Text

structure Binding where
  value : Option Octets
  exported : Bool
  readOnly : Bool
deriving DecidableEq, Repr

inductive Setting where
  /-- A command that fails ends the shell. -/
  | strict
  | literal
  | ignoreEnd
  | interactive
  | monitor
  | idle
  | piped
  | traced
  | verbose
  | vi
  | emacs
  /-- A file that is there is not replaced. -/
  | careful
  /-- Variables that are set go to programs. -/
  | exporting
  | notify
  | bound
  | privileged
  | noLog
  | debug
deriving DecidableEq, Repr

def Setting.table : List (Setting × Option Char × String) := [
  (.strict, some 'e', "errexit"), (.literal, some 'f', "noglob"), (.ignoreEnd, some 'I', "ignoreeof"),
  (.interactive, some 'i', "interactive"), (.monitor, some 'm', "monitor"), (.idle, some 'n', "noexec"),
  (.piped, some 's', "stdin"), (.traced, some 'x', "xtrace"), (.verbose, some 'v', "verbose"),
  (.vi, some 'V', "vi"), (.emacs, some 'E', "emacs"), (.careful, some 'C', "noclobber"),
  (.exporting, some 'a', "allexport"), (.notify, some 'b', "notify"), (.bound, some 'u', "nounset"),
  (.privileged, some 'p', "privileged"), (.noLog, none, "nolog"), (.debug, none, "debug")]

inductive Jump where
  | leave (loops : Nat)
  /-- The next round of a loop starts; those inside it end. -/
  | skip (loops : Nat)
  | back
  /-- The shell ends, with the status that it has. -/
  | exit
  /-- A mistake ends the shell, unless it was made where mistakes are passed over. -/
  | failed
  | killed (signal : Nat)
deriving DecidableEq, Repr

structure Frame where
  bindings : List (Octets × Option Binding)
  settings : Option (List Setting)

structure Background where
  number : Nat
  /-- Its place among those that were not shown when they had ended. -/
  slot : Nat
  exit : Exit
  began : Nat
  ended : Nat
  traps : List (Nat × Octets)
  told : Bool
  shown : Bool
deriving Repr

structure Limit where
  soft : Option Nat
  hard : Option Nat
deriving DecidableEq, Repr

structure Shell where
  /-- The name under which it was started. -/
  name : Octets
  parameters : List Octets
  bindings : List (Octets × Binding)
  functions : List (Octets × Statement)
  aliases : List (Octets × Octets)
  documents : Array Word
  /-- The names of the programs that were found before, the last one first. -/
  known : List Octets
  settings : List Setting
  status : Nat
  substituted : Nat
  /-- The number of the process in which it was started. -/
  process : Nat
  /-- The number of its own process, and those of the processes that started it. -/
  lineage : List Nat
  /-- The processes that it started in the background, and the number of the last one. -/
  background : List Background
  lastBackground : Option Nat
  channels : List (Nat × Channel)
  traps : List (Nat × Octets)
  /-- What functions have to restore, the innermost first. -/
  locals : List Frame
  loops : Nat
  /-- Failures are looked at, so they do not end the shell. -/
  tested : Bool
  /-- Nothing comes after the command that is about to run, so a program takes the place of the shell. -/
  isLast : Bool
  line : Nat
  /-- The command on whose behalf a script is run; messages name it. -/
  context : Octets
  /-- The working directory, by the way that led to it. -/
  directory : Octets
  /-- The next argument that options are read from, and the place in the one before it. -/
  optionIndex : Nat
  optionOffset : Option Nat
  /-- The permissions that new files do not get. -/
  mask : Nat
  /-- The limits that were set, by their letters. -/
  limits : List (Char × Limit)
  niceness : Int
  /-- The time, in millionths of a second. -/
  clock : Nat
  /-- The processes in the background that it belongs to. -/
  owners : List Nat
  faulty : Bool
  world : World

abbrev ShellM := ExceptT Jump (StateM Shell)

namespace Shell

/-! ### Variables -/

def has (sh : Shell) (setting : Setting) : Bool := sh.settings.contains setting

def optionLetters (sh : Shell) : Octets :=
  (Setting.table.reverse.filter fun e => sh.has e.1).filterMap fun e => e.2.1

def binding? (sh : Shell) (name : Octets) : Option Octets := (sh.bindings.lookup name).bind Binding.value

def value? (sh : Shell) (name : Octets) : Option Octets :=
  match name with
  | ['#'] => some (decimal sh.parameters.length)
  | ['?'] => some (decimal sh.status)
  | ['$'] => some (decimal sh.process)
  | ['!'] => sh.lastBackground.map decimal
  | ['-'] => some sh.optionLetters
  | name =>
    match nat? name with
    | some 0 => some sh.name
    | some (n + 1) => sh.parameters[n]?
    | none => sh.binding? name

def separators (sh : Shell) : Octets :=
  ((sh.bindings.lookup "IFS".toList).bind Binding.value).getD [' ', '\t', '\n']

/-- Puts a variable in place. One that is new comes before the others. -/
def bind (sh : Shell) (name : Octets) (b : Option Binding) : Shell :=
  let isKnown := sh.bindings.any fun e => e.1 == name
  { sh with bindings := match b with
    | some b =>
      if isKnown then sh.bindings.map fun e => if e.1 == name then (name, b) else e
      else (name, b) :: sh.bindings
    | none => sh.bindings.filter fun e => e.1 != name }

def bindingOf (sh : Shell) (name : Octets) : Binding :=
  (sh.bindings.lookup name).getD ⟨none, false, false⟩

/-- The row of a variable among those of a shell. Programs get the variables row by row, and in a row
    those that are older first. -/
def rowOf (name : Octets) : Nat :=
  (((name.head?.map Char.toNat).getD 0) * 16 + total (name.map Char.toNat)) % 39

/-- The variables that programs get, with the last one first. -/
def exported (sh : Shell) : List (Octets × Binding) :=
  let marked := sh.bindings.reverse.filter fun e => e.2.exported && e.2.value.isSome
  (marked.mergeSort fun a b => rowOf a.1 ≤ rowOf b.1).reverse

def channel? (sh : Shell) (descriptor : Nat) : Option Channel := sh.channels.lookup descriptor

def connect (sh : Shell) (descriptor : Nat) (channel : Option Channel) : Shell :=
  let others := sh.channels.filter fun e => e.1 != descriptor
  { sh with channels := match channel with
    | some c => (descriptor, c) :: others
    | none => others }

end Shell

namespace ShellM

open Shell

/-! ### Output -/

def brokenPipe : Nat := 13

/-- Writes to a channel. What cannot be written is taken note of. -/
def writeTo (channel : Option Channel) (text : Octets) : ShellM Receipt := do
  let sh ← get
  let (w, receipt) := sh.world.write channel ⟨sh.clock, sh.owners⟩ text
  set { sh with world := w }
  if receipt = .broken then throw (.killed brokenPipe)
  return receipt

def write (descriptor : Nat) (text : Octets) : ShellM Unit := do
  match ← writeTo ((← get).channel? descriptor) text with
  | .refused _ => modify fun sh => { sh with faulty := sh.faulty || descriptor == 1 }
  | _ => return ()

def setStatus (n : Nat) : ShellM Unit := modify fun sh => { sh with status := n }

/-- Reports something on behalf of a command, under the name of the shell. -/
def reportFor (command text : Octets) : ShellM Unit := do
  let sh ← get
  let parts := [sh.name, decimal sh.line] ++ (if command.isEmpty then [] else [command]) ++ [text]
  write 2 ((parts.intersperse ": ".toList).flatten ++ ['\n'])

def report (text : Octets) : ShellM Unit := do
  reportFor (← get).context text

def fail {α : Type} (text : Octets) : ShellM α := do
  report text
  setStatus 2
  throw .failed

/-- Options are read from the first argument again when their number is set. -/
def optionsFrom (name value : Octets) (sh : Shell) : Shell :=
  if name == "OPTIND".toList then
    { sh with optionIndex := max 1 ((nat? value).getD 1), optionOffset := none }
  else sh

def assign (name value : Octets) : ShellM Unit := do
  let sh ← get
  let b := sh.bindingOf name
  if b.readOnly then fail (name ++ ": is read only".toList)
  else
    let b := { b with value := some value, exported := b.exported || sh.has .exporting }
    let sh := if name == "PATH".toList then { sh with known := [] } else sh
    set (optionsFrom name value (sh.bind name (some b)))

/-! ### Parts of an action -/

/-- How a process ended, as a status: a signal counts from 128 on. -/
def statusOf (exit : Exit) : Nat :=
  (exit.code?.orElse fun _ => exit.signal?.map (128 + ·)).getD 0

def startTime : Nat := 300

def pass (time : Nat) : ShellM Unit := modify fun sh => { sh with clock := sh.clock + time }

def waitUntil (time : Nat) : ShellM Unit := modify fun sh => { sh with clock := max sh.clock time }

/-- The signal for the end of a process that was started. -/
def childSignal : Nat := 17

/-- Tells a shell that a process which it started ends at a time, if it has arranged for that. -/
def childEnded (time : Nat) (sh : Shell) : Shell :=
  if ((sh.traps.lookup childSignal).map fun t => !t.isEmpty).getD false then
    let alarm : Alarm := ⟨time, sh.lineage.headD 0, childSignal⟩
    { sh with world := { sh.world with alarms := sh.world.alarms ++ [alarm] } }
  else sh

/-- Runs an action in a process of its own, which shares the world. The answer tells how its flow was left,
    and what it was then. -/
def forkWith (child : ShellM Unit) : ShellM (Except Jump Unit × Shell) := do
  let sh ← get
  let number := sh.world.nextProcess
  let (result, after) := child.run.run
    { sh with
      lineage := number :: sh.lineage
      traps := sh.traps.filter fun t => t.2.isEmpty
      background := [], isLast := false, clock := sh.clock + startTime
      world := { sh.world with nextProcess := number + 1 } }
  let world := { after.world with tree := { after.world.tree with working := sh.world.tree.working } }
  set (childEnded after.clock { sh with world := world, clock := after.clock })
  return (result, after)

def exitOf (result : Except Jump Unit) (after : Shell) : Exit :=
  match result with
  | .error (.killed signal) => .ofSignal signal
  | _ => .ofCode (after.status % 256)

/-- Runs an action in a process of its own. The answer tells how it ended. -/
def fork (child : ShellM Unit) : ShellM Exit := do
  let (result, after) ← forkWith child
  return exitOf result after

/-- Runs an action and then restores something, also when the flow is left. -/
def restoring (restore : Shell → Shell) (action : ShellM Unit) : ShellM Unit := do
  try action
  catch jump =>
    modify restore
    throw jump
  modify restore

/-- Runs an action, whatever it does to the descriptors. -/
def keepingChannels (action : ShellM Unit) : ShellM Unit := do
  let channels := (← get).channels
  restoring (fun sh => { sh with channels := channels }) action

def testing (action : ShellM Unit) : ShellM Unit := do
  let before := (← get).tested
  modify fun sh => { sh with tested := true }
  restoring (fun sh => { sh with tested := before }) action

def inContext (command : Octets) (action : ShellM Unit) : ShellM Unit := do
  let before := (← get).context
  modify fun sh => { sh with context := command }
  restoring (fun sh => { sh with context := before }) action

/-- Ends the shell when the last command failed and nobody looks at it. -/
def checkStrict : ShellM Unit := do
  let sh ← get
  if sh.has .strict && !sh.tested && sh.status != 0 then throw .exit

end ShellM

end TlaDigest.Script
