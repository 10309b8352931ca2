import TlaDigest.Script.Builtin

/-!
# The engine

What running scripts rests on: an engine for the level below, the signals that reach a process, the
end of a process, and what its descriptors are connected to.
-/

namespace TlaDigest.Script

open Text ShellM

/-- What runs statements, expands words and reads scripts. -/
structure Engine extends Expander where
  run (s : Statement) : ShellM Unit
  script (text : Octets) : ShellM Unit

namespace Engine

/-! ### Signals and ends -/

/-- Runs a script that is not part of the flow: the outcome stays what it was. -/
def aside (e : Engine) (text : Octets) : ShellM Unit := do
  let status := (← get).status
  e.script text
  setStatus status

def due? (sh : Shell) : Option Alarm :=
  let mine := sh.world.alarms.filter fun a => sh.lineage.head? == some a.process && a.time ≤ sh.clock
  (mine.mergeSort fun a b => a.time ≤ b.time).head?

/-- Lets the signals that have come do their work; those of one kind count once. Each is taken away, so
    their number bounds the steps. -/
def deliver (e : Engine) : Nat → ShellM Unit
  | 0 => return ()
  | fuel + 1 => do
    let sh ← get
    match due? sh with
    | none => return ()
    | some alarm =>
      let rest := sh.world.alarms.filter fun a =>
        !(a.process == alarm.process && a.signal == alarm.signal && a.time ≤ sh.clock)
      set { sh with world := { sh.world with alarms := rest } }
      match Builtin.reaction sh.traps alarm.signal with
      | .nothing => pure ()
      | .action text => e.aside text
      | .death => throw (.killed alarm.signal)
      deliver e fuel

def attend (e : Engine) : ShellM Unit := do deliver e ((← get).world.alarms.length + 1)

/-- Runs an action to the end of its process, and what was set to be done then. -/
def concluding (e : Engine) (action : ShellM Unit) : ShellM Unit := do
  let ending (jump : Jump) : ShellM Unit :=
    match jump with
    | .killed n => throw (.killed n)
    | _ => return ()
  try action
  catch jump => ending jump
  match (← get).traps.lookup 0 with
  | none => return ()
  | some last =>
    let status := (← get).status
    modify fun sh => { sh with traps := sh.traps.filter fun t => t.1 != 0 }
    try
      e.script last
      setStatus status
    catch jump => ending jump

/-- Takes note of how a process ended. A signal is reported, unless it is one that scripts expect. -/
def settle (exit : Exit) : ShellM Unit := do
  Builtin.tellSignal exit
  setStatus (statusOf exit)

/-! ### Descriptors -/

def namedDescriptor? (name : Octets) : Option Nat :=
  if name == "/dev/stdin".toList then some 0
  else if name == "/dev/stdout".toList then some 1
  else if name == "/dev/stderr".toList then some 2
  else ((after? "/dev/fd/".toList name).orElse fun _ => after? "/proc/self/fd/".toList name).bind nat?

def openFault (creates : Bool) (name : Octets) (cause : FileError) : Octets :=
  let reason := match cause, creates with
    | .notFound, true => "Directory nonexistent"
    | .notDirectory, true => "Directory nonexistent"
    | .notFound, false => "No such file"
    | .notDirectory, false => "No such file"
    | cause, _ => cause.reason
  (if creates then "cannot create " else "cannot open ").toList ++ name ++ ": ".toList ++ reason.toList

/-- What a redirection connects to: a channel or nothing, or why it cannot. -/
abbrev Opened := Except Octets (Option Channel)

def inputOf (text : Octets) : ShellM Opened := do
  let sh ← get
  let (w, channel) := sh.world.addInput ⟨text, 0⟩
  set { sh with world := w }
  return .ok (some channel)

def opened (place : Place) (appends : Bool) : ShellM Opened := do
  let sh ← get
  let (w, channel) := sh.world.addFile place appends
  set { sh with world := w }
  return .ok (some channel)

def openToRead (name : Octets) : ShellM Opened := do
  let tree := (← get).world.tree
  match tree.locate ⟨plainText name⟩ with
  | .error cause => return .error (openFault false name cause)
  | .ok place =>
    match tree.entry? place with
    | some (.device .null) => return .ok (some .nothing)
    | some (.device d) => inputOf (ofBytes (FileTree.bytesOf d))
    | _ =>
      if tree.isThere place then opened place false else return .error (openFault false name .notFound)

/-- Opens a file for writing; it is made if it is not there, and emptied if that is asked for. -/
def openToWrite (mode : FileMode) (name : Octets) : ShellM Opened := do
  let sh ← get
  let tree := sh.world.tree
  let path : Path := ⟨plainText name⟩
  match tree.locate path with
  | .error cause => return .error (openFault true name cause)
  | .ok place =>
    match tree.entry? place with
    | some (.device .full) => return .ok (some .full)
    | some (.device _) => return .ok (some .nothing)
    | entry =>
      if mode == .write && sh.has .careful && entry.isSome then
        return .error (if tree.isDirectory place then openFault false name .isDirectory
          else openFault true name .alreadyThere)
      let empties := mode == .write || mode == .replace
      let bytes := if empties then [] else (tree.file? place).getD []
      match tree.write path bytes with
      | .error cause => return .error (openFault true name cause)
      | .ok tree =>
        set { sh with world := { sh.world with tree := tree } }
        opened place (mode == .append)

def openFile (mode : FileMode) (name : Octets) : ShellM Opened := do
  match namedDescriptor? name, mode with
  | some n, _ =>
    match (← get).channel? n with
    | some c => return .ok (some c)
    | none => return .error (openFault (mode != .read) name .notFound)
  | none, .read => openToRead name
  | none, mode => openToWrite mode name

def openTarget (e : Engine) : Target → ShellM Opened
  | .file mode w => do openFile mode (← Expansion.text e.toExpander w)
  | .document i => do
    let sh ← get
    inputOf (← Expansion.text e.toExpander ((sh.documents[i]?).getD []))
  | .descriptor w => do
    let text ← Expansion.text e.toExpander w
    if text == ['-'] then return .ok none
    else
      match if text.all isDecimalDigit then nat? text else none with
      | none => ShellM.fail "Syntax error: Bad fd number".toList
      | some n =>
        match (← get).channel? n with
        | some c => return .ok (some c)
        | none => return .error (text ++ ": Bad file descriptor".toList)

/-- The messages of the shell are to go where a descriptor goes; when there is none, its last message is
    lost. -/
def silences : Redirect → Bool
  | .mk 2 (.descriptor _) => true
  | _ => false

/-- Connects descriptors one after the other. The answer tells whether all went well. -/
def redirect (e : Engine) : List Redirect → ShellM Bool
  | [] => return true
  | .mk descriptor target :: rest => do
    match ← openTarget e target with
    | .error text =>
      if !silences (.mk descriptor target) then report text
      setStatus 2
      return false
    | .ok channel =>
      modify fun sh => sh.connect descriptor channel
      redirect e rest

end Engine

end TlaDigest.Script
