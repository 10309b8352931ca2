import TlaDigest.Script.Builtin.Answer

/-!
# Flow, background and signals

Commands for the flow of a script, for the processes in the background, and for signals.
-/

namespace TlaDigest.Script.Builtin

open Text ShellM

/-! ### Flow -/

/-- `break` and `continue`, which do nothing outside a loop. -/
def jump (make : Nat → Jump) : Command := fun name args => do
  let sh ← get
  match args.head?.map number? with
  | some none => illegalNumber name (args.headD [])
  | some (some 0) => illegalNumber name (args.headD [])
  | count =>
    setStatus 0
    let n := (count.getD (some 1)).getD 1
    if 0 < sh.loops then throw (make (min n sh.loops))

def leaving (how : Jump) : Command := fun name args => do
  match args.head?.map number? with
  | some none => illegalNumber name (args.headD [])
  | some (some n) =>
    setStatus n
    throw how
  | none => throw how

/-! ### Signals -/

def lateSignals : List String :=
  ["32", "33", "RTMIN"] ++ (List.range 15).map (fun i => "RTMIN+" ++ toString (i + 1)) ++
    (List.range 14).map (fun i => "RTMAX-" ++ toString (14 - i)) ++ ["RTMAX"]

/-- The names by which a shell knows the signals, from one on. -/
def signalNames : List Octets :=
  (Exit.signalNames.map fun name => if name == "SIGSTKFLT" then "16".toList else name.toList.drop 3) ++
    lateSignals.map String.toList

def signalName : Nat → Octets
  | 0 => "EXIT".toList
  | n + 1 => (signalNames[n]?).getD []

def signalNumber? (text : Octets) : Option Nat :=
  match number? text with
  | some n => if n < 65 then some n else none
  | none =>
    let name := text.map upperCase
    if name == "EXIT".toList then some 0 else (signalNames.findIdx? (· == name)).map (· + 1)

def harmlessSignals : List Nat := [0, 17, 18, 19, 20, 21, 22, 23, 28]

def isStrict (n : Nat) : Bool := n == 9 || n == 19

inductive Reaction where
  | nothing
  | action (text : Octets)
  | death
deriving DecidableEq, Repr

/-- What a signal does to a process that has made arrangements. -/
def reaction (traps : List (Nat × Octets)) (n : Nat) : Reaction :=
  match if isStrict n then none else traps.lookup n with
  | some [] => .nothing
  | some text => .action text
  | none => if harmlessSignals.contains n then .nothing else .death

inductive Errand where
  | send (signal : Nat) (targets : List Octets)
  | list (args : List Octets)
  | misused
  | badOption (letter : Char)
  | badSignal (name : Octets)

def errand (args : List Octets) : Errand :=
  let sent (signal : Nat) (targets : List Octets) : Errand :=
    if targets.isEmpty then .misused else .send signal targets
  match args with
  | ('-' :: text) :: rest =>
    match signalNumber? text with
    | some n => sent n rest
    | none =>
      match options ['l'] ['s'] args with
      | .error c => .badOption c
      | .ok (letters, targets) =>
        match letters.find? fun l => l.1 == 's' with
        | some (_, name) =>
          match signalNumber? name with
          | some n => if letters.any fun l => l.1 == 'l' then .misused else sent n targets
          | none => .badSignal name
        | none => if letters.isEmpty then sent 15 targets else .list targets
  | targets => sent 15 targets

def listSignals (name : Octets) (args : List Octets) : ShellM Unit := do
  match args with
  | [] =>
    write 1 ((['0'] :: signalNames).flatMap (· ++ ['\n']))
    setStatus 0
  | arg :: _ =>
    match number? arg with
    | none => illegalNumber name arg
    | some n =>
      let n := if 128 < n then n - 128 else n
      if 0 < n && n < 65 then
        write 1 (signalName n ++ ['\n'])
        setStatus 0
      else mistake name ("invalid signal number or exit status: ".toList ++ arg) 2

/-- Sends a signal to a process in the background. What it has arranged to do is done in its place by
    `act`, at its end, whose answer tells whether that ended the process. -/
def signalBackground (act : Octets → ShellM Unit) (b : Background) (n : Nat) : ShellM Unit := do
  let sh ← get
  let replace (b : Background) : ShellM Unit := modify fun sh =>
    { sh with background := sh.background.map fun other => if other.number == b.number then b else other }
  match reaction (if sh.clock < b.began then sh.traps.filter fun t => t.2.isEmpty else b.traps) n with
  | .nothing => return ()
  | .death =>
    set { sh with world := sh.world.discard b.number sh.clock }
    replace { b with exit := .ofSignal n, ended := sh.clock }
  | .action text =>
    set { sh with clock := b.ended }
    let (result, after) ← forkWith (act text)
    modify fun now => { now with clock := sh.clock }
    if result matches .error _ then
      modify fun now => { now with world := now.world.discard b.number sh.clock }
      replace { b with exit := exitOf result after, ended := after.clock }

/-- Sends a signal to a process. The answer tells whether there is one. -/
def sendSignal (act : Octets → ShellM Unit) (signal process : Nat) : ShellM Bool := do
  let sh ← get
  if sh.lineage.contains process then
    let alarm : Alarm := ⟨sh.clock, process, signal⟩
    set { sh with world := { sh.world with alarms := sh.world.alarms ++ [alarm] } }
    return true
  else
    match sh.background.find? fun b => b.number == process && sh.clock < b.ended with
    | some b =>
      signalBackground act b signal
      return true
    | none => return false

def kill (act : Octets → ShellM Unit) : Command := fun name args => do
  match errand args with
  | .misused =>
    mistake name ("Usage: kill [-s sigspec | -signum | -sigspec] [pid | job]... or\n".toList ++
      "kill -l [exitstatus]".toList) 2
  | .badOption c => illegalOption name c
  | .badSignal text => mistake name ("invalid signal number or name: ".toList ++ text) 2
  | .list args => listSignals name args
  | .send signal targets =>
    setStatus 0
    for target in targets do
      match number? target, target.head? with
      | some process, _ =>
        if !(← sendSignal act signal process) then
          reportFor name "No such process\n".toList
          setStatus 1
      | none, some '%' =>
        reportFor name "No such process\n".toList
        setStatus 1
      | none, _ => return ← illegalNumber name target

def trap : Command := fun name args =>
  withOptions name "" "" args fun _ args => do
    setStatus 0
    match args with
    | [] =>
      let listed := ((← get).traps.mergeSort fun a b => a.1 ≤ b.1).flatMap fun (n, action) =>
        "trap -- ".toList ++ quotedText action ++ ' ' :: signalName n ++ ['\n']
      write 1 listed
    | first :: others =>
      let resets := others.isEmpty || (number? first).isSome
      let action := if resets || first == ['-'] then none else some first
      for signal in if resets then args else others do
        match signalNumber? signal with
        | none =>
          write 2 (name ++ ": ".toList ++ signal ++ ": bad trap\n".toList)
          setStatus 1
          return
        | some n => modify fun sh =>
          let rest := sh.traps.filter fun t => t.1 != n
          { sh with traps := match action with
            | some action => (n, action) :: rest
            | none => rest }

/-! ### Processes in the background -/

def signalReports : List String := [
  "Hangup", "Interrupt", "Quit", "Illegal instruction", "Trace/breakpoint trap", "Aborted", "Bus error",
  "Floating point exception", "Killed", "User defined signal 1", "Segmentation fault",
  "User defined signal 2", "Broken pipe", "Alarm clock", "Terminated", "Stack fault", "Child exited",
  "Continued", "Stopped (signal)", "Stopped", "Stopped (tty input)", "Stopped (tty output)",
  "Urgent I/O condition", "CPU time limit exceeded", "File size limit exceeded", "Virtual timer expired",
  "Profiling timer expired", "Window changed", "I/O possible", "Power failure", "Bad system call"]

def signalReport (n : Nat) : Octets := ((signalReports[n - 1]?).getD "Unknown signal").toList

/-- Tells which signal ended a process, unless it is one that scripts expect. -/
def tellSignal (exit : Exit) : ShellM Unit := do
  match exit.signal? with
  | some n => if n != 2 && n != brokenPipe then write 2 (signalReport n ++ ['\n'])
  | none => return ()

/-- The first signal before a time for which something is arranged. -/
def interruption? (sh : Shell) (time : Nat) : Option Alarm :=
  let mine := sh.world.alarms.filter fun a => sh.lineage.head? == some a.process && a.time < time
  let acting := mine.filter fun a => match reaction sh.traps a.signal with
    | .nothing => false
    | _ => true
  (acting.mergeSort fun a b => a.time ≤ b.time).head?

/-- Waits for a time, unless a signal comes first. The answer tells whether the time has come. -/
def waitOr (time : Nat) : ShellM Bool := do
  let sh ← get
  match interruption? sh time with
  | some alarm =>
    set { sh with clock := max sh.clock alarm.time, status := 128 + alarm.signal }
    return false
  | none =>
    waitUntil time
    return true

def waitForOne (number : Nat) : ShellM Unit := do
  match (← get).background.find? fun b => b.number == number with
  | none => setStatus 127
  | some b =>
    if ← waitOr b.ended then
      if !b.told then tellSignal b.exit
      modify fun sh => { sh with background := sh.background.map fun other =>
        if other.number == number then { other with told := true } else other }
      setStatus (statusOf b.exit)

def jobAt? (sh : Shell) (text : Octets) : Option Background :=
  match text with
  | '%' :: digits =>
    (number? digits).bind fun n => sh.background.find? fun b => b.slot == n && !b.shown
  | _ => none

def waitFor : Command := fun name args => do
  match args with
  | [] =>
    let sh ← get
    let last := sh.background.foldl (fun time b => max time b.ended) sh.clock
    if ← waitOr last then
      modify fun sh => { sh with background := sh.background.map fun b => { b with told := true } }
      setStatus 0
  | args =>
    for arg in args do
      match number? arg, arg.head? with
      | some n, _ => waitForOne n
      | none, some '%' =>
        match jobAt? (← get) arg with
        | some b => waitForOne b.number
        | none => return ← mistake name ("No such job: ".toList ++ arg) 2
      | none, _ => return ← illegalNumber name arg

def stateText (clock : Nat) (b : Background) : Octets :=
  if clock < b.ended then "Running".toList
  else
    match b.exit.signal?, b.exit.code? with
    | some n, _ => signalReport n
    | none, some 0 => "Done".toList
    | none, some code => "Done(".toList ++ decimal code ++ [')']
    | none, none => "Done".toList

def jobs : Command := fun name args =>
  withOptions name "lp" "" args fun letters args => do
    let sh ← get
    let listed := sh.background.filter fun b => !b.shown
    let isRunning (b : Background) : Bool := sh.clock < b.ended
    let line (i : Nat) (b : Background) : Octets :=
      if letters.any fun l => l.1 == 'p' then decimal b.number ++ ['\n']
      else
        let mark := if i == 0 then '+' else if i == 1 then '-' else ' '
        let number := if letters.any fun l => l.1 == 'l' then decimal b.number ++ [' '] else []
        let state := stateText sh.clock b
        '[' :: decimal b.slot ++ [']', ' ', mark, ' '] ++ number ++ state ++
          List.replicate (27 - state.length) ' ' ++ ['\n']
    match args with
    | arg :: _ =>
      match jobAt? sh arg with
      | some b =>
        write 1 (line 0 b)
        setStatus 0
      | none => mistake name ("No such job: ".toList ++ arg) 2
    | [] =>
      write 1 (listed.zipIdx.flatMap fun (b, i) => line ((listed.take i).countP isRunning) b)
      modify fun now => { now with
        background := now.background.map fun b => { b with shown := b.shown || b.ended ≤ sh.clock }
        status := 0 }

end TlaDigest.Script.Builtin
