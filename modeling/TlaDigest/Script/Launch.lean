import TlaDigest.Script.Engine
import TlaDigest.Script.Utility

/-!
# Starting programs

A program is found by its name, and runs in the process that asks for it: a small program as a job,
a shell on its script, and a program that starts another one by starting it in its own place.
-/

namespace TlaDigest.Script

open Text ShellM

namespace Launch

/-! ### Finding programs -/

/-- The bytes at the start of a program that was installed; its name follows them. -/
def programMark : List UInt8 := [0x7f, 0x45, 0x4c, 0x46]

inductive Executable where
  | tool (name : Octets)
  | script (path text : Octets)

def executableAt (tree : FileTree) (path : Octets) : Except FileError Executable :=
  match tree.locate ⟨plainText path⟩ with
  | .error cause => .error cause
  | .ok place =>
    if tree.isDirectory place then .error .denied
    else
      match tree.entry? place with
      | some (.file bytes true) =>
        if programMark.isPrefixOf bytes then .ok (.tool (ofBytes (bytes.drop programMark.length)))
        else .ok (.script path (ofBytes bytes))
      | some _ => .error .denied
      | none => .error .notFound

/-- Where a program seeks others that was not told where to. -/
def bareSearch : String := "/bin:/usr/bin"

/-- Where a shell seeks programs that was not told where to. -/
def usualSearch : String := "/usr/local/sbin:/usr/local/bin:/usr/sbin:/usr/bin:/sbin:/bin"

def shellSearch (sh : Shell) : List Octets := ((sh.binding? "PATH".toList).map (splitOn ':')).getD []

def programSearch (sh : Shell) : List Octets :=
  splitOn ':' ((sh.binding? "PATH".toList).getD bareSearch.toList)

def inSearch (dir name : Octets) : Octets := if dir.isEmpty then name else dir ++ '/' :: name

/-- The program that a name stands for. A name without a slash is sought in several directories; what is
    found there but is no program counts as denied. -/
def programFor (tree : FileTree) (search : List Octets) (name : Octets) : Except FileError Executable :=
  if name.contains '/' then executableAt tree name
  else if name.isEmpty then .error .notFound
  else if FileTree.maxName < name.length then .error .nameTooLong
  else
    let found := search.map fun dir => executableAt tree (inSearch dir name)
    match found.find? fun p => p.toOption.isSome with
    | some p => p
    | none => .error (if found.any isDenied then .denied else .notFound)
where
  /-- Something is there, but it is no program. -/
  isDenied : Except FileError Executable → Bool
    | .error cause => cause == .denied
    | .ok _ => false

def pathsOf (sh : Shell) (name : Octets) : List Octets :=
  let candidates := if name.contains '/' then [name] else (shellSearch sh).map fun dir => inSearch dir name
  candidates.filter fun path => (executableAt sh.world.tree path).toOption.isSome

def pathOf? (sh : Shell) (name : Octets) : Option Octets := (pathsOf sh name).head?

def remember (name : Octets) : ShellM Unit := do
  let sh ← get
  if !name.contains '/' && !sh.known.contains name && (pathOf? sh name).isSome then
    set { sh with known := name :: sh.known }

/-! ### Jobs -/

def environmentOf (sh : Shell) : List (Octets × Octets) :=
  (sh.bindings.reverse.filter fun e => e.2.exported).filterMap fun (name, b) => b.value.map (name, ·)

/-- Prints what a job has printed. The answer tells why its output was refused. -/
def print : List Printing → ShellM (Option FileError)
  | [] => return none
  | .out text :: rest => do
    match ← writeTo ((← get).channel? 1) text with
    | .refused cause =>
      let _ ← print rest
      return some cause
    | _ => print rest
  | .err text :: rest => do
    let _ ← writeTo ((← get).channel? 2) text
    print rest

/-- What a program says whose output was refused, line by line, and its status. -/
def refusalText (tool : Octets) (cause : FileError) : List Octets × Nat :=
  let reason := cause.reason.toList
  let isClosed := cause == .badDescriptor
  let usual := "write error: ".toList ++ reason
  match String.ofList tool with
  | "cat" => ([if isClosed then "standard output: ".toList ++ reason else usual], 1)
  | "env" => ([usual], 125)
  | "expr" => ([usual], 3)
  | "grep" => ([usual], 2)
  | "ls" => ([usual], 2)
  | "printenv" => ([usual], 2)
  | "sed" =>
    ([(if isClosed then "couldn't close stdout: " else "couldn't flush stdout: ").toList ++ reason], 4)
  | "sort" => (["fflush failed: 'standard output': ".toList ++ reason, "write error".toList], 2)
  | "tee" => (["'standard output': ".toList ++ reason], 1)
  | "wc" => ([if isClosed then usual else "write error".toList], 1)
  | "yes" => (["standard output: ".toList ++ reason], 1)
  | _ => ([usual], 1)

/-- Runs a job in this process. The answer is what it gives, unless it ended before. -/
def job {α : Type} (tool called : Octets) (action : JobM α) : ShellM (Option α) := do
  let sh ← get
  let channel := sh.channel? 0
  let input := sh.world.unread channel
  let fromFile := match channel with
    | some (.file _) => true
    | _ => false
  let start : Job :=
    ⟨called, environmentOf sh, sh.mask, sh.world.tree, input.map Input.text, fromFile, false, [], 0, 0⟩
  let (result, after) := action.run.run start
  let rest := match after.input with
    | .ok text => text
    | .error _ => []
  let world := if after.reads then sh.world.leave channel rest else sh.world
  let ready := if after.reads then (input.toOption.map Input.ready).getD 0 else 0
  set { sh with world := { world with tree := after.tree }, clock := max sh.clock ready }
  let refused ← print after.printed.reverse
  pass after.elapsed
  setStatus after.status
  match refused with
  | some cause =>
    let (texts, status) := refusalText tool cause
    let _ ← writeTo ((← get).channel? 2) (texts.flatMap fun text => called ++ ": ".toList ++ text ++ ['\n'])
    setStatus status
  | none => pure ()
  return match result with
    | .ok a => some a
    | .error _ => none

def utility (tool called : Octets) (program : Utility) (args : List Octets) : ShellM Unit := do
  if tool == "sleep".toList then modify fun sh => { sh with world := sh.world.settle }
  let _ ← job tool called (program args)

/-! ### Shells -/

structure Start where
  settings : List Setting
  inline : Bool
  args : List Octets

/-- Reads the options at the front of the arguments of a shell. An option that is not known is the answer
    as it is written. -/
def startOptions : Nat → Start → Except Octets Start
  | 0, s => .ok s
  | fuel + 1, s =>
    match s.args with
    | ['-'] :: rest => .ok { s with args := rest }
    | ['-', '-'] :: rest => .ok { s with args := rest }
    | (sign :: c :: cs) :: rest =>
      if sign == '-' || sign == '+' then
        let letters := (c :: cs).filter fun c => c != 'c' && c != 'l'
        match Builtin.setLetters (sign == '-') ⟨s.settings, none, rest⟩ letters with
        | .error text => .error text
        | .ok asked =>
          startOptions fuel ⟨asked.settings, s.inline || (c :: cs).contains 'c', asked.args⟩
      else .ok s
    | _ => .ok s

/-- The path of the working directory: the one that was handed down, if it leads there. -/
def directoryOf (sh : Shell) : Octets :=
  let tree := sh.world.tree
  let given := (sh.binding? "PWD".toList).getD []
  let leads := given.head? == some '/' && match tree.locate ⟨plainText given⟩ with
    | .ok place => place == tree.working
    | .error _ => false
  if leads then given else Builtin.placeText tree.working

/-- The variables that a shell gives itself, whatever it was given. -/
def ownBindings (parent : Nat) : List (Octets × Octets) := [
  ("IFS".toList, [' ', '\t', '\n']), ("OPTIND".toList, ['1']), ("PPID".toList, decimal parent)]

/-- The variables that a shell has when they were not given to it. -/
def usualBindings : List (Octets × Octets) := [
  ("PATH".toList, usualSearch.toList), ("PS1".toList, ['#', ' ']), ("PS2".toList, ['>', ' ']),
  ("PS4".toList, ['+', ' '])]

/-- A shell that starts in this process: its variables are those that it was given, and some of its own. -/
def startOf (outer : Shell) (called : Octets) : Shell :=
  let given := outer.bindings.filter fun e => e.2.exported && e.2.value.isSome && isName e.1
  let directory := directoryOf outer
  let missing := usualBindings.filter fun b => (given.lookup b.1).isNone
  let sh : Shell :=
    { outer with
      name := called, parameters := [], functions := [], aliases := [], documents := #[], known := [], settings := []
      bindings := given.map fun e => (e.1, { e.2 with readOnly := false })
      status := 0, substituted := 0, process := outer.lineage.headD 0, background := []
      lastBackground := none, traps := outer.traps.filter fun t => t.2.isEmpty, locals := [], loops := 0
      tested := false, isLast := false, line := 0, context := [], directory := directory, optionIndex := 1
      optionOffset := none, faulty := false }
  let set (sh : Shell) (b : Octets × Octets) : Shell :=
    sh.bind b.1 (some { sh.bindingOf b.1 with value := some b.2 })
  let sh := (missing ++ ownBindings ((outer.lineage[1]?).getD 1)).foldl set sh
  sh.bind "PWD".toList (some ⟨some directory, true, false⟩)

/-- The shell as a program: a script is an argument, a file or the input. -/
def shell (e : Engine) (called : Octets) (args : List Octets) : ShellM Unit := do
  let outer ← get
  let start := startOf outer called
  let refuse (text : Octets) : ShellM Unit := do
    set start
    ShellM.fail text
  let go (settings : List Setting) (name : Octets) (parameters : List Octets) (text : Octets) : ShellM Unit := do
    set { start with name := name, parameters := parameters, settings := settings, line := 1 }
    e.script text
  let fromInput (settings : List Setting) (parameters : List Octets) : ShellM Unit := do
    let channel := start.channel? 0
    match start.world.unread channel with
    | .ok input =>
      set { start with
        parameters := parameters, settings := Builtin.withSetting settings true .piped, line := 1
        world := start.world.leave channel [], clock := max start.clock input.ready }
      e.script input.text
    | .error _ => return ()
  match startOptions (args.length + 1) ⟨[], false, args⟩ with
  | .error text => refuse ("Illegal option ".toList ++ text)
  | .ok ⟨_, true, []⟩ => refuse "-c requires an argument".toList
  | .ok ⟨settings, true, text :: rest⟩ => go settings (rest.headD called) rest.tail text
  | .ok ⟨settings, false, []⟩ => fromInput settings []
  | .ok ⟨settings, false, file :: rest⟩ =>
    if settings.contains .piped then fromInput settings (file :: rest)
    else
      match outer.world.tree.read ⟨plainText file⟩ with
      | .ok bytes => go settings file rest (ofBytes bytes)
      | .error cause => refuse (Engine.openFault false file cause)

/-! ### Programs that start others -/

/-- How a command is started in this process; the first argument tells what to do when that fails. -/
abbrev Starter := (Octets → FileError → ShellM Unit) → List Octets → ShellM Unit

def exportAll (bindings : List (Octets × Octets)) : ShellM Unit := do
  for (name, value) in bindings do
    modify fun sh => sh.bind name (some { sh.bindingOf name with value := some value, exported := true })

def say (called text : Octets) : ShellM Unit := write 2 (called ++ ": ".toList ++ text ++ ['\n'])

/-- What a program says that could not start another one. -/
def startFault (called : Octets) (what : String) (shown : Octets → Octets) (name : Octets)
    (cause : FileError) : ShellM Unit := do
  let cause := if cause == .notDirectory && !name.contains '/' then .notFound else cause
  say called (what.toList ++ shown name ++ ": ".toList ++ cause.reason.toList)
  setStatus (if cause == .notFound then 127 else 126)

def envRequest (args : List Octets) : JobM Request := do
  let forms := [plainOption 'i' "ignore-environment", plainOption '0' "null", valuedOption 'u' "unset",
    valuedOption 'C' "chdir", valuedOption 'S' "split-string", plainOption 'v' "debug"]
  let r ← JobM.request ⟨forms, false, 125, []⟩ args
  let split := ((r.value? "S").map fun text => (splitOn ' ' text).filter fun w => !w.isEmpty).getD []
  let operands := split ++ r.operands
  let (options, operands) := match operands with
    | ['-'] :: rest => (("i", []) :: r.options, rest)
    | operands => (r.options, operands)
  let isSetting (arg : Octets) : Bool := arg.contains '='
  let command := operands.dropWhile isSetting
  for name in r.values "u" do
    if name.isEmpty || name.contains '=' then
      JobM.die ("cannot unset ".toList ++ quotedName name ++ ": Invalid argument".toList) 125
  if r.has "0" && !command.isEmpty then
    JobM.misuse "cannot specify --null (-0) with command".toList 125
  return ⟨options, operands⟩

def env (start : Starter) (called : Octets) (args : List Octets) : ShellM Unit := do
  match ← job "env".toList called (envRequest args) with
  | none => return ()
  | some r =>
    if r.has "i" then modify fun sh => { sh with bindings := [] }
    for name in r.values "u" do modify fun sh => sh.bind name none
    let isSetting (arg : Octets) : Bool := arg.contains '='
    let settings := r.operands.takeWhile isSetting
    let command := r.operands.dropWhile isSetting
    exportAll (settings.map fun arg =>
      let (name, value) := Builtin.cutAssignment arg
      (name, value.getD []))
    match r.value? "C" with
    | some dir =>
      match (← get).world.tree.locate ⟨plainText dir⟩ with
      | .ok place =>
        if (← get).world.tree.isDirectory place then
          modify fun sh => { sh with world := { sh.world with tree := { sh.world.tree with working := place } } }
        else
          let cause : FileError := if (← get).world.tree.isThere place then .notDirectory else .notFound
          say called ("cannot change directory to ".toList ++ quotedName dir ++ ": ".toList ++
            cause.reason.toList)
          return ← setStatus 125
      | .error cause =>
        say called ("cannot change directory to ".toList ++ quotedName dir ++ ": ".toList ++ cause.reason.toList)
        return ← setStatus 125
    | none => pure ()
    if command.isEmpty then
      let ending := if r.has "0" then '\x00' else '\n'
      let lines := (environmentOf (← get)).flatMap fun (name, value) => name ++ '=' :: value ++ [ending]
      let _ ← job "env".toList called (JobM.out lines)
    else start (startFault called "" quotedName) command

/-- A command line of a program that only starts another one: its options, and the command. -/
def commandRequest (forms : List OptionForm) (fault : Nat) (args : List Octets) : JobM Request :=
  JobM.request ⟨forms, false, fault, []⟩ args

def nohup (start : Starter) (called : Octets) (args : List Octets) : ShellM Unit := do
  let asked : JobM Request := do
    let r ← commandRequest [] 125 args
    if r.operands.isEmpty then JobM.misuse "missing operand".toList 125
    return r
  match ← job "nohup".toList called asked with
  | none => return ()
  | some r =>
    modify fun sh => { sh with traps := (1, []) :: sh.traps.filter fun t => t.1 != 1 }
    start (startFault called "failed to run command " quotedName) r.operands

def nice (start : Starter) (called : Octets) (args : List Octets) : ShellM Unit := do
  let current := (← get).niceness
  let isLevel (arg : Octets) : Bool := match arg with
    | '-' :: c :: cs => (c :: cs).all isDecimalDigit
    | _ => false
  let args := match args with
    | arg :: rest => if isLevel arg then ['-', 'n'] :: arg.drop 1 :: rest else arg :: rest
    | [] => []
  let asked : JobM Request := do
    let r ← commandRequest [valuedOption 'n' "adjustment"] 125 args
    match r.value? "n" with
    | some text =>
      if ((signedAt? text).map fun (_, rest) => rest.isEmpty).getD false then pure ()
      else JobM.die ("invalid adjustment ".toList ++ quotedName text) 125
    | none => pure ()
    if r.operands.isEmpty then
      if r.has "n" then JobM.misuse "a command must be given with an adjustment".toList 125
      JobM.line (numeral current)
    return r
  match ← job "nice".toList called asked with
  | none => return ()
  | some r =>
    if !r.operands.isEmpty then
      let more := (((r.value? "n").bind signedAt?).map (·.1)).getD 10
      modify fun sh => { sh with niceness := max (-20) (min 19 (sh.niceness + more)) }
      start (startFault called "" quotedName) r.operands

def setsid (start : Starter) (called : Octets) (args : List Octets) : ShellM Unit := do
  let asked : JobM Request := do
    let r ← commandRequest [plainOption 'c' "ctty", plainOption 'f' "fork", plainOption 'w' "wait"] 1 args
    if r.operands.isEmpty then JobM.misuse "no command specified".toList 1
    return r
  match ← job "setsid".toList called asked with
  | none => return ()
  | some r => start (startFault called "failed to execute " fun n => n) r.operands

def stdbuf (start : Starter) (called : Octets) (args : List Octets) : ShellM Unit := do
  let asked : JobM Request := do
    let forms := [valuedOption 'i' "input", valuedOption 'o' "output", valuedOption 'e' "error"]
    let r ← commandRequest forms 125 args
    if r.operands.isEmpty then JobM.misuse "missing operand".toList 125
    if r.options.isEmpty then JobM.misuse "you must specify a buffering mode option".toList 125
    return r
  match ← job "stdbuf".toList called asked with
  | none => return ()
  | some r => start (startFault called "failed to run command " quotedName) r.operands

/-- A signal by its number or name, with or without its first letters. -/
def signalOf? (text : Octets) : Option Nat :=
  let upper := text.map upperCase
  Builtin.signalNumber? ((after? "SIG".toList upper).getD upper)

structure TimeLimit where
  limit : Nat
  signal : Nat
  /-- The time after which a command that goes on is ended for good. -/
  patience : Option Nat
  /-- The signal goes to the command alone, not to what it has started. -/
  alone : Bool
  preserves : Bool
  tells : Bool
  command : List Octets

def timeLimit (args : List Octets) : JobM TimeLimit := do
  let forms := [namedOption "preserve-status" .nothing, namedOption "foreground" .nothing,
    valuedOption 'k' "kill-after", valuedOption 's' "signal", plainOption 'v' "verbose"]
  let r ← commandRequest forms 125 args
  let signal ← match r.value? "s" with
    | none => pure 15
    | some text =>
      match signalOf? text with
      | some n => pure n
      | none => JobM.misuse (quotedName text ++ ": invalid signal".toList) 125
  let time (text : Octets) : JobM Nat := do
    match Utility.interval? text with
    | some time => return time
    | none => JobM.misuse ("invalid time interval ".toList ++ quotedName text) 125
  let patience ← (r.value? "k").mapM time
  match r.operands with
  | interval :: name :: rest =>
    let limit ← time interval
    return ⟨limit, signal, patience.filter (0 < ·), r.has "foreground", r.has "preserve-status", r.has "v",
      name :: rest⟩
  | _ => JobM.hint 125

/-- `timeout`: the command gets a signal when its time is over, and what it would have done later does not
    happen. -/
def timeout (start : Starter) (called : Octets) (args : List Octets) : ShellM Unit := do
  match ← job "timeout".toList called (timeLimit args) with
  | none => return ()
  | some t =>
    let before ← get
    let number := before.world.nextProcess
    let stop := before.clock + t.limit
    if 0 < t.limit then
      let alarm : Alarm := ⟨stop, number, t.signal⟩
      modify fun sh => { sh with world := { sh.world with alarms := sh.world.alarms ++ [alarm] } }
    let (result, after) ← forkWith do
      modify fun sh => { sh with owners := number :: sh.owners }
      start (startFault called "failed to run command " quotedName) t.command
    let exit := exitOf result after
    modify fun sh =>
      { sh with world := { sh.world with alarms := sh.world.alarms.filter fun a => a.process != number } }
    if t.limit == 0 || after.clock ≤ stop then setStatus (statusOf exit)
    else
      if t.tells then
        say called ("sending signal ".toList ++ Builtin.signalName t.signal ++ " to command ".toList ++
          quotedName (t.command.headD []))
      let finished := setStatus (if t.preserves then statusOf exit else 124)
      let cut (time : Nat) : ShellM Unit :=
        modify fun sh => { sh with world := sh.world.discard number time, clock := time }
      match Builtin.reaction after.traps t.signal with
      | .action _ =>
        if !t.alone then
          modify fun sh => { sh with clock := stop }
          Builtin.tellSignal (.ofSignal t.signal)
          waitUntil after.clock
        finished
      | .nothing =>
        match t.patience with
        | some more =>
          if after.clock ≤ stop + more then finished
          else
            cut (stop + more)
            throw (.killed 9)
        | none => finished
      | .death =>
        cut stop
        if t.signal == 9 then throw (.killed 9)
        setStatus (if t.preserves then 128 + t.signal else 124)

def which (called : Octets) (args : List Octets) : ShellM Unit := do
  let sh ← get
  let listed : JobM Unit := do
    let r ← commandRequest [plainOption 'a' "", plainOption 's' ""] 2 args
    if r.operands.isEmpty then JobM.setStatus 1
    for name in r.operands do
      match pathsOf sh name with
      | [] => JobM.setStatus 1
      | path :: more =>
        if !r.has "s" then
          JobM.line path
          if r.has "a" then more.forM JobM.line
  let _ ← job "which".toList called listed

/-! ### Many arguments -/

structure ItemForm where
  lines : Bool
  /-- A character ends the items, and nothing else is special. -/
  mark : Option Char
  last : Option Octets

/-- One item, without quotes and backslashes, and what follows. The fault is the quote that is not closed. -/
def quotedItem (blankEnds : Bool) : Option Char → Octets → Octets → Except Char (Octets × Octets)
  | none, [], acc => .ok (acc.reverse, [])
  | some q, [], _ => .error q
  | none, '\\' :: c :: rest, acc => quotedItem blankEnds none rest (c :: acc)
  | none, c :: rest, acc =>
    if c == '\n' || (blankEnds && (c == ' ' || c == '\t')) then .ok (acc.reverse, rest)
    else if c == '"' || c == apostrophe then quotedItem blankEnds (some c) rest acc
    else quotedItem blankEnds none rest (c :: acc)
  | some q, c :: rest, acc =>
    if c == q then quotedItem blankEnds none rest acc
    else if c == '\n' then .error q
    else quotedItem blankEnds (some q) rest (c :: acc)

/-- The items of a text, with those that come before a fault. Each item takes a character. -/
def items (form : ItemForm) : Nat → Octets → List Octets × Option Char
  | 0, _ => ([], none)
  | fuel + 1, text =>
    match form.mark with
    | some mark =>
      let parts := splitOn mark text
      (parts.dropLast ++ (parts.getLast?.filter (· != [])).toList, none)
    | none =>
      let text := text.dropWhile isSpace
      if text.isEmpty then ([], none)
      else
        match quotedItem (!form.lines) none text [] with
        | .error q => ([], some q)
        | .ok (item, rest) =>
          if form.last == some item then ([], none)
          else
            let (more, fault) := items form fuel rest
            (item :: more, fault)

structure Batch where
  command : List Octets
  /-- The text in the command that an item takes the place of. -/
  mark : Option Octets
  items : List Octets
  fault : Option Char
  size : Option Nat
  needsItems : Bool
  tells : Bool

def batchOf (args : List Octets) : JobM Batch := do
  let forms := [plainOption '0' "null", valuedOption 'a' "arg-file", valuedOption 'd' "delimiter",
    valuedOption 'E' "", ⟨some 'e', "eof", .maybe⟩, valuedOption 'I' "", ⟨some 'i', "replace", .maybe⟩,
    valuedOption 'L' "max-lines", ⟨some 'l', "", .maybe⟩, valuedOption 'n' "max-args",
    valuedOption 'P' "max-procs", plainOption 'p' "interactive", plainOption 'r' "no-run-if-empty",
    valuedOption 's' "max-chars", plainOption 't' "verbose", plainOption 'x' "exit"]
  let r ← commandRequest forms 1 args
  let mark := match r.last? ["I", "i"] with
    | some (_, []) => some "\x7b\x7d".toList
    | some (_, text) => some text
    | none => none
  let number (key : String) : JobM (Option Nat) := do
    match r.value? key with
    | none => return none
    | some text =>
      match if text.all isDecimalDigit then nat? text else none with
      | some 0 =>
        JobM.misuse ("value 0 for -".toList ++ key.toList ++ " option should be >= 1".toList) 1
      | some n => return some n
      | none =>
        JobM.misuse ("invalid number ".toList ++ inApostrophes text ++ " for -".toList ++ key.toList ++
          " option".toList) 1
  let size ← number "n"
  let lines ← number "L"
  let delimiter := (r.value? "d").bind fun text => match text with
    | ['\\', 'n'] => some '\n'
    | ['\\', 't'] => some '\t'
    | ['\\', '0'] => some '\x00'
    | c :: _ => some c
    | [] => none
  let text ← match ← JobM.contents ((r.value? "a").getD ['-']) with
    | .ok text => pure text
    | .error _ => pure []
  let form : ItemForm := ⟨mark.isSome || lines.isSome, if r.has "0" then some '\x00' else delimiter, r.value? "E"⟩
  let (list, fault) := items form (text.length + 1) text
  return ⟨if r.operands.isEmpty then ["echo".toList] else r.operands, mark, list, fault,
    if mark.isSome then some 1 else size.orElse fun _ => lines, r.has "r" || mark.isSome, r.has "t"⟩

/-- Items in groups of a size. The number of items bounds the number of groups. -/
def grouped (size : Nat) : Nat → List Octets → List (List Octets)
  | 0, _ => []
  | fuel + 1, list => if list.isEmpty then [] else list.take size :: grouped size fuel (list.drop size)

/-- A text in which another one takes the place of a mark. Each step takes a character. -/
def substituted (mark item : Octets) : Nat → Octets → Octets
  | 0, text => text
  | _ + 1, [] => []
  | fuel + 1, c :: cs =>
    match if mark.isEmpty then none else after? mark (c :: cs) with
    | some rest => item ++ substituted mark item fuel rest
    | none => c :: substituted mark item fuel cs

def xargs (start : Starter) (called : Octets) (args : List Octets) : ShellM Unit := do
  match ← job "xargs".toList called (batchOf args) with
  | none => return ()
  | some b =>
    let groups := if b.items.isEmpty then (if b.needsItems || b.fault.isSome then [] else [[]])
      else grouped (b.size.getD b.items.length) (b.items.length + 1) b.items
    let commandFor (group : List Octets) : List Octets := match b.mark with
      | some mark => b.command.map fun w => substituted mark (group.headD []) (w.length + 1) w
      | none => b.command ++ group
    let rec go : List (List Octets) → Nat → ShellM Nat
      | [], status => return status
      | group :: rest, status => do
        let command := commandFor group
        if b.tells then write 2 ((command.intersperse [' ']).flatten ++ ['\n'])
        let exit ← fork do
          modify fun sh => sh.connect 0 (some .nothing)
          start (startFault called "" fun n => n) command
        let name := command.headD []
        match exit.signal?, statusOf exit with
        | some n, _ =>
          say called (name ++ ": terminated by signal ".toList ++ decimal n)
          return 125
        | none, 255 =>
          say called (name ++ ": exited with status 255; aborting".toList)
          return 124
        | none, 127 => return 127
        | none, 126 => return 126
        | none, 0 => go rest status
        | none, _ => go rest 123
    let status ← go groups 0
    match b.fault with
    | some q =>
      let kind : String := if q == '"' then "double" else "single"
      say called ("unmatched ".toList ++ kind.toList ++
        " quote; by default quotes are special to xargs unless you use the -0 option".toList)
      setStatus 1
    | none => setStatus status

/-! ### Starting -/

def starters : List (String × (Starter → Octets → List Octets → ShellM Unit)) := [
  ("env", env), ("nice", nice), ("nohup", nohup), ("setsid", setsid), ("stdbuf", stdbuf),
  ("timeout", timeout), ("which", fun _ => which), ("xargs", xargs)]

def programNames : List String :=
  ["sh", "dash"] ++ starters.map (·.1) ++ Utility.table.map (·.1)

/-- The program and its argument that the first line of a script asks for. -/
def interpreter? (text : Octets) : Option (List Octets) :=
  match text with
  | '#' :: '!' :: rest =>
    let line := (rest.takeWhile (· != '\n')).dropWhile isSpace
    let name := line.takeWhile fun c => !isSpace c
    let argument := ((line.drop name.length).dropWhile isSpace).reverse.dropWhile isSpace |>.reverse
    if name.isEmpty then none else some (name :: if argument.isEmpty then [] else [argument])
  | _ => none

/-- Starts a program in this process under a name; `again` starts what a program or the first line of a
    script asks for. -/
def startAs (e : Engine) (again : Starter) (fault : Octets → FileError → ShellM Unit) (name : Octets)
    (args : List Octets) : Executable → ShellM Unit
  | .script path text =>
    match interpreter? text with
    | some command => again (fun _ cause => fault name cause) (command ++ path :: args)
    | none => e.concluding (shell e path (path :: args))
  | .tool tool =>
    match Utility.find? tool, starters.find? fun s => s.1.toList == tool with
    | some program, _ => utility tool name program args
    | none, some (_, starter) => starter again name args
    | none, none => e.concluding (shell e name args)

/-- Starts a command in this process on behalf of a program. A program that starts another one takes a
    step, and so does a script, whose first line names one. -/
def start (e : Engine) : Nat → Starter
  | 0, _, _ => return ()
  | _ + 1, _, [] => return ()
  | fuel + 1, fault, name :: args => do
    let sh ← get
    match programFor sh.world.tree (programSearch sh) name with
    | .error cause => fault name cause
    | .ok program => startAs e (start e fuel) fault name args program

def maxStarts : Nat := 100

/-- Why a program is not run, as a shell reports it, with the status. -/
def launchFault (name : Octets) (cause : FileError) : String × Nat :=
  match cause with
  | .notFound => if name.isEmpty then (FileError.denied.reason, 127) else ("not found", 127)
  | .notDirectory => ("not found", 127)
  | cause => (cause.reason, 126)

/-- Runs a command in this process, which is then no shell any more. -/
def execute (e : Engine) (name : Octets) (args : List Octets) : ShellM Unit := do
  let sh ← get
  let fault (name : Octets) (cause : FileError) : ShellM Unit := do
    let (reason, status) := launchFault name cause
    report (name ++ ": ".toList ++ reason.toList)
    setStatus status
  match programFor sh.world.tree (shellSearch sh) name with
  | .error cause => fault name cause
  | .ok program =>
    set { sh with bindings := sh.exported }
    startAs e (start e maxStarts) fault name args program

/-- Runs a program, in a process of its own unless nothing comes after it. -/
def external (e : Engine) (bindings : List (Octets × Octets)) (name : Octets) (args : List Octets) :
    ShellM Unit := do
  let act : ShellM Unit := do
    exportAll bindings
    execute e name args
  if (← get).isLast then
    modify fun sh => { sh with isLast := false }
    act
    throw .exit
  remember name
  Engine.settle (← fork act)

end Launch

end TlaDigest.Script
