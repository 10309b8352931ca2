import TlaDigest.Script.Launch

/-!
# Running scripts

Each construct is described on the engine of the level below, so that the depth of nesting bounds
the recursion; loops have a bound of their own.
-/

namespace TlaDigest.Script

open Text ShellM

namespace Interpreter

/-! ### Simple commands -/

/-- What stands before commands that are shown. It is expanded, and nothing is shown meanwhile. -/
def traceMark (e : Engine) : ShellM Octets := do
  let before ← get
  let mark := (before.binding? "PS4".toList).getD []
  match if mark.contains '$' then Word.ofDocument? mark else none with
  | none => return mark
  | some w =>
    set { before with settings := before.settings.filter fun s => s != Setting.traced }
    let text ← Expansion.text e.toExpander w
    modify fun sh => { sh with settings := before.settings }
    return text

def trace (e : Engine) (shownOn : Option Channel) (bindings : List (Octets × Octets))
    (words : List Octets) : ShellM Unit := do
  if (← get).has .traced then
    let shown := (bindings.map fun (name, value) => name ++ '=' :: value) ++ words
    let mark ← traceMark e
    let _ ← writeTo shownOn (mark ++ (shown.intersperse [' ']).flatten ++ ['\n'])

def assignments (e : Engine) (list : List (Octets × Word)) : ShellM (List (Octets × Octets)) :=
  list.mapM fun (name, w) => do
    let value ← Expansion.value e.toExpander w
    return (name, value)

/-- The name and the value of a word that is written like an assignment. -/
def assignmentOf? (w : Word) : Option (Octets × Word) :=
  match w with
  | .literal text false :: pieces =>
    match cutAt (· == '=') text with
    | (name, '=' :: rest) =>
      if !isName name then none
      else some (name, if rest.isEmpty then pieces else .literal rest false :: pieces)
    | _ => none
  | _ => none

/-- The fields of a command. Some commands take assignments, which are not split. -/
def commandFields (e : Engine) (words : List Word) : ShellM (List Octets) := do
  match words with
  | [] => return []
  | first :: rest =>
    let front ← Expansion.fields e.toExpander [first]
    if (front.head?.map Builtin.takesAssignments).getD false then
      let more ← rest.mapM fun w => do
        match assignmentOf? w with
        | some (name, value) => return [name ++ '=' :: (← Expansion.value e.toExpander value)]
        | none => Expansion.fields e.toExpander [w]
      return front ++ more.flatten
    else return front ++ (← Expansion.fields e.toExpander rest)

def maxCalls : Nat := 1000

/-- Calls a function. What it declares local is restored at its end, and so is where options are read. -/
def call (e : Engine) (body : Statement) (args : List Octets) : ShellM Unit := do
  let before ← get
  if maxCalls ≤ before.locals.length then
    ShellM.fail ("Maximum function recursion depth (".toList ++ decimal maxCalls ++ ") reached".toList)
  set { before with
    parameters := args, locals := ⟨[], none⟩ :: before.locals, loops := 0, optionIndex := 1
    optionOffset := none }
  let restore (sh : Shell) : Shell :=
    let frame := sh.locals.headD ⟨[], none⟩
    let sh := frame.bindings.foldl (fun sh (name, b) => sh.bind name b) sh
    { sh with
      parameters := before.parameters, locals := before.locals, loops := before.loops
      settings := frame.settings.getD sh.settings, optionIndex := before.optionIndex
      optionOffset := before.optionOffset }
  restoring restore do
    try e.run body
    catch jump =>
      match jump with
      | .back => pure ()
      | jump => throw jump

/-- The file of a script that is to be read; a name without a slash is sought like a program. -/
def scriptFile (sh : Shell) (name : Octets) : Option (List UInt8) :=
  let read (path : Octets) : Option (List UInt8) := (sh.world.tree.read ⟨plainText path⟩).toOption
  if name.contains '/' then read name
  else ((Launch.shellSearch sh).map fun dir => read (Launch.inSearch dir name)).findSome? id

def describe (sh : Shell) (name : Octets) : Option Octets :=
  if StatementReader.keywords.any fun k => k.toList == name then some " is a shell keyword".toList
  else
    match sh.aliases.lookup name with
    | some text => some (" is an alias for ".toList ++ text)
    | none =>
      if (sh.functions.lookup name).isSome then some " is a shell function".toList
      else if Builtin.isSpecial name then some " is a special shell builtin".toList
      else if Builtin.isBuiltin name then some " is a shell builtin".toList
      else none

def typeCommand (names : List Octets) : ShellM Unit := do
  setStatus 0
  for name in names do
    let sh ← get
    match describe sh name, Launch.pathOf? sh name with
    | some text, _ => write 1 (name ++ text ++ ['\n'])
    | none, some path =>
      let how := if sh.known.contains name then " is a tracked alias for " else " is "
      write 1 (name ++ how.toList ++ path ++ ['\n'])
      Launch.remember name
    | none, none =>
      write 1 (name ++ ": not found\n".toList)
      setStatus 127

def locateCommand (name : Octets) : ShellM Unit := do
  let sh ← get
  let isKeyword := StatementReader.keywords.any fun k => k.toList == name
  setStatus 0
  match if isKeyword then none else sh.aliases.lookup name, describe sh name, Launch.pathOf? sh name with
  | some text, _, _ => write 1 ("alias ".toList ++ name ++ '=' :: Builtin.quotedText text ++ ['\n'])
  | none, some _, _ => write 1 (name ++ ['\n'])
  | none, none, some path =>
    write 1 (path ++ ['\n'])
    Launch.remember name
  | none, none, none => setStatus 127

/-- The row of a program among those that are kept in mind; they are shown row by row. -/
def programRow (name : Octets) : Nat :=
  (((name.head?.map Char.toNat).getD 0) * 16 + total (name.map Char.toNat)) % 31

/-- `hash`: shows the programs that are kept in mind, forgets them, or looks for more. -/
def hash : Builtin.Command := fun name args =>
  Builtin.withOptions name "rv" "" args fun letters args => do
    setStatus 0
    if letters.any fun l => l.1 == 'r' then modify fun sh => { sh with known := [] }
    else if args.isEmpty then
      let sh ← get
      let listed := sh.known.reverse.mergeSort fun a b => programRow a ≤ programRow b
      write 1 (unlines (listed.filterMap (Launch.pathOf? sh)))
    else
      for arg in args do
        let sh ← get
        if (describe sh arg).isNone then
          if (Launch.pathOf? sh arg).isSome then Launch.remember arg
          else
            reportFor name (arg ++ ": not found".toList)
            setStatus 1

/-- Replaces the shell by a program; without one only the descriptors change. -/
def exec (e : Engine) (args : List Octets) : ShellM Unit := do
  match args with
  | [] => setStatus 0
  | ['-', '-'] :: [] => setStatus 0
  | name :: rest =>
    let (name, rest) := match name, rest with
      | ['-', '-'], name :: rest => (name, rest)
      | name, rest => (name, rest)
    let sh ← get
    match Launch.programFor sh.world.tree (Launch.shellSearch sh) name with
    | .error cause =>
      let (reason, status) := Launch.launchFault name cause
      reportFor "exec".toList (name ++ ": ".toList ++ reason.toList)
      setStatus status
    | .ok _ => Launch.execute e name rest
    modify fun sh => { sh with traps := [] }
    throw .exit

def source (e : Engine) (name : Octets) : ShellM Unit := do
  match scriptFile (← get) name with
  | some bytes =>
    setStatus 0
    try inContext name (e.script (ofBytes bytes))
    catch jump =>
      match jump with
      | .back => pure ()
      | jump => throw jump
  | none =>
    let text := if name.contains '/' then "cannot open ".toList ++ name ++ ": No such file".toList
      else name ++ ": not found".toList
    Builtin.mistake ['.'] text 2

def builtin (e : Engine) (name : Octets) (args : List Octets) : ShellM Unit := do
  match Builtin.find? name with
  | some action => action args
  | none =>
    match String.ofList name, args with
    | "eval", args =>
      setStatus 0
      inContext name (e.script ((args.intersperse [' ']).flatten))
    | ".", file :: _ => source e file
    | ".", [] => setStatus 0
    | "exec", args => exec e args
    | "hash", args => hash name args
    | "kill", args => Builtin.kill e.aside name args
    | "type", args => typeCommand args
    | _, _ => setStatus 0

/-- Runs a command of the shell, and tells when its output was refused. -/
def checkedBuiltin (e : Engine) (name : Octets) (args : List Octets) : ShellM Unit := do
  modify fun sh => { sh with faulty := false }
  builtin e name args
  if (← get).faulty then
    modify fun sh => { sh with faulty := false }
    reportFor name (name ++ ": I/O error".toList)
    modify fun sh => { sh with faulty := false, status := sh.status ||| 1 }

def tolerantBuiltin (e : Engine) (name : Octets) (args : List Octets) : ShellM Unit := do
  try checkedBuiltin e name args
  catch jump => if jump == .failed then pure () else throw jump

/-- Runs a command by its name. Assignments count for it alone, but stay with a special command. -/
def dispatch (e : Engine) (bindings : List (Octets × Octets)) (name : Octets) (args : List Octets) :
    ShellM Unit := do
  let sh ← get
  let temporarily (action : ShellM Unit) : ShellM Unit := do
    let before := bindings.map fun (n, _) => (n, sh.bindings.lookup n)
    for (n, value) in bindings do
      assign n value
      modify fun sh => sh.bind n (some { sh.bindingOf n with exported := true })
    modify fun sh => { sh with isLast := false }
    restoring (fun sh => before.foldl (fun sh (n, b) => sh.bind n b) sh) action
  if Builtin.isSpecial name then
    for (n, value) in bindings do assign n value
    modify fun sh => { sh with isLast := false }
    checkedBuiltin e name args
  else
    match sh.functions.lookup name with
    | some body => temporarily (call e body args)
    | none =>
      if Builtin.isBuiltin name then temporarily (tolerantBuiltin e name args)
      else Launch.external e bindings name args

def plainCommand (e : Engine) (bindings : List (Octets × Octets)) (args : List Octets) : ShellM Unit :=
  Builtin.withOptions "command".toList "pvV" "" args fun letters args => do
    match letters.getLast?.map (·.1), args with
    | _, [] => setStatus 0
    | some 'v', name :: _ => locateCommand name
    | some 'V', name :: _ => typeCommand [name]
    | _, name :: args =>
      if Builtin.isBuiltin name then
        modify fun sh => { sh with isLast := false }
        tolerantBuiltin e name args
      else Launch.external e bindings name args

def dispatchNamed (e : Engine) (bindings : List (Octets × Octets)) (words : List Octets) : ShellM Unit := do
  match words with
  | [] => return ()
  | name :: args =>
    if name == "command".toList && ((← get).functions.lookup name).isNone then plainCommand e bindings args
    else dispatch e bindings name args

def isReconnecting (words : List Octets) : Bool :=
  words == ["exec".toList] || words == ["command".toList, "exec".toList]

/-- Runs a simple command; without a name its assignments stay. -/
def simple (e : Engine) (line : Nat) (list : List (Octets × Word)) (words : List Word)
    (redirects : List Redirect) : ShellM Unit := do
  modify fun sh => { sh with line := line, substituted := 0, clock := sh.clock + 1 }
  let fields ← commandFields e words
  let errors := (← get).channel? 2
  let act : ShellM Unit := do
    if ← e.redirect redirects then
      if fields.isEmpty then
        let made ← list.mapM fun (name, w) => do
          let value ← Expansion.value e.toExpander w
          assign name value
          return (name, value)
        if !made.isEmpty then trace e errors made []
        modify fun sh => { sh with status := sh.substituted }
      else
        let bindings ← assignments e list
        trace e errors bindings fields
        dispatchNamed e bindings fields
    else if (fields.head?.map Builtin.isSpecial).getD false then throw .failed
  if isReconnecting fields then act else keepingChannels act
  e.attend
  checkStrict

/-! ### Compound commands -/

def horizon : Nat := 3600000000

/-- A process in the background that would go on for ever is ended. -/
def checkHorizon : ShellM Unit := do
  let sh ← get
  if horizon < sh.clock && !sh.owners.isEmpty then throw (.killed 9)

/-- Runs the body of a loop. The answer tells whether the loop goes on. -/
def round (body : ShellM Unit) : ShellM Bool := do
  checkHorizon
  modify fun sh => { sh with loops := sh.loops + 1 }
  let leave : ShellM Unit := modify fun sh => { sh with loops := sh.loops - 1 }
  try body
  catch jump =>
    leave
    match jump with
    | .leave 0 => return false
    | .leave 1 => return false
    | .leave (n + 2) => throw (.leave (n + 1))
    | .skip 0 => return true
    | .skip 1 => return true
    | .skip (n + 2) => throw (.skip (n + 1))
    | jump => throw jump
  leave
  return true

def maxRounds : Nat := 300000

/-- Repeats a body while the outcome of a condition is as wanted. The outcome is that of the last
    round. -/
def loop (e : Engine) (wanted : Bool) (condition body : Statement) : Nat → Nat → ShellM Unit
  | 0, _ => return ()
  | rounds + 1, last => do
    let tested ← round (testing (e.run condition))
    if !tested then setStatus 0
    else if ((← get).status == 0) == wanted then
      if ← round (e.run body) then loop e wanted condition body rounds (← get).status
      else setStatus 0
    else setStatus last

def each (e : Engine) (name : Octets) (body : Statement) : List Octets → ShellM Unit
  | [] => return ()
  | field :: rest => do
    assign name field
    if ← round (e.run body) then each e name body rest else setStatus 0

/-- The first statement that has a pattern which a text fits. -/
def choose (e : Engine) (text : Octets) : List (List Word × Statement) → ShellM Unit
  | [] => setStatus 0
  | (patterns, body) :: rest => do
    let rec fitsAny : List Word → ShellM Bool
      | [] => return false
      | w :: ws => do
        let pattern := Pattern.ofGlyphs (← Expansion.joined e.toExpander w)
        if Pattern.fits pattern text then return true else fitsAny ws
    if ← fitsAny patterns then
      setStatus 0
      e.run body
    else choose e text rest

def apart (e : Engine) (body : Statement) (redirects : List Redirect) : ShellM Exit :=
  fork do
    if ← e.redirect redirects then e.concluding (e.run body)

/-- Runs a statement in a process that was started for it: what would need a process of its own takes its
    place. -/
def inPlace (e : Engine) : Statement → ShellM Unit
  | .apart line body redirects => do
    modify fun sh => { sh with line := line }
    if ← e.redirect redirects then e.run body
  | .simple line list words redirects => do
    modify fun sh => { sh with isLast := true }
    e.run (.simple line list words redirects)
  | s => e.run s

def prepare : Statement → ShellM Unit
  | .simple _ _ ([.literal name false] :: _) _ => do
    if (describe (← get) name).isNone then Launch.remember name
  | _ => return ()

/-- Runs the stages of a pipeline, which all start at one time; each reads what the one before printed. -/
def stages (e : Engine) (start : Nat) : List Statement → Nat → ShellM Unit
  | [], _ => return ()
  | [last], latest => do
    prepare last
    modify fun sh => { sh with clock := start }
    let exit ← fork (e.concluding (inPlace e last))
    modify fun sh => { sh with clock := max sh.clock latest }
    Engine.settle exit
  | stage :: rest, latest => do
    prepare stage
    let sh ← get
    let (w, channel) := sh.world.addStream
    set { sh with world := w, clock := start }
    let _ ← fork do
      modify fun sh => sh.connect 1 (some channel)
      e.concluding (inPlace e stage)
    let sh ← get
    let (w, input) := sh.world.addInput ⟨sh.world.written channel, sh.clock⟩
    set { sh with world := w }
    keepingChannels do
      modify fun sh => sh.connect 0 (some input)
      stages e start rest (max latest sh.clock)

/-- What a statement prints, without the line feeds at its end. -/
def capture (e : Engine) (body : Statement) : ShellM Octets := do
  let sh ← get
  let (w, channel) := sh.world.addStream
  set { sh with world := w }
  let exit ← fork do
    modify fun sh => { sh.connect 1 (some channel) with tested := false }
    e.concluding (e.run body)
  modify fun sh => { sh with substituted := statusOf exit }
  let text := ((← get).world.written channel).filter (· != '\x00')
  return (text.reverse.dropWhile (· == '\n')).reverse

/-- The smallest place that no process in the background has. -/
def freeSlot (list : List Background) : Nat :=
  let taken := (list.filter fun b => !b.shown).map (·.slot)
  ((List.range (taken.length + 1)).find? fun i => !taken.contains (i + 1)).getD 0 + 1

/-- Runs a statement in the background: it starts now, and what it does is done at its own time. -/
def background (e : Engine) (body : Statement) : ShellM Unit := do
  let before ← get
  let number := before.world.nextProcess
  let (result, after) ← forkWith do
    modify fun sh =>
      { sh.connect 0 (some .nothing) with
        tested := false, owners := number :: sh.owners
        traps := [(2, []), (3, [])] ++ sh.traps.filter fun t => t.1 != 2 && t.1 != 3 }
    e.concluding (inPlace e body)
  modify fun sh =>
    let job : Background :=
      ⟨number, freeSlot sh.background, exitOf result after, before.clock + startTime, after.clock, after.traps,
        false, false⟩
    { sh with
      clock := before.clock + 50, background := job :: sh.background, lastBackground := some number
      status := 0 }

def statement (e : Engine) : Statement → ShellM Unit
  | .simple line list words redirects => simple e line list words redirects
  | .block ss => do
    if ss.isEmpty then setStatus 0
    ss.forM e.run
  | .both first second => do
    testing (e.run first)
    if (← get).status == 0 then e.run second
  | .either first second => do
    testing (e.run first)
    if (← get).status != 0 then e.run second
  | .negated s => do
    testing (e.run s)
    modify fun sh => { sh with status := if sh.status == 0 then 1 else 0 }
  | .loop wanted condition body => loop e wanted condition body maxRounds 0
  | .branch condition yes no => do
    testing (e.run condition)
    if (← get).status == 0 then e.run yes else e.run no
  | .each line name words body => do
    modify fun sh => { sh with line := line }
    let fields ← Expansion.fields e.toExpander words
    setStatus 0
    each e name body fields
  | .choose line w cases => do
    modify fun sh => { sh with line := line }
    choose e (← Expansion.text e.toExpander w) cases
  | .apart line body redirects => do
    modify fun sh => { sh with line := line }
    Engine.settle (← apart e body redirects)
    e.attend
    checkStrict
  | .background body => background e body
  | .pipe list => do
    let start := (← get).clock
    stages e start list start
    e.attend
    checkStrict
  | .redirected line body redirects => do
    modify fun sh => { sh with line := line }
    keepingChannels do
      if ← e.redirect redirects then e.run body
  | .define name body => do
    modify fun sh => { sh with functions := (name, body) :: sh.functions, status := 0 }

def run (e : Engine) (s : Statement) : ShellM Unit := do
  if (← get).has .idle then return () else statement e s

/-! ### Scripts -/

def lines (e : Engine) : Nat → Source → ShellM Unit
  | 0, _ => return ()
  | fuel + 1, source => do
    let sh ← get
    match { source with documents := sh.documents, aliases := sh.aliases }.next with
    | .error fault =>
      modify fun sh => { sh with line := fault.line }
      ShellM.fail ("Syntax error: ".toList ++ fault.text.toList)
    | .ok (none, _) => return ()
    | .ok (some s, source) =>
      modify fun sh => { sh with documents := source.documents }
      e.run s
      lines e fuel source

def script (e : Engine) (text : Octets) : ShellM Unit :=
  lines e (text.length + 2) (.ofText text)

/-- An action that cannot be nested any deeper: the stack of the process ends. -/
def exhausted {α : Type} : ShellM α := throw (.killed 11)

/-- The engine for scripts that are nested up to a depth. -/
def engine : Nat → Engine
  | 0 =>
    { word := fun _ _ => exhausted
      capture := fun _ => exhausted
      run := fun _ => exhausted
      script := fun _ => exhausted }
  | depth + 1 =>
    let e := engine depth
    { word := Expansion.word e.toExpander
      capture := capture e
      run := run e
      script := script e }

def maxDepth : Nat := 8000

end Interpreter

end TlaDigest.Script
