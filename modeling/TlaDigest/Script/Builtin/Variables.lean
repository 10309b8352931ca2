import TlaDigest.Script.Builtin.Answer

/-!
# Variables and options

Commands for variables, parameters and options, and those that set variables from the input or from
options.
-/

namespace TlaDigest.Script.Builtin

open Text ShellM

/-! ### Variables -/

def shownBinding (command : Octets) (entry : Octets × Binding) : Octets :=
  let start := if command.isEmpty then [] else command ++ [' ']
  start ++ entry.1 ++ ((entry.2.value.map fun v => '=' :: quotedText v).getD []) ++ ['\n']

def showBindings (command : Octets) (p : Binding → Bool) : ShellM Unit := do
  let chosen := inOrder (·.1) ((← get).bindings.filter fun e => p e.2)
  write 1 (chosen.flatMap (shownBinding command))
  setStatus 0

/-- `export` and `readonly`, which mark variables and may set them. -/
def marking (isMarked : Binding → Bool) (mark : Binding → Binding) : Command := fun name args =>
  withOptions name "p" "" args fun letters args => do
    if !letters.isEmpty || args.isEmpty then showBindings name isMarked
    else
      setStatus 0
      for arg in args do
        let (target, value) := cutAssignment arg
        if isName target then
          match value with
          | some v => inContext name (assign target v)
          | none => pure ()
          modify fun sh => sh.bind target (some (mark (sh.bindingOf target)))
        else mistake name (target ++ ": bad variable name".toList) 2

def unset : Command := fun name args =>
  withOptions name "fv" "" args fun letters args => do
    setStatus 0
    for arg in args do
      let sh ← get
      if (letters.getLast?.map (·.1)) == some 'f' then
        set { sh with functions := sh.functions.filter fun f => f.1 != arg }
      else if !isName arg then mistake name (arg ++ ": bad variable name".toList) 2
      else if (sh.bindingOf arg).readOnly then mistake name (arg ++ ": is read only".toList) 2
      else set (sh.bind arg none)

/-- `local`: what a function changes is restored at its end. -/
def localVariables : Command := fun name args => do
  match (← get).locals with
  | [] =>
    reportFor name "not in a function".toList
    setStatus 2
    throw .failed
  | _ :: _ =>
    setStatus 0
    for arg in args do
      let (target, value) := cutAssignment arg
      modify fun sh => { sh with locals := match sh.locals with
        | frame :: rest => { frame with
            bindings := (target, sh.bindings.lookup target) :: frame.bindings
            settings := if arg == ['-'] then some (frame.settings.getD sh.settings) else frame.settings } ::
            rest
        | [] => [] }
      match value with
      | some v => assign target v
      | none => pure ()

/-! ### Parameters and options -/

def shift : Command := fun name args => do
  let sh ← get
  match args.head?.map number? with
  | some none => illegalNumber name (args.headD [])
  | count =>
    let n := (count.getD (some 1)).getD 1
    if sh.parameters.length < n then mistake name "can't shift that many".toList 2
    else set { sh with parameters := sh.parameters.drop n, optionIndex := 1, optionOffset := none, status := 0 }

def settingOf? (letter : Char) : Option Setting :=
  (Setting.table.find? fun e => e.2.1 == some letter).map (·.1)

def settingNamed? (name : Octets) : Option Setting :=
  (Setting.table.find? fun e => e.2.2.toList == name).map (·.1)

def withSetting (settings : List Setting) (on : Bool) (setting : Setting) : List Setting :=
  let others := settings.filter fun s => s != setting
  if on then setting :: others else others

structure Asked where
  settings : List Setting
  /-- All options are to be shown, for a reader or as commands. -/
  shows : Option Bool
  args : List Octets

/-- Sets the options of one argument, letter by letter; the letter `o` takes a name from the arguments
    that follow. A letter that is not known is the answer, as it is written. -/
def setLetters (on : Bool) (asked : Asked) : Octets → Except Octets Asked
  | [] => .ok asked
  | 'o' :: cs =>
    match asked.args with
    | [] => setLetters on { asked with shows := some on } cs
    | name :: rest =>
      match settingNamed? name with
      | some s => setLetters on { asked with settings := withSetting asked.settings on s, args := rest } cs
      | none => .error ("-o ".toList ++ name)
  | c :: cs =>
    match settingOf? c with
    | some s => setLetters on { asked with settings := withSetting asked.settings on s } cs
    | none => .error ['-', c]

/-- Sets options, and then the parameters, if there are any or two dashes ask for it. -/
def setArguments : Nat → Asked → Except Octets (Asked × Option (List Octets))
  | 0, asked => .ok (asked, none)
  | fuel + 1, asked =>
    match asked.args with
    | [] => .ok (asked, none)
    | arg :: rest =>
      let continueWith : Except Octets Asked → Except Octets (Asked × Option (List Octets))
        | .ok asked => setArguments fuel asked
        | .error text => .error text
      match arg with
      | ['-', '-'] => .ok (asked, some rest)
      | ['-'] => .ok (asked, if rest.isEmpty then none else some rest)
      | '-' :: cs => continueWith (setLetters true { asked with args := rest } cs)
      | '+' :: cs => continueWith (setLetters false { asked with args := rest } cs)
      | _ => .ok (asked, some (arg :: rest))

def settingsText (settings : List Setting) (forReader : Bool) : Octets :=
  let line (e : Setting × Option Char × String) : String :=
    let on := settings.contains e.1
    if forReader then e.2.2 ++ String.ofList (List.replicate (16 - e.2.2.length) ' ') ++ if on then "on" else "off"
    else "set " ++ (if on then "-" else "+") ++ "o " ++ e.2.2
  let heading := if forReader then "Current option settings\n" else ""
  heading.toList ++ Setting.table.flatMap fun e => (line e).toList ++ ['\n']

def setCommand : Command := fun name args => do
  let sh ← get
  if args.isEmpty then showBindings [] fun b => b.value.isSome
  else
    match setArguments (args.length + 1) ⟨sh.settings, none, args⟩ with
    | .ok (asked, parameters) =>
      match asked.shows with
      | some forReader => write 1 (settingsText asked.settings forReader)
      | none => pure ()
      modify fun sh => { sh with settings := asked.settings, status := 0 }
      match parameters with
      | some parameters =>
        modify fun sh => { sh with parameters := parameters, optionIndex := 1, optionOffset := none }
      | none => pure ()
    | .error text => mistake name ("Illegal option ".toList ++ text) 2

/-- One option of `getopts`, and where the next one is sought. -/
structure Choice where
  letter : Octets
  value : Option Octets
  index : Nat
  offset : Option Nat
  message : Option Octets
  isOver : Bool

/-- The option at a place in the arguments. The letters that are known stand in `spec`, each with a colon
    after it that takes a value; a colon in front asks for silence. -/
def choose (spec : Octets) (args : List Octets) (index : Nat) (offset : Option Nat) : Choice :=
  let silent := spec.head? == some ':'
  let known := if silent then spec.drop 1 else spec
  let current := if 1 < index then (args[index - 2]?).getD [] else []
  let inside := match offset with
    | some n => current.drop n
    | none => []
  let ended (index : Nat) : Choice := ⟨['?'], none, index, none, none, true⟩
  match inside with
  | c :: rest => letterAt silent known c rest current index
  | [] =>
    match args[index - 1]? with
    | some ('-' :: c :: rest) =>
      if c == '-' && rest.isEmpty then ended (index + 1)
      else letterAt silent known c rest ('-' :: c :: rest) (index + 1)
    | _ => ended index
where
  /-- The option with a letter, which stands in an argument before the one with a number. -/
  letterAt (silent : Bool) (known : Octets) (c : Char) (rest argument : Octets) (index : Nat) : Choice :=
    let offset := some (argument.length - rest.length)
    match if c == ':' then [] else known.dropWhile (· != c) with
    | [] =>
      if silent then ⟨['?'], some [c], index, offset, none, false⟩
      else ⟨['?'], none, index, offset, some ("Illegal option -".toList ++ [c]), false⟩
    | _ :: ':' :: _ =>
      if !rest.isEmpty then ⟨[c], some rest, index, none, none, false⟩
      else
        match args[index - 1]? with
        | some value => ⟨[c], some value, index + 1, none, none, false⟩
        | none =>
          if silent then ⟨[':'], some [c], index, none, none, false⟩
          else ⟨['?'], none, index, none, some ("No arg for -".toList ++ [c] ++ " option".toList), false⟩
    | _ => ⟨[c], some [], index, offset, none, false⟩

def getopts : Command := fun name args => do
  match args with
  | spec :: target :: given =>
    let sh ← get
    let list := if given.isEmpty then sh.parameters else given
    let restarts := list.length + 1 < sh.optionIndex
    let chosen := choose spec list (if restarts then 1 else sh.optionIndex)
      (if restarts then none else sh.optionOffset)
    match chosen.message with
    | some text => write 2 (text ++ ['\n'])
    | none => pure ()
    if !chosen.isOver then
      match chosen.value with
      | some value => assign "OPTARG".toList value
      | none => modify fun sh => sh.bind "OPTARG".toList none
    assign "OPTIND".toList (decimal chosen.index)
    if isName target then
      assign target chosen.letter
      modify fun sh => { sh with optionIndex := chosen.index, optionOffset := chosen.offset }
      setStatus (if chosen.isOver then 1 else 0)
    else mistake name (target ++ ": bad variable name".toList) 2
  | _ => mistake name "Usage: getopts optstring var [arg...]".toList 2

/-! ### Input -/

/-- A line of input. A backslash joins it to the next one, and else quotes a character, unless the line is
    `raw`. The answer tells whether the line was ended. -/
def takeLine (raw : Bool) : Octets → List Glyph → List Glyph × Octets × Bool
  | [], sofar => (sofar.reverse, [], false)
  | '\n' :: rest, sofar => (sofar.reverse, rest, true)
  | '\\' :: c :: rest, sofar =>
    if raw then takeLine raw (c :: rest) (⟨'\\', false⟩ :: sofar)
    else takeLine raw rest (if c == '\n' then sofar else ⟨c, true⟩ :: sofar)
  | c :: rest, sofar => takeLine raw rest (⟨c, false⟩ :: sofar)
termination_by text => text.length

/-- The last field of a line: all that is left, without blanks at its end. One separator after a single
    field does not count. -/
def lastField (isSeparator isGap : Glyph → Bool) (line : List Glyph) : List Glyph :=
  let trimmed (line : List Glyph) : List Glyph := (line.reverse.dropWhile isGap).reverse
  let line := trimmed line
  match line.getLast? with
  | some g =>
    let field := trimmed line.dropLast
    if isSeparator g && !field.any isSeparator then field else line
  | none => line

/-- The fields of a line, at most so many: the last one takes all that is left. -/
def lineFields (separators : Octets) : Nat → List Glyph → List (List Glyph)
  | 0, _ => []
  | count + 1, line =>
    let isSeparator (g : Glyph) : Bool := separators.contains g.char && !g.quoted
    let isGap (g : Glyph) : Bool := isSeparator g && isSpace g.char
    let line := line.dropWhile isGap
    if count == 0 then [lastField isSeparator isGap line]
    else
      let (field, rest) := cutAt isSeparator line
      let rest := rest.dropWhile isGap
      let rest := match rest with
        | g :: more => if isSeparator g && !isSpace g.char then more else rest
        | [] => rest
      field :: lineFields separators count rest

/-- `read`, which takes a line of the input into variables. -/
def readLine : Command := fun name args =>
  withOptions name "r" "p" args fun letters names => do
    let sh ← get
    if names.isEmpty then mistake name "arg count".toList 2
    else
      match names.find? fun n => !isName n with
      | some target => mistake name (target ++ ": bad variable name".toList) 2
      | none =>
        match sh.world.unread (sh.channel? 0) with
        | .error _ => setStatus 1
        | .ok input =>
          let raw := letters.any fun l => l.1 == 'r'
          let (line, rest, ended) := takeLine raw input.text []
          set { sh with world := sh.world.leave (sh.channel? 0) rest, clock := max sh.clock input.ready }
          let fields := lineFields sh.separators names.length (line.filter fun g => g.char != '\x00')
          for (target, i) in names.zipIdx do
            inContext name (assign target (plain ((fields[i]?).getD [])))
          setStatus (if ended then 0 else 1)

/-! ### Aliases and permissions -/

def aliasCommand : Command := fun name args => do
  setStatus 0
  let shown (entry : Octets × Octets) : Octets := entry.1 ++ '=' :: quotedText entry.2 ++ ['\n']
  if args.isEmpty then write 1 ((inOrder (·.1) (← get).aliases).flatMap shown)
  for arg in args do
    match cutAssignment arg with
    | (c :: cs, some text) => modify fun sh =>
      { sh with aliases := (c :: cs, text) :: sh.aliases.filter fun a => a.1 != c :: cs }
    | _ =>
      match (← get).aliases.lookup arg with
      | some text => write 1 (shown (arg, text))
      | none =>
        write 2 (name ++ ": ".toList ++ arg ++ " not found\n".toList)
        setStatus 1

def unaliasCommand : Command := fun name args =>
  withOptions name "a" "" args fun letters args => do
    setStatus 0
    if !letters.isEmpty then modify fun sh => { sh with aliases := [] }
    else
      for arg in args do
        let sh ← get
        if (sh.aliases.lookup arg).isSome then
          set { sh with aliases := sh.aliases.filter fun a => a.1 != arg }
        else
          write 2 (name ++ ": ".toList ++ arg ++ " not found\n".toList)
          setStatus 1

/-- The permissions that a mask leaves to one class of users. -/
def permitted (bits : Nat) : Octets :=
  (if bits / 4 % 2 == 0 then ['r'] else []) ++ (if bits / 2 % 2 == 0 then ['w'] else []) ++
    if bits % 2 == 0 then ['x'] else []

def permissionBits? (letters : Octets) : Option Nat :=
  letters.foldl (fun sum c => do
    let sum ← sum
    let bit ← match c with
      | 'r' => some 4
      | 'w' => some 2
      | 'x' => some 1
      | _ => none
    return sum ||| bit) (some 0)

/-- The permissions after a change in letters: who, what is done, and which. -/
def changedPermissions? (permissions : Nat) (change : Octets) : Option Nat :=
  let isWho (c : Char) : Bool := c == 'u' || c == 'g' || c == 'o' || c == 'a'
  let (who, rest) := cutAt (fun c => !isWho c) change
  let everyone := who.isEmpty || who.contains 'a'
  match rest with
  | [] => none
  | op :: letters => do
    let bits ← permissionBits? letters
    let spread (bits : Nat) : Nat :=
      (if everyone || who.contains 'u' then bits * 64 else 0) +
        (if everyone || who.contains 'g' then bits * 8 else 0) +
        if everyone || who.contains 'o' then bits else 0
    match op with
    | '+' => some (permissions ||| spread bits)
    | '-' => some (permissions - (permissions &&& spread bits))
    | '=' => some ((permissions - (permissions &&& spread 7)) ||| spread bits)
    | _ => none

def umask : Command := fun name args =>
  withOptions name "S" "" args fun letters args => do
    let mask := (← get).mask
    match args with
    | [] =>
      let digits := Nat.toDigits 8 mask
      let symbols := "u=".toList ++ permitted (mask / 64) ++ ",g=".toList ++ permitted (mask / 8) ++
        ",o=".toList ++ permitted mask
      let text := if letters.isEmpty then List.replicate (4 - digits.length) '0' ++ digits else symbols
      write 1 (text ++ ['\n'])
      setStatus 0
    | arg :: _ =>
      if (arg.head?.map isDecimalDigit).getD false then
        if arg.all fun c => '0' ≤ c && c ≤ '7' then
          modify fun sh => { sh with mask := (digitsAt 8 arg).1 % 512, status := 0 }
        else illegalNumber name arg
      else
        let change (sum : Option Nat) (part : Octets) : Option Nat := sum.bind (changedPermissions? · part)
        match (splitOn ',' arg).foldl change (some (511 - mask)) with
        | some permissions => modify fun sh => { sh with mask := 511 - permissions, status := 0 }
        | none => mistake name ("Illegal mode: ".toList ++ arg) 2

end TlaDigest.Script.Builtin
