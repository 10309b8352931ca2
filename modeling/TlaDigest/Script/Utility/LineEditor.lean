import TlaDigest.Script.Utility.LineEditor.Reader
import TlaDigest.Script.Utility.Portion

/-!
# The stream editor at work

Line after line is put into a pattern space, to which the commands apply; a second space holds text
from line to line.
-/

namespace TlaDigest.Script.Utility

open Text JobM

namespace LineEditor

structure Buffer where
  text : Octets
  ended : Bool

inductive Addition where
  | text (t : Octets)
  | file (name : Octets)
  | line (text : Octets)

inductive Progress where
  | outside
  | upTo (line : Nat)
  | inside
deriving DecidableEq, Repr

structure Style where
  quiet : Bool
  separate : Bool
  /-- Files are replaced; an ending keeps what they were. -/
  inPlace : Option Octets
  feed : Char
  width : Nat

structure Session where
  pattern : Buffer
  hold : Buffer
  number : Nat
  files : List Octets
  current : Octets
  lines : List Buffer
  additions : List Addition
  replaced : Bool
  ranges : Array Progress
  finder : Option ReadRegex
  /-- The files whose last line was not ended; an empty name stands for the output. -/
  unended : List Octets
  /-- What is left of files that are read line by line. -/
  sources : List (Octets × List Octets)
  /-- What a file in place is to become, the latest first. -/
  edited : Option (List Octets)

abbrev EditM := StateT Session JobM

/-! ### Output -/

def put (name text : Octets) : EditM Unit := do
  if name.isEmpty || name == "/dev/stdout".toList then
    match (← get).edited with
    | some done => modify fun s => { s with edited := some (text :: done) }
    | none => (out text : JobM Unit)
  else if name == "/dev/stderr".toList then (err text : JobM Unit)
  else
    let before := match ← (contents name : JobM _) with
      | .ok text => text
      | .error _ => []
    let _ ← (writeFile name (before ++ text) : JobM _)

/-- Writes a text; a line before it that was not ended is ended first. -/
def emit (style : Style) (name : Octets) (b : Buffer) : EditM Unit := do
  if (← get).unended.contains name then put name [style.feed]
  put name (if b.ended then b.text ++ [style.feed] else b.text)
  modify fun s =>
    let others := s.unended.filter (· != name)
    { s with unended := if b.ended then others else name :: others }

def emitText (style : Style) (text : Octets) : EditM Unit := do
  if !text.isEmpty then
    if (← get).unended.contains [] then put [] [style.feed]
    put [] text
    modify fun s => { s with unended := s.unended.filter fun n => !n.isEmpty }

def flush (style : Style) : EditM Unit := do
  let additions := (← get).additions
  modify fun s => { s with additions := [] }
  for a in additions do
    match a with
    | .text t => emitText style t
    | .line t => emit style [] ⟨t, true⟩
    | .file name =>
      match ← (contents name : JobM _) with
      | .ok text => emitText style text
      | .error _ => pure ()

/-! ### Input -/

def buffersOf (feed : Char) (text : Octets) : List Buffer :=
  let parts := splitOn feed text
  parts.dropLast.map (⟨·, true⟩) ++ ((parts.getLast?.filter (· != [])).map fun t => ⟨t, false⟩).toList

def finishFile (style : Style) : EditM Unit := do
  let s ← get
  match style.inPlace, s.edited with
  | some ending, some done =>
    if !ending.isEmpty then
      match ← (contents s.current : JobM _) with
      | .ok before =>
        let _ ← (writeFile (s.current ++ ending) before : JobM _)
      | .error _ => pure ()
    let _ ← (writeFile s.current done.reverse.flatten : JobM _)
    modify fun s => { s with edited := none, unended := s.unended.filter fun n => !n.isEmpty }
  | _, _ => return ()

/-- Opens files until there is a line to read. Each step takes a file. -/
def openNext (style : Style) : Nat → EditM Unit
  | 0 => return ()
  | fuel + 1 => do
    let s ← get
    match s.lines, s.files with
    | [], name :: rest =>
      finishFile style
      modify fun s => { s with files := rest }
      match ← (contents name : JobM _) with
      | .error .isDirectory =>
        if style.inPlace.isSome then
          (complain ("couldn't edit ".toList ++ name ++ ": not a regular file".toList) 4 : JobM Unit)
          openNext style fuel
        else (die ("read error on ".toList ++ name ++ ": Is a directory".toList) 4 : JobM Unit)
      | .error cause =>
        (complain ("can't read ".toList ++ name ++ ": ".toList ++ cause.reason.toList) 2 : JobM Unit)
        openNext style fuel
      | .ok text =>
        modify fun s =>
          { s with
            current := name, lines := buffersOf style.feed text
            number := if style.separate then 0 else s.number
            edited := if style.inPlace.isSome then some [] else none }
        openNext style fuel
    | _, _ => return ()

def isBlankFile (name : Octets) : JobM Bool := do
  let j ← get
  let text := if isInput name then j.input else (j.tree.read (pathOf name)).map ofBytes
  return match text with
    | .ok text => text.isEmpty
    | .error _ => true

def isLast (style : Style) : EditM Bool := do
  let s ← get
  if !s.lines.isEmpty then return false
  else if style.separate then return true
  else
    let blank ← s.files.mapM fun name => (isBlankFile name : JobM Bool)
    return blank.all (fun b => b)

def readNext (style : Style) : EditM (Option Buffer) := do
  flush style
  openNext style ((← get).files.length + 1)
  let s ← get
  match s.lines with
  | [] => return none
  | b :: rest =>
    set { s with lines := rest, number := s.number + 1, replaced := false }
    return some b

/-! ### Addresses -/

/-- The expression that a finder stands for, which is then the one that was used last. -/
def resolve (f : Finder) : EditM ReadRegex := do
  match f.regex, (← get).finder with
  | some r, _ =>
    modify fun s => { s with finder := some r }
    return r
  | none, some r => return r
  | none, none => (die "-e expression #1, char 0: no previous regular expression".toList 1 : JobM _)

def isFound (f : Finder) : EditM Bool := do
  let r ← resolve f
  let text := (← get).pattern.text
  return (r.regex.searchFrom? (r.regex.subject f.lines text) 0).isSome

def fits (style : Style) : Address → EditM Bool
  | .line n => return (← get).number == n
  | .step first width => do
    let n := (← get).number
    return if width == 0 then n == first else first ≤ n && (n - first) % width == 0
  | .last => isLast style
  | .found f => isFound f

def setRange (i : Nat) (p : Progress) : EditM Unit :=
  modify fun s => { s with ranges := s.ranges.setIfInBounds i p }

/-- A range that goes up to a line, as seen from a line inside it. -/
def upToLine (i last : Nat) : EditM Bool := do
  let n := (← get).number
  if last ≤ n then setRange i .outside
  return n ≤ last

def beginRange (i : Nat) (last : RangeEnd) : EditM Unit := do
  let n := (← get).number
  let upTo (m : Nat) : EditM Unit := if n < m then setRange i (.upTo m) else return ()
  match last with
  | .at (.line m) => upTo m
  | .at _ => setRange i .inside
  | .later m => upTo (n + m)
  | .multiple m => if m == 0 then return () else upTo ((n + m - 1) / m * m)

def applies (style : Style) (i : Nat) (c : Command) : EditM Bool := do
  let inScope ← match c.scope with
    | .all => pure true
    | .one a => fits style a
    | .range first last =>
      match ((← get).ranges[i]?).getD .outside with
      | .outside =>
        let begins ← fits style first
        if begins then beginRange i last
        pure begins
      | .upTo m => upToLine i m
      | .inside =>
        match last with
        | .at a => if ← fits style a then setRange i .outside
        | _ => setRange i .outside
        pure true
    | .fromStart f =>
      match ((← get).ranges[i]?).getD .outside with
      | .inside =>
        if ← isFound f then setRange i .outside
        pure true
      | _ => pure false
  return inScope != c.negated

/-! ### Replacing -/

/-- How letters change while a replacement is made: all of them, and the next one. -/
structure Casing where
  all : Option CaseChange
  next : Option CaseChange

def changed (c : CaseChange) (x : Char) : Char :=
  match c with
  | .upper => upperCase x
  | .upperNext => upperCase x
  | .lower => lowerCase x
  | .lowerNext => lowerCase x
  | .stop => x

def Casing.apply (k : Casing) (text : Octets) : Casing × Octets :=
  let text := (k.all.map fun c => text.map (changed c)).getD text
  match k.next, text with
  | some c, x :: xs => ({ k with next := none }, changed c x :: xs)
  | _, text => (k, text)

def replacement (s : Regex.Subject) (start : Nat) (state : Regex.State) (pieces : List Piece) : Octets :=
  (pieces.foldl (fun (acc : Casing × Octets) piece =>
    let add (text : Octets) : Casing × Octets :=
      let (k, text) := acc.1.apply text
      (k, acc.2 ++ text)
    match piece with
    | .text t => add t
    | .group 0 => add (s.part start state.position)
    | .group i => add (state.groupText s i)
    | .change .stop => (⟨none, none⟩, acc.2)
    | .change .upper => (⟨some .upper, acc.1.next⟩, acc.2)
    | .change .lower => (⟨some .lower, acc.1.next⟩, acc.2)
    | .change c => ({ acc.1 with next := some c }, acc.2)) (⟨none, none⟩, [])).2

/-- Replaces matches from a place on. The answer tells also whether something was replaced. An empty match
    right after another match does not count. Each step goes at least one character on. -/
def replaceFrom (r : Regex) (s : Regex.Subject) (sub : Substitution) :
    Nat → Nat → Option Nat → Nat → Octets × Bool
  | 0, start, _, _ => (s.part start s.text.size, false)
  | fuel + 1, start, before, count =>
    if s.text.size < start then ([], false)
    else
      match r.searchFrom? s start with
      | none => (s.part start s.text.size, false)
      | some (a, state) =>
        let b := state.position
        let skipped := s.part start a
        if a == b && before == some a then
          let (rest, p) := replaceFrom r s sub fuel (a + 1) none count
          (skipped ++ s.part a (a + 1) ++ rest, p)
        else
          let count := count + 1
          let replaces := sub.number ≤ count
          let own := if replaces then replacement s a state sub.pieces else s.part a b
          let next := if a == b then s.part a (a + 1) else []
          let start := if a == b then b + 1 else b
          if replaces && !sub.all then (skipped ++ own ++ next ++ s.part start s.text.size, true)
          else
            let (rest, p) := replaceFrom r s sub fuel start (if a == b then none else some b) count
            (skipped ++ own ++ next ++ rest, p || replaces)

/-! ### Commands -/

/-- The text of a line with everything that cannot be seen written as an escape, in lines of a width. -/
def listed (width : Nat) (text : Octets) : Octets :=
  let shown (c : Char) : Octets := match c with
    | '\\' => "\\\\".toList
    | '\x07' => "\\a".toList
    | '\x08' => "\\b".toList
    | '\x0c' => "\\f".toList
    | '\n' => "\\n".toList
    | '\r' => "\\r".toList
    | '\t' => "\\t".toList
    | '\x0b' => "\\v".toList
    | c => if isHidden c then hiddenEscape c else [c]
  let room := width - 1
  ((text.map shown).foldl (fun (acc : Octets × Nat) piece =>
    if 1 < width && room < acc.2 + piece.length then (acc.1 ++ "\\\n".toList ++ piece, piece.length)
    else (acc.1 ++ piece, acc.2 + piece.length)) ([], 0)).1 ++ ['$']

inductive Flow where
  /-- The pattern space is printed, unless the editor is quiet. -/
  | done
  | dropped
  | again
  | quit (prints : Bool) (status : Nat)

def blockEnd (commands : Array Command) : Nat → Nat → Nat → Nat
  | 0, i, _ => i
  | fuel + 1, i, depth =>
    match (commands[i]?).map Command.action with
    | none => i
    | some .block => blockEnd commands fuel (i + 1) (depth + 1)
    | some .endBlock => if depth ≤ 1 then i + 1 else blockEnd commands fuel (i + 1) (depth - 1)
    | some _ => blockEnd commands fuel (i + 1) depth

def labelPlace (commands : Array Command) (name : Octets) : Nat :=
  let isHere (c : Command) : Bool := match c.action with
    | .label l => l == name
    | _ => false
  if name.isEmpty then commands.size else (commands.findIdx? isHere).getD commands.size

def printPattern (style : Style) : EditM Unit := do emit style [] (← get).pattern

def setText (text : Octets) : EditM Unit := modify fun s => { s with pattern := { s.pattern with text := text } }

def substitute (style : Style) (sub : Substitution) : EditM Unit := do
  let r ← resolve sub.finder
  let subject := r.regex.subject sub.finder.lines (← get).pattern.text
  let (text, made) := replaceFrom r.regex subject sub (subject.text.size + 2) 0 none 0
  if made then
    setText text
    modify fun s => { s with replaced := true }
    if sub.prints then printPattern style
    match sub.file with
    | some name => emit style name (← get).pattern
    | none => pure ()

def sourceLine (name : Octets) : EditM (Option Octets) := do
  let lines ← match (← get).sources.lookup name with
    | some lines => pure lines
    | none =>
      match ← (contents name : JobM _) with
      | .ok text => pure (bareLines text)
      | .error _ => pure []
  modify fun s => { s with sources := (name, lines.drop 1) :: s.sources.filter fun e => e.1 != name }
  return lines.head?

/-- The text up to the first line feed, and what follows it if there is one. -/
def firstLine (feed : Char) (text : Octets) : Octets × Option Octets :=
  match cutAt (· == feed) text with
  | (line, []) => (line, none)
  | (line, _ :: rest) => (line, some rest)

def later (a : Addition) : EditM Unit := modify fun s => { s with additions := s.additions ++ [a] }

/-- Runs commands from a place on. Every command is a step, of which there are at most so many. -/
def run (style : Style) (commands : Array Command) : Nat → Nat → EditM Flow
  | 0, _ => return .done
  | fuel + 1, i => do
    match commands[i]? with
    | none => return .done
    | some c =>
      let go : EditM Flow := run style commands fuel (i + 1)
      let goTo (label : Octets) : EditM Flow := run style commands fuel (labelPlace commands label)
      if !(← applies style i c) then
        match c.action with
        | .block => run style commands fuel (blockEnd commands (commands.size + 1) i 0)
        | _ => go
      else
        match c.action with
        | .block => go
        | .endBlock => go
        | .label _ => go
        | .nothing => go
        | .number => do emitText style (decimal (← get).number ++ ['\n']); go
        | .append t => do later (.text t); go
        | .insert t => do emitText style t; go
        | .change t => do
          let isOver := ((← get).ranges[i]?).getD .outside == .outside
          if isOver || c.negated then emitText style t
          return .dropped
        | .jump l => goTo l
        | .jumpIf l => do
          let replaced := (← get).replaced
          modify fun s => { s with replaced := false }
          if replaced then goTo l else go
        | .jumpUnless l => do
          let replaced := (← get).replaced
          modify fun s => { s with replaced := false }
          if replaced then go else goTo l
        | .delete => return .dropped
        | .deleteFirst => do
          match firstLine style.feed (← get).pattern.text with
          | (_, none) => return .dropped
          | (_, some rest) =>
            setText rest
            return .again
        | .print => do printPattern style; go
        | .printFirst => do
          emit style [] ⟨(firstLine style.feed (← get).pattern.text).1, true⟩
          go
        | .next => do
          if ← isLast style then
            if style.separate && !(← get).files.isEmpty then return .done else return .quit true 0
          if !style.quiet then printPattern style
          match ← readNext style with
          | none => return .quit false 0
          | some b =>
            modify fun s => { s with pattern := b }
            go
        | .addNext => do
          if ← isLast style then
            if style.separate && !(← get).files.isEmpty then return .done else return .quit true 0
          match ← readNext style with
          | none => return .quit true 0
          | some b =>
            modify fun s => { s with pattern := ⟨s.pattern.text ++ style.feed :: b.text, b.ended⟩ }
            go
        | .quit prints status => return .quit prints status
        | .readFile name => do later (.file name); go
        | .readLine name => do
          match ← sourceLine name with
          | some t => later (.line t)
          | none => pure ()
          go
        | .writeFile first name => do
          let b := (← get).pattern
          emit style name (if first then ⟨(firstLine style.feed b.text).1, true⟩ else b)
          go
        | .hold adds => do
          modify fun s =>
            { s with hold := if adds then { s.hold with text := s.hold.text ++ style.feed :: s.pattern.text }
                else s.pattern }
          go
        | .get adds => do
          modify fun s =>
            { s with
              pattern := if adds then { s.pattern with text := s.pattern.text ++ style.feed :: s.hold.text }
                else { s.pattern with text := s.hold.text } }
          go
        | .exchange => do modify fun s => { s with pattern := s.hold, hold := s.pattern }; go
        | .clear => do setText []; go
        | .list width => do
          emitText style (listed (width.getD style.width) (← get).pattern.text ++ ['\n'])
          go
        | .fileName => do emitText style ((← get).current ++ ['\n']); go
        | .substitute sub => do substitute style sub; go
        | .replaceChars table => do
          setText ((← get).pattern.text.map fun c => (table.lookup c).getD c)
          go

def maxSteps : Nat := 100000

/-- Runs cycles: each starts with the next line, or with what the one before it left. -/
def cycles (style : Style) (commands : Array Command) : Nat → Bool → EditM Unit
  | 0, _ => return ()
  | fuel + 1, keeps => do
    let ready ← if keeps then pure true else do
      match ← readNext style with
      | none => pure false
      | some b =>
        modify fun s => { s with pattern := b }
        pure true
    if ready then
      match ← run style commands maxSteps 0 with
      | .done =>
        if !style.quiet then printPattern style
        cycles style commands fuel false
      | .dropped => cycles style commands fuel false
      | .again =>
        flush style
        cycles style commands fuel true
      | .quit prints status =>
        if prints && !style.quiet then printPattern style
        flush style
        if status != 0 then (setStatus status : JobM Unit)
    else return ()

end LineEditor

/-! ### The program -/

open LineEditor in
def writtenFiles (commands : List LineEditor.Command) : List Octets :=
  commands.filterMap fun c => match c.action with
    | .writeFile _ name => some name
    | .substitute sub => sub.file
    | _ => none

structure ProgramPart where
  file : Option Octets
  text : Octets

/-- Where a fault lies: the part of the program, and the place in it. -/
def faultPlace (parts : List ProgramPart) (taken : Octets) : Octets :=
  let rec find : Nat → Nat → List ProgramPart → Octets
    | _, _, [] => []
    | left, n, p :: rest =>
      let n := if p.file.isSome then n else n + 1
      if left ≤ p.text.length || rest.isEmpty then
        match p.file with
        | none => "-e expression #".toList ++ decimal n ++ ", char ".toList ++ decimal left ++ ": ".toList
        | some name =>
          let line := ((p.text.take left).dropLast.count '\n') + 1
          "file ".toList ++ name ++ " line ".toList ++ decimal line ++ ": ".toList
      else find (left - p.text.length - 1) n rest
  find taken.length 0 parts

def sedForms : List OptionForm := [
  plainOption 'n' "quiet", namedOption "silent" .nothing, namedOption "debug" .nothing,
  valuedOption 'e' "expression", valuedOption 'f' "file", ⟨some 'i', "in-place", .maybe⟩,
  namedOption "follow-symlinks" .nothing, valuedOption 'l' "line-length", namedOption "posix" .nothing,
  plainOption 'E' "regexp-extended", plainOption 'r' "", plainOption 's' "separate",
  namedOption "sandbox" .nothing, plainOption 'u' "unbuffered", plainOption 'z' "null-data"]

/-- The parts of the program, and the files to which it applies. -/
def sedParts (r : Request) : JobM (List ProgramPart × List Octets) := do
  let given := r.options.filter fun o => o.1 == "e" || o.1 == "f"
  if given.isEmpty then
    match r.operands with
    | [] => stop 1
    | text :: files => return ([⟨none, text⟩], files)
  else
    let parts ← given.mapM fun (key, value) => do
      if key == "e" then return ProgramPart.mk none value
      match ← contents value with
      | .ok text => return ⟨some value, withoutFeed text⟩
      | .error cause =>
        die ("couldn't open file ".toList ++ value ++ ": ".toList ++ cause.reason.toList) 4
    return (parts, r.operands)

open LineEditor in
def sed : Utility := fun args => do
  let r ← requestOf sedForms 1 args
  let (parts, files) ← sedParts r
  let text := joinWith '\n' (parts.map (·.text))
  let hushed := text.take 3 == "#n\n".toList || text == "#n".toList
  match program ⟨r.has "E" || r.has "r"⟩ text with
  | .error ⟨fault, none⟩ => die fault (if fault == RegexError.bareClass.message.toList then 4 else 1)
  | .error ⟨fault, some taken⟩ => die (faultPlace parts taken ++ fault) 1
  | .ok list =>
    for name in writtenFiles list do
      if name != "/dev/stdout".toList && name != "/dev/stderr".toList then
        match ← writeFile name [] with
        | .ok _ => pure ()
        | .error cause =>
          die ("couldn't open file ".toList ++ name ++ ": ".toList ++ cause.reason.toList) 4
    let style : Style :=
      { quiet := r.has "n" || r.has "silent" || hushed
        separate := r.has "s" || r.has "i"
        inPlace := r.value? "i"
        feed := if r.has "z" then '\x00' else '\n'
        width := ((r.value? "l").bind nat?).getD 70 }
    let ranges := list.toArray.map fun c => match c.scope with
      | .fromStart _ => Progress.inside
      | _ => .outside
    let session : Session :=
      ⟨⟨[], true⟩, ⟨[], true⟩, 0, inputsOf files, [], [], [], false, ranges, none, [], [], none⟩
    let (_, after) ← (cycles style list.toArray 1000000 false).run session
    let _ ← (finishFile style).run after

end TlaDigest.Script.Utility
