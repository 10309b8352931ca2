import TlaDigest.Script.Utility.Ordering
import TlaDigest.Script.Utility.Search

/-!
# Filing

Programs that list, make, copy, move and remove files.
-/

namespace TlaDigest.Script.Utility

open Text JobM

/-! ### Entries -/

/-- What a name stands for: its place, and what lies there. -/
def entryOf (follows : Bool) (name : Octets) : JobM (Except FileError (Place × FileEntry)) := do
  let tree := (← get).tree
  match tree.locateWith follows (pathOf name) with
  | .error cause => return .error cause
  | .ok place =>
    match tree.entry? place with
    | some (.link target) => return .ok (place, .link target)
    | other =>
      if tree.isDirectory place then return .ok (place, .directory)
      else match other with
        | some entry => return .ok (place, entry)
        | none => return .error .notFound

def isDirectoryName (name : Octets) : JobM Bool := do return (← get).tree.holdsDirectory (pathOf name)

def nameIn (dir name : Octets) : Octets := if dir.getLast? == some '/' then dir ++ name else dir ++ '/' :: name

/-- A message about something that cannot be done to a file. -/
def cannot (what : String) (name : Octets) (cause : FileError) : JobM Unit :=
  complain (what.toList ++ quotedName name ++ ": ".toList ++ cause.reason.toList) 1

/-- Does something for each of the operands, of which there has to be one. -/
def eachOperand (r : Request) (f : Octets → JobM Unit) : JobM Unit := do
  if r.operands.isEmpty then missingOperand 1
  for name in r.operands do f name

/-! ### Making and removing -/

/-- The directories on the way to a path, the topmost first. -/
def waysTo (name : Octets) : List Octets :=
  let parts := (splitOn '/' name).filter fun p => !p.isEmpty
  let start : Octets := if name.head? == some '/' then ['/'] else []
  (List.range parts.length).map fun i => start ++ joinWith '/' (parts.take (i + 1))

def mkdir : Utility := fun args => do
  let forms := [plainOption 'p' "parents", plainOption 'v' "verbose", valuedOption 'm' "mode",
    plainOption 'Z' ""]
  let r ← requestOf forms 1 args
  let tell (name : Octets) : JobM Unit := do
    if r.has "v" then line ((← get).called ++ ": created directory ".toList ++ quotedName name)
  let make (name : Octets) : JobM Bool := do
    match ← change fun tree => tree.makeDirectory (pathOf name) with
    | .ok _ =>
      tell name
      return true
    | .error cause =>
      cannot "cannot create directory " name cause
      return false
  let rec makeAll : List Octets → JobM Unit
    | [] => return ()
    | name :: rest => do
      if ← isDirectoryName name then makeAll rest
      else
        match ← entryOf true name with
        | .ok _ => cannot "cannot create directory " name (if rest.isEmpty then .alreadyThere else .notDirectory)
        | .error _ => if ← make name then makeAll rest else return ()
  eachOperand r fun name => do
    if r.has "p" && !name.isEmpty then makeAll (waysTo name)
    else
      let _ ← make name

def removeDirectory (name : Octets) : JobM (Except FileError Unit) := do
  match ← entryOf false name with
  | .error cause => return .error cause
  | .ok (place, .directory) =>
    let tree := (← get).tree
    if !(tree.names place).isEmpty then return .error .notEmpty
    else
      let tree := tree.remove place
      -- A directory stays when the last file in it goes.
      let above := place.dropLast
      let tree := if above.isEmpty || (tree.entry? above).isSome then tree else tree.put above .directory
      modify fun j => { j with tree := tree }
      return .ok ()
  | .ok _ => return .error .notDirectory

def rmdir : Utility := fun args => do
  let forms := [plainOption 'p' "parents", plainOption 'v' "verbose",
    namedOption "ignore-fail-on-non-empty" .nothing]
  let r ← requestOf forms 1 args
  let removeOne (name : Octets) : JobM Bool := do
    if r.has "v" then line ((← get).called ++ ": removing directory, ".toList ++ quotedName name)
    match ← removeDirectory name with
    | .ok _ => return true
    | .error cause =>
      if !(cause == .notEmpty && r.has "ignore-fail-on-non-empty") then
        cannot "failed to remove " name cause
      return false
  let rec removeAll : List Octets → JobM Unit
    | [] => return ()
    | name :: rest => do if ← removeOne name then removeAll rest else return ()
  eachOperand r fun name => do
    if r.has "p" then removeAll (waysTo name).reverse
    else
      let _ ← removeOne name

/-- Takes an entry away; the directory in which it lay stays. -/
def dropEntry (place : Place) : JobM Unit :=
  modify fun j =>
    let tree := j.tree.removeAll place
    let above := place.dropLast
    let tree := if above.isEmpty || (tree.entry? above).isSome then tree else tree.put above .directory
    { j with tree := tree }

/-- Everything below a place with its name, the deepest first. -/
def namesBelow (tree : FileTree) : Nat → Place → Octets → List (Octets × Bool)
  | 0, _, _ => []
  | fuel + 1, place, name =>
    let inside := (tree.names place).flatMap fun n =>
      namesBelow tree fuel (place ++ [n]) (nameIn name (octets (String.ofList n)))
    inside ++ [(name, tree.isDirectory place)]

def agrees (question : Octets) : JobM Bool := do
  err ((← get).called ++ ": ".toList ++ question ++ "? ".toList)
  match ← readInput with
  | .error _ => return false
  | .ok text =>
    let answer := text.takeWhile (· != '\n')
    unread (text.drop (answer.length + 1))
    return answer.head? == some 'y' || answer.head? == some 'Y'

def rm : Utility := fun args => do
  let forms := [plainOption 'f' "force", plainOption 'i' "", plainOption 'I' "",
    namedOption "interactive" .maybe, namedOption "no-preserve-root" .nothing,
    namedOption "preserve-root" .maybe, namedOption "one-file-system" .nothing, plainOption 'r' "recursive",
    plainOption 'R' "", plainOption 'd' "dir", plainOption 'v' "verbose"]
  let r ← requestOf forms 1 args
  let deep := r.has "r" || r.has "R"
  let asks := (r.last? ["f", "i"]).map (·.1) == some "i"
  if r.operands.isEmpty && r.has "f" then stop 0
  let removed (name : Octets) (directory : Bool) : JobM Unit := do
    if r.has "v" then line ((if directory then "removed directory " else "removed ").toList ++ quotedName name)
  eachOperand r fun name => do
    let bare := lastName [] name
    match ← entryOf false name with
    | .error cause =>
      if !(r.has "f" && (cause == .notFound || cause == .notDirectory)) then cannot "cannot remove " name cause
    | .ok (place, .directory) =>
      if deep && place.isEmpty then
        complain ("it is dangerous to operate recursively on ".toList ++ quotedName name) 1
        say "use --no-preserve-root to override this failsafe".toList
      else if deep && (bare == ['.'] || bare == ['.', '.']) then
        complain ("refusing to remove '.' or '..' directory: skipping ".toList ++ quotedName name) 1
      else if deep then
        let tree := (← get).tree
        let below := namesBelow tree (tree.entries.length + 1) place name
        dropEntry place
        for (name, directory) in below do removed name directory
      else if r.has "d" then
        match ← removeDirectory name with
        | .ok _ => removed name true
        | .error cause => cannot "cannot remove " name cause
      else cannot "cannot remove " name .isDirectory
    | .ok (place, entry) =>
      let kind : String := match entry with
        | .file [] _ => "remove regular empty file "
        | .link _ => "remove symbolic link "
        | _ => "remove regular file "
      let goes ← if asks then agrees (kind.toList ++ quotedName name) else pure true
      if goes then
        dropEntry place
        removed name false

def touch : Utility := fun args => do
  let forms := [plainOption 'a' "", plainOption 'c' "no-create", valuedOption 'd' "date", plainOption 'f' "",
    plainOption 'h' "no-dereference", plainOption 'm' "", valuedOption 'r' "reference", valuedOption 't' "",
    namedOption "time" .value]
  let r ← requestOf forms 1 args
  if r.operands.isEmpty then misuse "missing file operand".toList 1
  for name in r.operands do
    match ← entryOf true name with
    | .ok (place, entry) => modify fun j => { j with tree := j.tree.put place entry }
    | .error cause =>
      if r.has "c" && cause == .notFound then pure ()
      else if name.getLast? == some '/' then cannot "setting times of " name cause
      else
        match ← writeFile name [] with
        | .ok _ => pure ()
        | .error cause => cannot "cannot touch " name cause

/-! ### Copying and moving -/

/-- The sources and the target of a command line: the target is the last operand, unless it is named. -/
def sourcesAndTarget (r : Request) : JobM (List Octets × Octets) := do
  match r.value? "t", r.operands.reverse with
  | some _, [] => misuse "missing file operand".toList 1
  | some target, _ => return (r.operands, target)
  | none, [] => misuse "missing file operand".toList 1
  | none, [name] => misuse ("missing destination file operand after ".toList ++ quotedName name) 1
  | none, target :: sources => return (sources.reverse, target)

/-- Whether things go into a directory. Several of them have to. -/
def goesInto (r : Request) (sources : List Octets) (target : Octets) : JobM Bool := do
  let directory ← isDirectoryName target
  if r.has "T" then
    match sources with
    | _ :: extra :: _ => extraOperand extra 1
    | _ => return false
  else if directory then return true
  else if 1 < sources.length || r.has "t" then
    let cause := match ← entryOf true target with
      | .ok _ => FileError.notDirectory
      | .error cause => cause
    let what : String := if r.has "t" then "target directory " else "target "
    die (what.toList ++ quotedName target ++ ": ".toList ++ cause.reason.toList) 1
  else return false

def refusal? (name : Octets) : JobM (Option FileError) := do
  let j ← get
  match j.tree.locate (pathOf name) with
  | .error cause => return some (if name.getLast? == some '/' && cause == .notFound then .notDirectory else cause)
  | .ok place =>
    if name.getLast? == some '/' && !j.tree.isDirectory place then return some .notDirectory
    else if j.tree.isDirectory place.dropLast then return none
    else return some (j.tree.blocked place.dropLast)

def isBelow (outer inner : Place) : Bool := outer.isPrefixOf inner && outer.length < inner.length

def copyOne (r : Request) (source target : Octets) : JobM Unit := do
  let deep := r.has "r" || r.has "R" || r.has "a"
  let follows := !(r.has "P" || r.has "d" || r.has "a" || (deep && !r.has "L"))
  let tell : JobM Unit := do
    if r.has "v" then line (quotedName source ++ " -> ".toList ++ quotedName target)
  match ← entryOf follows source with
  | .error cause => cannot "cannot stat " source cause
  | .ok (place, entry) =>
    let other ← entryOf true target
    match other with
    | .error .notDirectory => cannot "cannot stat " target .notDirectory
    | _ =>
    let blocked := r.has "n" && other.toOption.isSome
    match entry, other with
    | .directory, other =>
      if !deep then complain ("-r not specified; omitting directory ".toList ++ quotedName source) 1
      else
        match other with
        | .ok (otherPlace, .directory) =>
          if isBelow place otherPlace || place == otherPlace then
            complain ("cannot copy a directory, ".toList ++ quotedName source ++ ", into itself, ".toList ++
              quotedName target) 1
          else
            tell
            modify fun j => { j with tree := j.tree.copyAll place otherPlace }
        | .ok _ =>
          complain ("cannot overwrite non-directory ".toList ++ quotedName target ++ " with directory ".toList ++
            quotedName source) 1
        | .error _ =>
          match (← get).tree.locate (pathOf (withoutSlashes target)) with
          | .error cause => cannot "cannot create directory " target cause
          | .ok otherPlace =>
            if isBelow place otherPlace then
              complain ("cannot copy a directory, ".toList ++ quotedName source ++ ", into itself, ".toList ++
                quotedName target) 1
            else if !(← get).tree.isDirectory otherPlace.dropLast then
              cannot "cannot create directory " target .notFound
            else
              tell
              modify fun j => { j with tree := (j.tree.copyAll place otherPlace).put otherPlace .directory }
    | _, .ok (_, .directory) =>
      complain ("cannot overwrite directory ".toList ++ quotedName target ++ " with non-directory".toList) 1
    | .link path, _ =>
      match (← get).tree.locateEntry (pathOf target) with
      | .ok otherPlace =>
        tell
        modify fun j => { j with tree := j.tree.put otherPlace (.link path) }
      | .error cause => cannot "cannot create symbolic link " target cause
    | entry, other =>
      let same := match other with
        | .ok (otherPlace, _) => place == otherPlace
        | .error _ => false
      if same then
        complain (quotedName source ++ " and ".toList ++ quotedName target ++ " are the same file".toList) 1
      else if blocked then pure ()
      else
        match ← refusal? target with
        | some cause => cannot "cannot create regular file " target cause
        | none =>
          let isNew := other.toOption.isNone
          let program := match entry with
            | .file _ program => program
            | _ => false
          let bytes := ((← get).tree.file? place).getD []
          match ← change fun tree => tree.write (pathOf target) bytes with
          | .error cause => cannot "cannot create regular file " target cause
          | .ok _ =>
            if isNew && program then
              match (← get).tree.locate (pathOf target) with
              | .ok otherPlace =>
                modify fun j => { j with tree := j.tree.put otherPlace (.file bytes true) }
              | .error _ => pure ()
            tell
where
  /-- A name without the slashes at its end. -/
  withoutSlashes (name : Octets) : Octets := (name.reverse.dropWhile (· == '/')).reverse

def copyForms : List OptionForm := [
  plainOption 'a' "archive", plainOption 'b' "backup", plainOption 'd' "", plainOption 'f' "force",
  plainOption 'H' "", plainOption 'i' "interactive", plainOption 'L' "dereference", plainOption 'l' "link",
  plainOption 'n' "no-clobber", plainOption 'P' "no-dereference", plainOption 'p' "preserve",
  plainOption 'R' "recursive", plainOption 'r' "", plainOption 's' "symbolic-link",
  valuedOption 'S' "suffix", valuedOption 't' "target-directory", plainOption 'T' "no-target-directory",
  plainOption 'u' "update", plainOption 'v' "verbose", plainOption 'x' "one-file-system"]

def cp : Utility := fun args => do
  let r ← requestOf copyForms 1 args
  let (sources, target) ← sourcesAndTarget r
  let into ← goesInto r sources target
  for source in sources do
    copyOne r source (if into then nameIn target (lastName [] source) else target)

def moveOne (r : Request) (source target : Octets) : JobM Unit := do
  let tell : JobM Unit := do
    if r.has "v" then line ("renamed ".toList ++ quotedName source ++ " -> ".toList ++ quotedName target)
  let refuse (cause : FileError) : JobM Unit :=
    complain ("cannot move ".toList ++ quotedName source ++ " to ".toList ++ quotedName target ++
      ": ".toList ++ cause.reason.toList) 1
  match ← entryOf false source with
  | .error cause => cannot "cannot stat " source cause
  | .ok (place, entry) =>
    let go (otherPlace : Place) : JobM Unit := do
      let above := place.dropLast
      modify fun j =>
        let tree := j.tree.move place otherPlace
        let tree := if entry = .directory && (tree.entry? otherPlace).isNone then tree.put otherPlace .directory
          else tree
        let tree := if above.isEmpty || (tree.entry? above).isSome then tree else tree.put above .directory
        { j with tree := tree }
      tell
    match ← entryOf false target with
    | .ok (otherPlace, other) =>
      if place == otherPlace then
        complain (quotedName source ++ " and ".toList ++ quotedName target ++ " are the same file".toList) 1
      else if r.has "n" then complain ("not replacing ".toList ++ quotedName target) 1
      else if entry = .directory && isBelow place otherPlace then
        complain ("cannot move ".toList ++ quotedName source ++ " to a subdirectory of itself, ".toList ++
          quotedName target) 1
      else if entry = .directory && other ≠ .directory then
        complain ("cannot overwrite non-directory ".toList ++ quotedName target ++ " with directory ".toList ++
          quotedName source) 1
      else if entry ≠ .directory && other = .directory then
        complain ("cannot overwrite directory ".toList ++ quotedName target ++ " with non-directory".toList) 1
      else if other = .directory && !((← get).tree.names otherPlace).isEmpty then
        cannot "cannot overwrite " target .notEmpty
      else go otherPlace
    | .error _ =>
      let target' := if entry = .directory then (target.reverse.dropWhile (· == '/')).reverse else target
      match ← refusal? target' with
      | some cause => refuse cause
      | none =>
        match (← get).tree.locateEntry (pathOf target') with
        | .error cause => refuse cause
        | .ok otherPlace =>
          if entry = .directory && isBelow place otherPlace then
            complain ("cannot move ".toList ++ quotedName source ++ " to a subdirectory of itself, ".toList ++
              quotedName target) 1
          else go otherPlace

def mv : Utility := fun args => do
  let forms := copyForms.filter fun f => ["b", "f", "i", "n", "S", "t", "T", "u", "v"].contains f.key
  let r ← requestOf forms 1 args
  let (sources, target) ← sourcesAndTarget r
  let into ← goesInto r sources target
  for source in sources do
    moveOne r source (if into then nameIn target (lastName [] source) else target)

/-! ### Links -/

def linkOne (r : Request) (source name : Octets) : JobM Unit := do
  let symbolic := r.has "s"
  let fault (cause : FileError) : JobM Unit :=
    cannot (if symbolic then "failed to create symbolic link " else "failed to create hard link ") name cause
  let entry ← if symbolic then pure (Except.ok (FileEntry.link (pathOf source))) else do
    match ← entryOf false source with
    | .ok (_, .directory) => pure (.error none)
    | .ok (_, entry) => pure (.ok entry)
    | .error cause => pure (.error (some cause))
  match entry with
  | .error none => complain (shownName source ++ ": hard link not allowed for directory".toList) 1
  | .error (some cause) => cannot "failed to access " source cause
  | .ok entry =>
    match (← get).tree.locateEntry (pathOf name) with
    | .error cause => fault cause
    | .ok place =>
      if (← get).tree.isThere place && !r.has "f" then fault .alreadyThere
      else if !(← get).tree.isDirectory place.dropLast then fault ((← get).tree.blocked place.dropLast)
      else
        modify fun j => { j with tree := j.tree.put place entry }
        if r.has "v" then
          line (quotedName name ++ (if symbolic then " -> " else " => ").toList ++ quotedName source)

def ln : Utility := fun args => do
  let forms := [plainOption 'f' "force", plainOption 'i' "interactive", plainOption 'L' "logical",
    plainOption 'n' "no-dereference", plainOption 'P' "physical", plainOption 'r' "relative",
    plainOption 's' "symbolic", valuedOption 't' "target-directory", plainOption 'T' "no-target-directory",
    plainOption 'v' "verbose"]
  let r ← requestOf forms 1 args
  match r.value? "t", r.operands with
  | _, [] => misuse "missing file operand".toList 1
  | none, [source] => linkOne r source (lastName [] source)
  | none, operands =>
    let target := operands.getLastD []
    let sources := operands.dropLast
    let into ← if r.has "n" && !(target.getLast? == some '/') && Condition.isLink (← get).tree target
      then pure false else goesInto r sources target
    for source in sources do
      linkOne r source (if into then nameIn target (lastName [] source) else target)
  | some target, sources => for source in sources do linkOne r source (nameIn target (lastName [] source))

/-- The place that a name stands for in the end, with as much of it missing as is allowed. -/
def canonical (r : Request) (name : Octets) : JobM (Except FileError Octets) := do
  let tree := (← get).tree
  match tree.locate (pathOf name) with
  | .ok place =>
    if r.has "e" && !tree.isThere place then return .error .notFound
    else if !tree.isDirectory place.dropLast && !r.has "m" then return .error (tree.blocked place.dropLast)
    else return .ok (placePath place)
  | .error cause =>
    if r.has "m" then
      let start : Octets := if name.head? == some '/' then [] else placePath tree.working
      return .ok (placePath (FileTree.placeOf (plainText (nameIn start name))))
    else return .error cause

def readlink : Utility := fun args => do
  let forms := [plainOption 'f' "canonicalize", plainOption 'e' "canonicalize-existing",
    plainOption 'm' "canonicalize-missing", plainOption 'n' "no-newline", plainOption 'q' "quiet",
    plainOption 's' "silent", plainOption 'v' "verbose", plainOption 'z' "zero"]
  let r ← requestOf forms 1 args
  let ends := if r.has "n" && r.operands.length < 2 then [] else ending r
  let fail (name : Octets) (cause : FileError) : JobM Unit := do
    if r.has "v" then unreadable name cause 1 else worsen 1
  eachOperand r fun name => do
    if r.has "f" || r.has "e" || r.has "m" then
      match ← canonical r name with
      | .ok path => out (path ++ ends)
      | .error cause => fail name cause
    else
      match ← entryOf false name with
      | .ok (_, .link target) => out (octets target.text ++ ends)
      | .ok _ => fail name .invalid
      | .error cause => fail name cause

def realpath : Utility := fun args => do
  let forms := [plainOption 'e' "canonicalize-existing", plainOption 'm' "canonicalize-missing",
    plainOption 'L' "logical", plainOption 'P' "physical", plainOption 'q' "quiet",
    plainOption 's' "no-symlinks", plainOption 'z' "zero"]
  let r ← requestOf forms 1 args
  eachOperand r fun name => do
    match ← canonical r name with
    | .ok path => out (path ++ ending r)
    | .error cause => if r.has "q" then worsen 1 else unreadable name cause 1

/-! ### Names for new files -/

def madeUpChars : List Char := "abcdefghijklmnopqrstuvwxyzABCDEFGHIJKLMNOPQRSTUVWXYZ0123456789".toList

def madeUp : Nat → Nat → Octets
  | 0, _ => []
  | size + 1, n => (madeUpChars[n % 62]?).getD 'a' :: madeUp size (n / 62 * 31 + n * 7 + 17)

/-- The parts of a template: what comes before its last run of capital letters, their number, and what
    follows. -/
def templateParts (template : Octets) : Octets × Nat × Octets :=
  let backwards := template.reverse
  let ending := backwards.takeWhile (· != 'X')
  if !template.contains 'X' || ending.contains '/' then (template, 0, [])
  else
    let rest := backwards.drop ending.length
    let run := rest.takeWhile (· == 'X')
    ((rest.drop run.length).reverse, run.length, ending.reverse)

def mktemp : Utility := fun args => do
  let forms := [plainOption 'd' "directory", plainOption 'u' "dry-run", plainOption 'q' "quiet",
    namedOption "suffix" .value, valuedOption 'p' "", namedOption "tmpdir" .maybe, plainOption 't' ""]
  let r ← requestOf forms 1 args
  let fail {α : Type} (text : Octets) : JobM α := if r.has "q" then stop 1 else die text 1
  let template ← match r.operands with
    | [] => pure none
    | [t] => pure (some t)
    | _ => misuse "too many templates".toList 1
  let usual := ((← get).environment.lookup "TMPDIR".toList).filter (fun d => !d.isEmpty)
  let named := (r.last? ["p", "tmpdir"]).map (·.2)
  let base := (named.filter fun d => !d.isEmpty).getD (usual.getD "/tmp".toList)
  let chosen := template.getD "tmp.XXXXXXXXXX".toList
  let (lead, size, trail) := templateParts chosen
  let extra := r.value? "suffix"
  if extra.isSome && !trail.isEmpty then
    fail ("with --suffix, template ".toList ++ quotedName chosen ++ " must end in X".toList)
  if size < 3 then fail ("too few X's in template ".toList ++ quotedName chosen)
  let inBase := template.isNone || named.isSome || r.has "t"
  if inBase && template.isSome && chosen.head? == some '/' && !r.has "t" then
    fail ("invalid template, ".toList ++ quotedName chosen ++ "; with --tmpdir, it may not be absolute".toList)
  let trail := trail ++ extra.getD []
  let pathFor (text : Octets) : Octets :=
    let name := lead ++ text ++ trail
    if inBase then nameIn base name else name
  let tree := (← get).tree
  let seed := 7919 * tree.entries.length + 104729
  let isFree (name : Octets) : Bool := match tree.locateEntry (pathOf name) with
    | .ok place => !tree.isThere place
    | .error _ => true
  let candidates := (List.range 100).map fun i => pathFor (madeUp size (seed + 15485863 * i))
  let path := (candidates.find? isFree).getD (candidates.headD [])
  let made ←
    if r.has "u" then pure (.ok ())
    else if r.has "d" then change fun tree => tree.makeDirectory (pathOf path)
    else writeFile path []
  match made with
  | .ok _ => line path
  | .error cause =>
    let kind : String := if r.has "d" then "directory" else "file"
    fail ("failed to create ".toList ++ kind.toList ++ " via template ".toList ++
      quotedName (pathFor (List.replicate size 'X')) ++ ": ".toList ++ cause.reason.toList)

/-! ### Permissions -/

/-- A change of permissions: whether files can be run after it. None is asked for where it says nothing. -/
def modeChange? (text : Octets) : Option (Bool → Bool) :=
  if !text.isEmpty && text.all isDecimalDigit then
    if text.all (fun c => (digitOf? 8 c).isSome) && (digitsAt 8 text).1 < 4096 then
      let bits := (digitsAt 8 text).1
      some fun _ => bits % 2 == 1 || bits / 8 % 2 == 1 || bits / 64 % 2 == 1
    else none
  else
    let clause? (text : Octets) : Option (Bool → Bool) :=
      let rest := text.dropWhile fun c => "ugoa".toList.contains c
      match rest with
      | op :: letters =>
        if !(letters.all fun c => "rwxXstugo".toList.contains c) then none
        else
          let runs := letters.contains 'x'
          match op with
          | '+' => some fun p => p || runs
          | '-' => some fun p => p && !runs
          | '=' => some fun _ => runs
          | _ => none
      | [] => none
    (((splitOn ',' text).mapM clause?)).map fun changes p => changes.foldl (fun p f => f p) p

def chmod : Utility := fun args => do
  let isMode (arg : Octets) : Bool := match arg with
    | '-' :: c :: _ => "rwxXst".toList.contains c
    | _ => false
  let forms := [plainOption 'R' "recursive", plainOption 'v' "verbose", plainOption 'c' "changes",
    plainOption 'f' "silent", namedOption "quiet" .nothing]
  let modes := args.filter isMode
  let r ← requestOf forms 1 (args.filter fun a => !isMode a)
  let operands := modes.take 1 ++ r.operands
  match operands with
  | [] => missingOperand 1
  | [mode] => misuse ("missing operand after ".toList ++ quotedName mode) 1
  | mode :: names =>
    match modeChange? mode with
    | none => misuse ("invalid mode: ".toList ++ quotedName mode) 1
    | some f =>
      for name in names do
        match ← entryOf true name with
        | .error cause => if r.has "f" then worsen 1 else cannot "cannot access " name cause
        | .ok (place, _) =>
          modify fun j =>
            let changed (e : Place × FileEntry) : Place × FileEntry :=
              if e.1 == place || (r.has "R" && place.isPrefixOf e.1) then
                match e.2 with
                | .file bytes program => (e.1, .file bytes (f program))
                | other => (e.1, other)
              else e
            { j with tree := { j.tree with entries := j.tree.entries.map changed } }

/-! ### Listing -/

structure Listed where
  name : Octets
  entry : FileEntry

namespace Listed

def size (e : Listed) : Nat :=
  match e.entry with
  | .directory => 4096
  | .file bytes _ => bytes.length
  | .link target => target.text.utf8ByteSize
  | .device _ => 0

def mode (e : Listed) : String :=
  match e.entry with
  | .directory => "drwxr-xr-x"
  | .file _ true => "-rwxr-xr-x"
  | .file _ false => "-rw-r--r--"
  | .link _ => "lrwxrwxrwx"
  | .device _ => "crw-rw-rw-"

def mark (r : Request) (e : Listed) : Octets :=
  match e.entry with
  | .directory => if r.has "F" || r.has "p" then ['/'] else []
  | .file _ true => if r.has "F" then ['*'] else []
  | .link _ => if r.has "F" then ['@'] else []
  | _ => []

def shown (r : Request) (e : Listed) : Octets :=
  let name := if r.has "Q" then '"' :: e.name ++ ['"']
    else if r.has "b" then e.name.flatMap fun c => if c == ' ' then ['\\', ' '] else [c]
    else e.name
  name ++ e.mark r

end Listed

def sortedEntries (r : Request) (list : List Listed) : List Listed :=
  let byName (a b : Listed) : Ordering := byteOrder a.name b.name
  let extension (n : Octets) : Octets :=
    if n.drop 1 |>.contains '.' then (n.reverse.takeWhile (· != '.')).reverse else []
  let order (a b : Listed) : Ordering :=
    if r.has "S" then (compare b.size a.size).then (byName a b)
    else if r.has "X" then (byteOrder (extension a.name) (extension b.name)).then (byName a b)
    else if r.has "v" then (versionOrder (a.name.length + b.name.length + 1) a.name b.name).then (byName a b)
    else byName a b
  let sorted := if r.has "U" then list else list.mergeSort fun a b => order a b != .gt
  if r.has "r" then sorted.reverse else sorted

def longLine (r : Request) (width : Nat) (e : Listed) : Octets :=
  let target := match e.entry with
    | .link t => " -> ".toList ++ octets t.text
    | _ => []
  e.mode.toList ++ " 1 root root ".toList ++ padLeft width (decimal e.size) ++ " Jan  1 00:00 ".toList ++
    e.shown r ++ target

def listLines (r : Request) (list : List Listed) : Octets :=
  let sorted := sortedEntries r list
  if r.has "l" then
    let width := (sorted.map fun e => (decimal e.size).length).foldl max 1
    unlines (sorted.map (longLine r width))
  else if r.has "m" then
    if sorted.isEmpty then []
    else ((sorted.map fun e => e.shown r).intersperse ", ".toList).flatten ++ ['\n']
  else unlines (sorted.map fun e => e.shown r)

def entriesIn (r : Request) (tree : FileTree) (place : Place) : List Listed :=
  let inside := (tree.names place).map fun n =>
    let entry := if tree.isDirectory (place ++ [n]) then FileEntry.directory
      else (tree.entry? (place ++ [n])).getD .directory
    Listed.mk (octets (String.ofList n)) entry
  let seen := if r.has "a" || r.has "A" then inside else inside.filter fun e => e.name.head? != some '.'
  if r.has "a" then [⟨['.'], .directory⟩, ⟨['.', '.'], .directory⟩] ++ seen else seen

/-- The list of a directory, and, if asked for, of those below it. -/
def directoryLists (r : Request) (tree : FileTree) (headed : Bool) : Nat → Place → Octets → List Octets
  | 0, _, _ => []
  | fuel + 1, place, name =>
    let inside := entriesIn r tree place
    let blocks := total (inside.map fun e => (e.size + 4095) / 4096 * 4)
    let own := (if headed then name ++ ":\n".toList else []) ++
      (if r.has "l" then "total ".toList ++ decimal blocks ++ ['\n'] else []) ++ listLines r inside
    let below := if r.has "R" then
      (sortedEntries r inside).flatMap fun e =>
        if e.entry = .directory && e.name != ['.'] && e.name != ['.', '.'] then
          directoryLists r tree true fuel (place ++ [(plainText e.name).toList]) (nameIn name e.name)
        else []
      else []
    own :: below

def ls : Utility := fun args => do
  let forms := ("1aAbBcCdDfFgGhHiklLmnNopqQrRsStuUvxXZ".toList.map fun c => plainOption c "") ++
    [valuedOption 'w' "width", valuedOption 'T' "tabsize", valuedOption 'I' "ignore",
      namedOption "all" .nothing, namedOption "almost-all" .nothing, namedOption "directory" .nothing,
      namedOption "reverse" .nothing, namedOption "recursive" .nothing, namedOption "color" .maybe,
      namedOption "sort" .value, namedOption "format" .value, namedOption "classify" .maybe,
      namedOption "group-directories-first" .nothing, namedOption "human-readable" .nothing]
  let r ← requestOf forms 2 args
  let longNames := [("all", "a"), ("almost-all", "A"), ("directory", "d"), ("reverse", "r"),
    ("recursive", "R"), ("classify", "F")]
  let r := { r with options := r.options.map fun o => ((longNames.lookup o.1).getD o.1, o.2) }
  let names := if r.operands.isEmpty then [['.']] else r.operands
  let mut files : List Listed := []
  let mut directories : List (Octets × Place) := []
  for name in names do
    match ← entryOf (!r.has "l" && !r.has "d") name with
    | .error cause =>
      let linked ← entryOf false name
      match cause, linked with
      | .notFound, .ok (_, .link target) => files := files ++ [⟨name, .link target⟩]
      | cause, _ => complain ("cannot access ".toList ++ quotedName name ++ ": ".toList ++ cause.reason.toList) 2
    | .ok (place, .directory) =>
      if r.has "d" then files := files ++ [⟨name, .directory⟩] else directories := directories ++ [(name, place)]
    | .ok (_, entry) => files := files ++ [⟨name, entry⟩]
  let tree := (← get).tree
  let sortedDirectories := directories.mergeSort fun a b => byteOrder a.1 b.1 != .gt
  let ordered := if r.has "r" then sortedDirectories.reverse else sortedDirectories
  let headed := 1 < names.length || r.has "R"
  let lists := ordered.flatMap fun (name, place) =>
    directoryLists r tree headed (tree.entries.length + 1) place name
  let own := if files.isEmpty then [] else [listLines r files]
  out ((own ++ lists).intersperse ['\n']).flatten

/-! ### Comparing and cutting -/

def cmp : Utility := fun args => do
  let forms := [plainOption 's' "silent", namedOption "quiet" .nothing, plainOption 'b' "print-bytes",
    plainOption 'l' "verbose", valuedOption 'n' "bytes"]
  let r ← requestOf forms 2 args
  let (a, b) ← match r.operands with
    | [] =>
      say ("missing operand after ".toList ++ quotedName (← get).called)
      die ("Try ".toList ++ inApostrophes ((← get).called ++ " --help".toList) ++ " for more information.".toList) 2
    | [a] => pure (a, ['-'])
    | a :: b :: _ => pure (a, b)
  let read (name : Octets) : JobM Octets := do
    match ← contents name with
    | .ok text => return text
    | .error cause => if r.has "s" then stop 2 else die (name ++ ": ".toList ++ cause.reason.toList) 2
  let x ← read a
  let y ← read b
  let limit := ((r.value? "n").bind nat?).getD (x.length + y.length)
  let x := x.take limit
  let y := y.take limit
  let same := ((x.zip y).takeWhile fun (c, d) => c == d).length
  if x.length == same && y.length == same then stop 0
  if r.has "s" then stop 1
  if same == x.length || same == y.length then
    let shorter := if same == x.length then a else b
    let lines := (x.take same).count '\n'
    let place : Octets := if same == 0 then " which is empty".toList
      else " after byte ".toList ++ decimal same ++
        (if x[same - 1]? == some '\n' then ", line ".toList ++ decimal lines
        else ", in line ".toList ++ decimal (lines + 1))
    die ("EOF on ".toList ++ shorter ++ place) 1
  line (a ++ ' ' :: b ++ " differ: char ".toList ++ decimal (same + 1) ++ ", line ".toList ++
    decimal ((x.take same).count '\n' + 1))
  stop 1

def truncate : Utility := fun args => do
  let forms := [plainOption 'c' "no-create", plainOption 'o' "io-blocks", valuedOption 'r' "reference",
    valuedOption 's' "size"]
  let r ← requestOf forms 1 args
  match r.value? "s" with
  | none => misuse "you must specify either '--size' or '--reference'".toList 1
  | some size =>
    if r.operands.isEmpty then misuse "missing file operand".toList 1
    let (sign, digits) := match size with
      | '+' :: rest => (some '+', rest)
      | '-' :: rest => (some '-', rest)
      | rest => (none, rest)
    match sizedNumber? digits with
    | none => die ("Invalid number: ".toList ++ quotedName size) 1
    | some n =>
      for name in r.operands do
        let before := ((← get).tree.read (pathOf name)).toOption
        if before.isNone && r.has "c" then continue
        let text := ofBytes (before.getD [])
        let target := match sign with
          | some '+' => text.length + n
          | some '-' => text.length - n
          | _ => n
        match ← writeFile name (text.take target ++ List.replicate (target - text.length) '\x00') with
        | .ok _ => pure ()
        | .error cause =>
          complain ("cannot open ".toList ++ quotedName name ++ " for writing: ".toList ++ cause.reason.toList) 1

end TlaDigest.Script.Utility
