import TlaDigest.Script.Arithmetic
import TlaDigest.Script.Pattern
import TlaDigest.Script.Shell

/-!
# Expanding words

The parts of a word become scraps of text; scraps make fields, split where an expansion that is not
quoted has separators; and a field that is a pattern stands for the files that fit it.
-/

namespace TlaDigest.Script

open Text

inductive Scrap where
  /-- Text, quoted or not, which separators may split. -/
  | text (cs : Octets) (quoted splits : Bool)
  | boundary
deriving DecidableEq, Repr

/-- What expansion needs of the level below: to expand another word, loosely or not, and to take what a
    statement prints. -/
structure Expander where
  word (loose : Bool) (w : Word) : ShellM (List Scrap)
  capture (body : Statement) : ShellM Octets

namespace Expansion

/-! ### Fields -/

def glyphs (quoted : Bool) (cs : Octets) : List Glyph := cs.map fun c => ⟨c, quoted⟩

structure Splitting where
  /-- The fields that are done, the last one first. -/
  done : List (List Glyph)
  /-- The field that has begun, from its end. -/
  current : Option (List Glyph)
  afterBlank : Bool

namespace Splitting

def start : Splitting := ⟨[], none, false⟩

def add (s : Splitting) (more : List Glyph) : Splitting :=
  { s with current := some (more.reverse ++ s.current.getD []), afterBlank := false }

def close (s : Splitting) : Splitting :=
  match s.current with
  | some field => { s with done := field.reverse :: s.done, current := none }
  | none => s

def split (separators : Octets) (s : Splitting) (c : Char) : Splitting :=
  if !separators.contains c then s.add [⟨c, false⟩]
  else if c == ' ' || c == '\t' || c == '\n' then
    match s.current with
    | some _ => { s.close with afterBlank := true }
    | none => s
  else if s.current.isNone && s.afterBlank then { s with afterBlank := false }
  else { s.add [] with afterBlank := false }.close

def take (separators : Octets) (s : Splitting) : Scrap → Splitting
  | .text cs true _ => s.add (glyphs true cs)
  | .text cs false true => cs.foldl (split separators) s
  | .text cs false false => if cs.isEmpty then s else s.add (glyphs false cs)
  | .boundary => { s.close with afterBlank := false }

end Splitting

def fieldsOf (separators : Octets) (scraps : List Scrap) : List (List Glyph) :=
  (scraps.foldl (Splitting.take separators) .start).close.done.reverse

def glyphsOf (scraps : List Scrap) : List Glyph := scraps.flatMap fun
  | .text cs quoted _ => glyphs quoted cs
  | .boundary => [⟨' ', true⟩]

/-! ### Parameters -/

def parameterFields (sh : Shell) (quoted : Bool) : List Scrap :=
  (sh.parameters.map fun p => Scrap.text p quoted (!quoted)).intersperse .boundary

/-- All parameters in one text, joined by the first separator. -/
def parameterText (sh : Shell) : Octets :=
  let join := match (sh.bindings.lookup "IFS".toList).bind Binding.value with
    | none => [' ']
    | some separators => separators.take 1
  (sh.parameters.intersperse join).flatten

def isAll (name : Octets) : Bool := name == ['@'] || name == ['*']

/-- The value of a parameter, also of those that stand for all. -/
def valueOf? (sh : Shell) (name : Octets) : Option Octets :=
  if isAll name then
    if sh.parameters.isEmpty then none else some (sh.parameters.intersperse [' ']).flatten
  else sh.value? name

def valueScraps (sh : Shell) (name : Octets) (quoted : Bool) : List Scrap :=
  if name == ['@'] || (name == ['*'] && !quoted) then parameterFields sh quoted
  else if name == ['*'] then [.text (parameterText sh) true false]
  else [.text ((sh.value? name).getD []) quoted (!quoted)]

/-- The value of a parameter, which has to be set where that is asked for. -/
def boundValue (name : Octets) : ShellM Octets := do
  let sh ← get
  match valueOf? sh name with
  | some v => return v
  | none =>
    if sh.has .bound && !isAll name then ShellM.fail (name ++ ": parameter not set".toList)
    else return []

def counts (empty : Bool) : Option Octets → Bool
  | none => false
  | some v => !(empty && v.isEmpty)

def parameter (e : Expander) (name : Octets) (form : Form) (quoted : Bool) : ShellM (List Scrap) := do
  let sh ← get
  let value := valueOf? sh name
  let one (cs : Octets) : List Scrap := [.text cs quoted (!quoted)]
  match form with
  | .plain =>
    let _ ← boundValue name
    return valueScraps sh name quoted
  | .length => return one (decimal (← boundValue name).length)
  | .otherwise empty w =>
    if counts empty value then return valueScraps sh name quoted else e.word (!quoted) w
  | .instead empty w =>
    if counts empty value then e.word (!quoted) w else return one []
  | .assigned empty w =>
    if counts empty value then return valueScraps sh name quoted
    else if isName name then
      let text := plain (glyphsOf (← e.word false w))
      ShellM.assign name text
      return one text
    else ShellM.fail (name ++ ": bad variable name".toList)
  | .required empty w =>
    if counts empty value then return valueScraps sh name quoted
    else
      let text := plain (glyphsOf (← e.word false w))
      let usual := if empty then "parameter not set or null" else "parameter not set"
      ShellM.fail (name ++ ": ".toList ++ if text.isEmpty then usual.toList else text)
  | .trimmed atEnd longest w =>
    let text ← boundValue name
    let pattern := Pattern.ofGlyphs (glyphsOf (← e.word false w))
    return one (Pattern.trim atEnd longest pattern text)
  | .invalid => ShellM.fail "Bad substitution".toList

def arithmetic (text : Octets) : ShellM Octets := do
  let sh ← get
  match Arithmetic.value (fun name => (sh.value? name).getD []) text with
  | .error fault => ShellM.fail (fault.message text)
  | .ok (n, assigned) =>
    for (name, m) in assigned do
      ShellM.assign name (numeral m)
    return numeral n

def piece (e : Expander) (loose : Bool) : Piece → ShellM (List Scrap)
  | .literal text quoted => return [.text text quoted (loose && !quoted)]
  | .parameter name form quoted => parameter e name form quoted
  | .substitution body quoted => do
    return [.text (← e.capture body) quoted (!quoted)]
  | .arithmetic w quoted => do
    let text := plain (glyphsOf (← e.word false w))
    return [.text (← arithmetic text) quoted (!quoted)]

/-! ### Home directories -/

/-- The home directory of a user; nobody is the one who runs the shell. -/
def homeOf? (sh : Shell) (user : Octets) : Option Octets :=
  if user.isEmpty then sh.binding? "HOME".toList
  else do
    let bytes ← (sh.world.tree.read ⟨"/etc/passwd"⟩).toOption
    let entry ← ((splitOn '\n' (ofBytes bytes)).map (splitOn ':')).find? fun entry => entry.head? == some user
    entry[5]?

/-- A text with a home directory for the tilde at its front and the name after it. The name has to end in
    the text, which is `closed` when nothing follows. -/
def homed (sh : Shell) (closed : Bool) (text : Octets) : Word :=
  match text with
  | '~' :: rest =>
    let (user, rest) := cutAt (· == '/') rest
    match if closed || !rest.isEmpty then homeOf? sh user else none with
    | some home => [.literal home (!home.isEmpty), .literal rest false]
    | none => [.literal text false]
  | text => [.literal text false]

/-- A word with home directories for tildes: at its front, and in the value of an `assignment` also after
    colons. -/
def withHomes (sh : Shell) (assignment : Bool) (w : Word) : Word :=
  w.zipIdx.flatMap fun (piece, i) =>
    match piece with
    | .literal text false =>
      if !text.contains '~' then [piece]
      else
        let parts := if assignment then splitOn ':' text else [text]
        let expanded := parts.zipIdx.map fun (part, j) =>
          let closed := j + 1 < parts.length || i + 1 == w.length
          if i == 0 || 0 < j then homed sh closed part else [.literal part false]
        (expanded.intersperse [.literal [':'] false]).flatten
    | piece => [piece]

def word (e : Expander) (loose : Bool) (w : Word) : ShellM (List Scrap) := do
  let scraps ← (withHomes (← get) false w).mapM (piece e loose)
  return scraps.flatten

/-! ### Files -/

def nameOctets (name : List Char) : Octets := octets (String.ofList name)

/-- The names in a directory that fit a pattern, in order. A dot at the front has to be written out. -/
def namesThatFit (tree : FileTree) (dir : Octets) (pattern : List PatternItem) : List Octets :=
  let path : Path := ⟨if dir.isEmpty then "." else plainText dir⟩
  let names := match tree.locate path with
    | .ok place => (tree.names place).map nameOctets
    | .error _ => []
  let names := if pattern.head? == some (.exactly '.') then [['.'], ['.', '.']] ++ names else names
  let shown := names.filter fun name =>
    (name.head? != some '.' || pattern.head? == some (.exactly '.')) && Pattern.fits pattern name
  shown.mergeSort fun a b => !decide (b < a)

/-- The paths that fit patterns for their segments, from a directory on. -/
def pathsThatFit (tree : FileTree) (dir : Octets) : List (List Glyph) → List Octets
  | [] => [dir]
  | segment :: rest =>
    let pattern := Pattern.ofGlyphs segment
    let slash := if rest.isEmpty then [] else ['/']
    if Pattern.isOpen pattern then
      (namesThatFit tree dir pattern).flatMap fun name => pathsThatFit tree (dir ++ name ++ slash) rest
    else
      let path := dir ++ plain segment
      if rest.isEmpty then
        let there := match tree.locate ⟨plainText path⟩ with
          | .ok place => if segment.isEmpty then tree.isDirectory place else tree.isThere place
          | .error _ => false
        if there then [path] else []
      else pathsThatFit tree (path ++ slash) rest

def segments (field : List Glyph) : List (List Glyph) :=
  field.foldr (fun g acc => if g.char == '/' then [] :: acc else
    match acc with
    | first :: rest => (g :: first) :: rest
    | [] => [[g]]) [[]]

/-- A field, or the files that fit it when it is a pattern. -/
def filesFor (sh : Shell) (field : List Glyph) : List Octets :=
  if sh.has .literal || !Pattern.isOpen (Pattern.ofGlyphs field) then [plain field]
  else
    match pathsThatFit sh.world.tree [] (segments field) with
    | [] => [plain field]
    | paths => paths

def fields (e : Expander) (words : List Word) : ShellM (List Octets) := do
  let scraps ← words.mapM (word e false)
  let sh ← get
  return scraps.flatMap fun s => (fieldsOf sh.separators s).flatMap (filesFor sh)

/-- The text that a word expands to, with what is quoted in it. -/
def joined (e : Expander) (w : Word) : ShellM (List Glyph) := do
  return glyphsOf (← word e false w)

def text (e : Expander) (w : Word) : ShellM Octets := do
  return plain (← joined e w)

def value (e : Expander) (w : Word) : ShellM Octets := do
  text e (withHomes (← get) true w)

end Expansion

end TlaDigest.Script
