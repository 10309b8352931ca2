import TlaDigest.Text.Blank

/-!
# File paths

File paths as the tools print them. A path keeps its spelling; two paths name the same file when
their components agree, so repeated and trailing slashes and inner `.` components do not count,
while a leading `.` and every `..` do.
-/

namespace TlaDigest

/-- A path, as it was spelled. -/
structure Path where
  text : String
deriving DecidableEq, Repr

namespace Path

open Text

inductive Component where
  | root
  | here
  | up
  | name (text : List Char)
deriving DecidableEq, Repr

def segments (p : Path) : List (List Char) := splitOn '/' p.text.toList

/-- A segment that adds no component when it does not come first. -/
def isIgnored (segment : List Char) : Bool := segment == [] || segment == ['.']

def componentOf (segment : List Char) : Component :=
  if segment = ['.', '.'] then .up else .name segment

def laterComponents (segments : List (List Char)) : List Component :=
  (segments.filter fun s => !isIgnored s).map componentOf

/-- The steps of a path. An empty first segment with more to come is the root. -/
def components (p : Path) : List Component :=
  match p.segments with
  | [] => []
  | [[]] => []
  | [] :: rest => .root :: laterComponents rest
  | ['.'] :: rest => .here :: laterComponents rest
  | first :: rest => componentOf first :: laterComponents rest

/-- Two spellings of one path. -/
def same (p q : Path) : Bool := p.components == q.components

/-- Drops the segments at the end that add no component; `rev` lists them from the last one on. The
    first segment of a path always stays. -/
def dropIgnored : List (List Char) → List (List Char)
  | [] => []
  | [segment] => [segment]
  | segment :: rest => if isIgnored segment then dropIgnored rest else segment :: rest

/-- The last component, when it is a name, and the segments before it, last one first. -/
def lastName? (p : Path) : Option (List Char × List (List Char)) :=
  match dropIgnored p.segments.reverse with
  | [] => none
  | segment :: before =>
    if isIgnored segment || segment == ['.', '.'] then none else some (segment, before)

def fileName? (p : Path) : Option (List Char) := p.lastName?.map (·.1)

/-- A file name cut at its last dot: what stands before it and what follows. A name whose only dot
    comes first has no such cut. -/
def cutName (name : List Char) : Option (List Char × List Char) :=
  let (suffix, rest) := cutAt (· == '.') name.reverse
  match rest with
  | [] => none
  | [_] => none
  | _ :: stem => some (stem.reverse, suffix.reverse)

def stem? (p : Path) : Option String :=
  p.fileName?.map fun name =>
    match cutName name with
    | some (stem, _) => String.ofList stem
    | none => String.ofList name

def extension? (p : Path) : Option String :=
  (p.fileName?.bind cutName).map fun cut => String.ofList cut.2

def directoryText (rev : List (List Char)) : List Char :=
  match rev with
  | [] => []
  | [[]] => ['/']
  | rev => joinWith '/' rev.reverse

/-- `name` placed in the directory spelled `dir`. A rooted `name` replaces the directory. -/
def place (dir name : List Char) : List Char :=
  match name with
  | '/' :: _ => name
  | _ =>
    match dir.reverse with
    | [] => name
    | '/' :: _ => dir ++ name
    | _ => dir ++ '/' :: name

def join (p : Path) (name : String) : Path :=
  ⟨String.ofList (place p.text.toList name.toList)⟩

def parent? (p : Path) : Option Path :=
  match dropIgnored p.segments.reverse with
  | [] => none
  | [[]] => none
  | _ :: before => some ⟨String.ofList (directoryText (dropIgnored before))⟩

/-- The file called `name` beside `p`: it replaces the file name of `p`, if there is one. -/
def sibling (p : Path) (name : String) : Path :=
  match p.lastName? with
  | some (_, before) => ⟨String.ofList (place (directoryText (dropIgnored before)) name.toList)⟩
  | none => p.join name

def siblingModule (p : Path) (name : String) : Path := p.sibling (name ++ ".tla")

end Path

end TlaDigest
