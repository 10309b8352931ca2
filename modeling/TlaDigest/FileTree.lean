import TlaDigest.Files

/-!
# File trees

Files that are held in memory. A directory exists where something lies below it, or where it was
made. A path is followed segment by segment, from the root or from the working directory; links are
followed on the way, and what is not a directory cannot be passed through.
-/

namespace TlaDigest

/-- A place in a tree: the names on the way to it from the root. -/
abbrev Place := List (List Char)

inductive Device where
  /-- There is nothing to read, and what is written is lost. -/
  | null
  /-- There are zeros to read, and what is written is lost. -/
  | zero
  /-- There are zeros to read, and nothing can be written. -/
  | full
deriving DecidableEq, Repr

inductive FileEntry where
  | directory
  | file (bytes : List UInt8) (program : Bool)
  /-- Another name for a path, which starts where the link lies. -/
  | link (target : Path)
  | device (d : Device)
deriving DecidableEq, Repr

structure FileTree where
  working : Place
  /-- What was put where; the latest comes last. -/
  entries : List (Place × FileEntry)
deriving Repr

namespace FileTree

open Text

def entry? (t : FileTree) (place : Place) : Option FileEntry := t.entries.lookup place

/-- The bytes that a device gives; there is no end to the zeros, but so many are enough. -/
def bytesOf : Device → List UInt8
  | .null => []
  | _ => List.replicate 2097152 0

def file? (t : FileTree) (place : Place) : Option (List UInt8) :=
  match t.entry? place with
  | some (.file bytes _) => some bytes
  | some (.device d) => some (bytesOf d)
  | _ => none

/-- A place is a directory when it is the root, when it was made one, or when something lies below it. -/
def isDirectory (t : FileTree) (place : Place) : Bool :=
  place.isEmpty || t.entry? place = some .directory ||
    t.entries.any fun e => place.isPrefixOf e.1 && place.length < e.1.length

/-- The number of entries that were put at places before this one. -/
def age (t : FileTree) (place : Place) : Nat := t.entries.findIdx fun e => e.1 == place

def isThere (t : FileTree) (place : Place) : Bool := (t.entry? place).isSome || t.isDirectory place

/-! ### Paths -/

def maxName : Nat := 255

def maxPath : Nat := 4095

def maxLinks : Nat := 40

/-- Nothing can be sought from a place that is no directory. -/
def blocked (t : FileTree) (place : Place) : FileError :=
  if (t.entry? place).isSome then .notDirectory else .notFound

def isRooted (path : Path) : Bool := path.text.toList.head? == some '/'

/-- Follows the segments of a path from a place, over at most so many links; the `last` segment may be a
    link that is not followed. Every segment has to start at a directory. -/
def follow (t : FileTree) (last : Bool) : Nat → Place → List (List Char) → Except FileError Place
  | _, place, [] => .ok place
  | links, place, segment :: rest =>
    if t.isDirectory place then
      if Path.isIgnored segment then t.follow last links place rest
      else if segment = ['.', '.'] then t.follow last links place.dropLast rest
      else if maxName < (Utf8.encode segment).length then .error .nameTooLong
      else
        match t.entry? (place ++ [segment]), links with
        | some (.link target), links =>
          if rest.isEmpty && !last then .ok (place ++ [segment])
          else
            match links with
            | 0 => .error .linkLoop
            | links + 1 =>
              t.follow last links (if isRooted target then [] else place) (target.segments ++ rest)
        | _, links => t.follow last links (place ++ [segment]) rest
    else .error (t.blocked place)
termination_by links _ segments => (links, segments.length)

def origin (t : FileTree) (path : Path) : Place := if isRooted path then [] else t.working

/-- The fault of a spelling that no file can have. -/
def misspelt? (path : Path) : Option FileError :=
  if path.text.toList.contains '\x00' then some .embeddedNul
  else if maxPath < path.text.utf8ByteSize then some .nameTooLong
  else if path.text = "" then some .notFound
  else none

/-- The place that a path names; a link at its end is followed, if `last` says so. Nothing need be there,
    but what comes before it has to be. -/
def locateWith (t : FileTree) (last : Bool) (path : Path) : Except FileError Place :=
  match misspelt? path with
  | some cause => .error cause
  | none => t.follow last maxLinks (t.origin path) path.segments

def locate (t : FileTree) (path : Path) : Except FileError Place := t.locateWith true path

/-- The place that a path names, which may be that of a link. -/
def locateEntry (t : FileTree) (path : Path) : Except FileError Place := t.locateWith false path

/-! ### Reading -/

def read (t : FileTree) (path : Path) : Except FileError (List UInt8) :=
  match t.locate path with
  | .error cause => .error cause
  | .ok place =>
    match t.file? place with
    | some bytes => .ok bytes
    | none => if t.isDirectory place then .error .isDirectory else .error .notFound

def access (t : FileTree) : Files := ⟨t.read, fun path => (t.read path).toOption.isSome⟩

def names (t : FileTree) (place : Place) : List (List Char) :=
  let below (p : Place) : Option (List Char) :=
    if place.isPrefixOf p then (p.drop place.length).head? else none
  (t.entries.filterMap fun e => below e.1).eraseDups

/-- The number of entries of a directory; zero where there is none. -/
def entryCount (t : FileTree) (path : Path) : Nat :=
  let path := if path.text = "" then ⟨"."⟩ else path
  match t.locate path with
  | .error _ => 0
  | .ok place => if t.isDirectory place then (t.names place).length else 0

/-! ### Writing -/

def put (t : FileTree) (place : Place) (entry : FileEntry) : FileTree :=
  { t with entries := t.entries.filter (fun e => e.1 != place) ++ [(place, entry)] }

def remove (t : FileTree) (place : Place) : FileTree :=
  { t with entries := t.entries.filter fun e => e.1 != place }

def removeAll (t : FileTree) (place : Place) : FileTree :=
  { t with entries := t.entries.filter fun e => !place.isPrefixOf e.1 }

/-- What lies at and below a place, at another place as well. -/
def copied (t : FileTree) (place other : Place) : List (Place × FileEntry) :=
  t.entries.filterMap fun e =>
    if place.isPrefixOf e.1 then some (other ++ e.1.drop place.length, e.2) else none

def copyAll (t : FileTree) (place other : Place) : FileTree :=
  let copies := t.copied place other
  let isCopy (e : Place × FileEntry) : Bool := copies.any fun c => c.1 == e.1
  { t with entries := t.entries.filter (fun e => !isCopy e) ++ copies }

def move (t : FileTree) (place other : Place) : FileTree :=
  let copies := t.copied place other
  let t := t.removeAll place
  { t with entries := t.entries.filter (fun e => !other.isPrefixOf e.1) ++ copies }

def write (t : FileTree) (path : Path) (bytes : List UInt8) : Except FileError FileTree :=
  match t.locate path with
  | .error cause => .error cause
  | .ok place =>
    if t.isDirectory place then .error .isDirectory
    else if t.isDirectory place.dropLast then
      match t.entry? place with
      | some (.file _ program) => .ok (t.put place (.file bytes program))
      | some (.device d) => if d = .full ∧ bytes ≠ [] then .error .noSpace else .ok t
      | _ => .ok (t.put place (.file bytes false))
    else .error (t.blocked place.dropLast)

def makeDirectory (t : FileTree) (path : Path) : Except FileError FileTree :=
  match t.locate path with
  | .error cause =>
    -- A slash at the end asks for a directory that is still to be made.
    match cause, path.segments.reverse.dropWhile (· == []) with
    | .notFound, name :: before =>
      match t.follow true maxLinks (t.origin path) before.reverse with
      | .ok place =>
        if Path.isIgnored name || name = ['.', '.'] then .error .notFound
        else if t.isDirectory place && !t.isThere (place ++ [name]) then
          .ok (t.put (place ++ [name]) .directory)
        else .error cause
      | .error cause => .error cause
    | cause, _ => .error cause
  | .ok place =>
    if t.isThere place then .error .alreadyThere
    else if t.isDirectory place.dropLast then .ok (t.put place .directory)
    else .error (t.blocked place.dropLast)

def holdsDirectory (t : FileTree) (path : Path) : Bool :=
  match t.locate path with
  | .ok place => t.isDirectory place
  | .error _ => false

/-- Makes a directory, unless it is there. -/
def ensureDirectory (t : FileTree) (path : Path) : Except FileError FileTree :=
  match t.makeDirectory path with
  | .ok t => .ok t
  | .error cause => if t.holdsDirectory path then .ok t else .error cause

/-- Makes a directory and those above it; `depth` bounds how many. -/
def makeDirectories : Nat → FileTree → Path → Except FileError FileTree
  | 0, t, path => t.ensureDirectory path
  | depth + 1, t, path =>
    if path.text = "" then .ok t
    else
      match t.makeDirectory path with
      | .ok t => .ok t
      | .error .notFound =>
        match path.parent? with
        | none => .error .notFound
        | some parent =>
          match makeDirectories depth t parent with
          | .ok t => t.ensureDirectory path
          | .error cause => .error cause
      | .error cause => if t.holdsDirectory path then .ok t else .error cause

/-- Writes a file in a directory, which is made first, with those above it. -/
def writeIn? (t : FileTree) (dir file : Path) (bytes : List UInt8) : Option FileTree :=
  match makeDirectories (dir.segments.length + 1) t dir with
  | .error _ => none
  | .ok t => (t.write file bytes).toOption

/-- Writes a file below the working directory; its directories are made first. -/
def provide (t : FileTree) (path : Path) (bytes : List UInt8) : FileTree :=
  (t.writeIn? (path.parent?.getD ⟨""⟩) path bytes).getD t

/-! ### What is always there -/

def placeOf (text : String) : Place :=
  (Path.mk text).segments.filter fun s => !Path.isIgnored s

/-- A place and those on the way to it. -/
def placesTo (place : Place) : List Place := (List.range (place.length + 1)).map place.take

def usualDirectories : List String :=
  ["/dev", "/etc", "/home", "/opt", "/proc", "/root", "/run", "/sys", "/tmp", "/usr/bin", "/usr/lib",
    "/usr/local/bin", "/usr/sbin", "/usr/share", "/var"]

def usualLinks : List (String × String) :=
  [("/bin", "usr/bin"), ("/sbin", "usr/sbin"), ("/lib", "usr/lib")]

def usualFiles : List (String × String) := [("/etc/passwd", "root:x:0:0:root:/root:/bin/sh\n")]

def usualDevices : List (String × Device) :=
  [("/dev/null", .null), ("/dev/zero", .zero), ("/dev/full", .full)]

def usual (working : Place) : FileTree where
  working := working
  entries :=
    (usualDirectories.map fun d => (placeOf d, FileEntry.directory)) ++
      (placesTo working).map (fun place => (place, FileEntry.directory)) ++
      (usualLinks.map fun (name, target) => (placeOf name, FileEntry.link ⟨target⟩)) ++
      (usualFiles.map fun (name, text) => (placeOf name, FileEntry.file (Utf8.encode text.toList) false)) ++
      usualDevices.map fun (name, d) => (placeOf name, FileEntry.device d)

end FileTree

end TlaDigest
