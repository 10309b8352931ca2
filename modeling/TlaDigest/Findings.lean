import TlaDigest.Catalog
import TlaDigest.Diagnostic

/-!
# Findings

The diagnostics of a run, file by file. Files stand in the order in which they were first reported
and are spelled as they were then; the diagnostics of a file stand in the order in which they were
reported.
-/

namespace TlaDigest

/-- Diagnostics by file. -/
structure Findings where
  files : Catalog Path (List Diagnostic)
deriving DecidableEq, Repr

namespace Findings

def empty : Findings := ⟨[]⟩

/-- Adds diagnostics to a file, after those it has. -/
def append (f : Findings) (path : Path) (items : List Diagnostic) : Findings :=
  ⟨Catalog.alter Path.same path (fun old => old.getD [] ++ items) f.files⟩

def add (f : Findings) (path : Path) (d : Diagnostic) : Findings := f.append path [d]

/-- Adds all findings of `g`, file by file in its order. -/
def merge (f g : Findings) : Findings :=
  g.files.foldl (fun f entry => f.append entry.1 entry.2) f

/-- The diagnostics of a file, in any spelling; none for a file that was not reported. -/
def get (f : Findings) (path : Path) : List Diagnostic :=
  (Catalog.get? Path.same path f.files).getD []

/-- The files, in order of first report. -/
def paths (f : Findings) : List Path := f.files.map (·.1)

def diagnostics (f : Findings) : List Diagnostic := f.files.flatMap (·.2)

def size (f : Findings) : Nat := f.diagnostics.length

/-- No file has a diagnostic. -/
def isEmpty (f : Findings) : Bool := f.files.all fun entry => entry.2.isEmpty

def count (f : Findings) (s : Severity) : Nat := f.diagnostics.countP (·.severity = s)

def hasErrors (f : Findings) : Bool := 0 < f.count .error

/-- The same files with the same diagnostics. The order of the files does not matter; the order
    within a file does. -/
def agree (f g : Findings) : Bool :=
  f.files.length == g.files.length &&
    f.files.all fun entry => Catalog.get? Path.same entry.1 g.files == some entry.2

end Findings

end TlaDigest
