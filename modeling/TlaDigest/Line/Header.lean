import TlaDigest.Diagnostic
import TlaDigest.Text.Word

/-!
# Location headers

Location headers, which open a message. There are three forms:

* `path:line:column[-line:column]: tag[: message]`, with a position;
* `path: tag[: message]`, without one;
* `line L, col C to line L, col C of module M`, which names a module and carries no tag.

In the first form the path is the shortest one that leaves a header. Its numbers are read only after
the form is settled: a header with a number out of range is no header at all.
-/

namespace TlaDigest

inductive Target where
  | path (path : Path)
  /-- A module, to be looked up among the files that were parsed. -/
  | module (name : String)
deriving DecidableEq, Repr

/-- The opening line of a message. -/
structure Header where
  target : Target
  span : Option Span
  severity : Option Severity
  message : Option String
deriving DecidableEq, Repr

namespace Header

open Text

/-- The path that stands for the input of the tool. -/
def inputPath : Path := ⟨"-"⟩

/-! ### The tag -/

structure Tagged where
  severity : Severity
  message : Option String
deriving DecidableEq, Repr

/-- The text of a message, unless it is blank. -/
def messageOf (cs : List Char) : Option String :=
  match trim cs with
  | [] => none
  | text => some (String.ofList text)

/-- Blanks and a tag, up to the end or to a colon and a message that stays on one line. -/
def tagged? (cs : List Char) : Option Tagged :=
  let (word, rest) := cutAt (· == ':') (trimStart cs)
  match Severity.ofTag? word with
  | none => none
  | some severity =>
    match rest with
    | [] => some ⟨severity, none⟩
    | _ :: text =>
      let text := trimStart text
      if text.contains '\n' then none else some ⟨severity, messageOf text⟩

/-! ### Headers with a position -/

def placed? (cs : List Char) : Option (Span.Text × Tagged) :=
  match Span.text? cs with
  | some (span, ':' :: rest) => (tagged? rest).map fun t => (span, t)
  | _ => none

/-- Looks for the first colon that a span and a tag follow; `path` holds the characters before it,
    last one first. A path stays on one line. -/
def positionedFrom? (path : List Char) : List Char → Option (List Char × Span.Text × Tagged)
  | [] => none
  | c :: cs =>
    match (if c = ':' then placed? cs else none) with
    | some (span, t) => some (path.reverse, span, t)
    | none => if c = '\n' then none else positionedFrom? (c :: path) cs

/-- The parts of a header with a position. Its path starts with no blank. -/
def positioned? : List Char → Option (List Char × Span.Text × Tagged)
  | [] => none
  | c :: cs => if isBlank c then none else positionedFrom? [c] cs

/-! ### Headers without a position -/

/-- A path without colon and blank, a colon and a tag. -/
def plain? (cs : List Char) : Option (List Char × Tagged) :=
  match cutAt (fun c => c == ':' || isBlank c) cs with
  | ([], _) => none
  | (path, ':' :: rest) => (tagged? rest).map fun t => (path, t)
  | _ => none

/-- The same after a drive letter and a colon, which then belong to the path. -/
def driven? : List Char → Option (List Char × Tagged)
  | c :: ':' :: cs =>
    if c.isAlpha then (plain? cs).map fun (path, t) => (c :: ':' :: path, t) else none
  | _ => none

/-- The parts of a header without a position. A reading with a drive comes first. -/
def unpositioned? (cs : List Char) : Option (List Char × Tagged) := driven? cs <|> plain? cs

/-! ### Headers for a module -/

/-- `line L, col C` at the front. -/
def lineCol? (cs : List Char) : Option (Span.SpotText × List Char) := do
  let rest ← after? "line ".toList cs
  let (line, rest) ← digits? rest
  let rest ← after? ", col ".toList rest
  let (column, rest) ← digits? rest
  pure (⟨line, column⟩, rest)

def module? (cs : List Char) : Option (Span.Text × List Char) := do
  let (first, rest) ← lineCol? (trimStart cs)
  let rest ← after? " to ".toList rest
  let (last, rest) ← lineCol? rest
  let rest ← after? " of module ".toList rest
  let (name, rest) := cutAt (fun c => !isWord c) rest
  if name ≠ [] ∧ rest.all isBlank then pure (⟨first, some last⟩, name) else none

/-! ### All headers -/

def ofLine? (line : List Char) : Option Header :=
  match positioned? line with
  | some (path, span, t) =>
    span.value?.map fun span =>
      ⟨.path ⟨String.ofList path⟩, some span, some t.severity, t.message⟩
  | none =>
    match unpositioned? line with
    | some (path, t) => some ⟨.path ⟨String.ofList path⟩, none, some t.severity, t.message⟩
    | none =>
      match module? line with
      | some (span, name) =>
        span.value?.map fun span => ⟨.module (String.ofList name), some span, none, none⟩
      | none => none

end Header

end TlaDigest
