import TlaDigest.Toml.Lexeme
import TlaDigest.Toml.Tree

/-!
# TOML documents

A document is a row of statements, each on its own line: a key with its value, or the header of a
table. Arrays and inline tables may go on over several lines and end with a comma.
-/

namespace TlaDigest.Toml

/-! ### Values

Reading a value uses up text with every second call at the latest, so twice the length of the text is
fuel enough. The number `room` says how many more arrays and inline tables may be opened around it. -/

/-- The value of a word that is no string. -/
def scalar? (cs : List Char) : Option (Toml × List Char) :=
  let word := scalarWord cs
  let rest := cs.drop word.length
  let text := String.ofList word
  if text = "true" then some (.boolean true, rest)
  else if text = "false" then some (.boolean false, rest)
  else if isInteger word then some (.integer text, rest)
  else if isFloat word then some (.float text, rest)
  else if isDatetime word then some (.datetime text, rest)
  else none

/-- A key, an equals sign, and the rest from the value on; `skip` drops what may stand around the sign. -/
def assignment? (skip : List Char → List Char) (cs : List Char) :
    Option (List String × List Char) := do
  let (key, rest) ← key? cs
  match skip rest with
  | '=' :: rest => pure (key, skip rest)
  | _ => none

mutual

def value? : Nat → Nat → List Char → Option (Toml × List Char)
  | 0, _, _ => none
  | fuel + 1, room, cs =>
    match cs, room with
    | [], _ => none
    | '[' :: _, 0 => none
    | '[' :: cs, room + 1 => (items? fuel room cs).map fun (items, rest) => (.array items, rest)
    | '\x7b' :: _, 0 => none
    | '\x7b' :: cs, room + 1 =>
      (members? fuel room [] cs).map fun (entries, rest) => (.table (closeEntries entries), rest)
    | c :: cs, _ =>
      if c = '"' ∨ c = literalQuote then
        (string? (c :: cs)).map fun (text, rest) => (.string (String.ofList text), rest)
      else scalar? (c :: cs)

def items? : Nat → Nat → List Char → Option (List Toml × List Char)
  | 0, _, _ => none
  | fuel + 1, room, cs =>
    match skipTrivia false cs with
    | ']' :: rest => some ([], rest)
    | cs => do
      let (item, rest) ← value? fuel room cs
      match skipTrivia false rest with
      | ']' :: rest => pure ([item], rest)
      | ',' :: rest =>
        let (items, rest) ← items? fuel room rest
        pure (item :: items, rest)
      | _ => none

def members? : Nat → Nat → Entries → List Char → Option (Entries × List Char)
  | 0, _, _, _ => none
  | fuel + 1, room, entries, cs =>
    match skipTrivia false cs with
    | '\x7d' :: rest => some (entries, rest)
    | cs => do
      let (key, rest) ← assignment? (skipTrivia false) cs
      let (value, rest) ← value? fuel room rest
      let entries ← insert? key value entries
      match skipTrivia false rest with
      | '\x7d' :: rest => pure (entries, rest)
      | ',' :: rest => members? fuel room entries rest
      | _ => none

end

/-! ### Statements -/

/-- The tables so far, and the header that the next keys belong to. -/
structure Building where
  header : List String
  entries : Entries

/-- The key of a header, between `close` and the text before it, and the rest of the document. -/
def header? (close : List Char) (cs : List Char) : Option (List String × List Char) := do
  let (key, rest) ← key? (skipSpace cs)
  let rest ← Text.after? close (skipSpace rest)
  let rest ← endOfLine? rest
  pure (key, rest)

/-- One statement; `size` is at least the length of the text. -/
def statement? (size : Nat) (b : Building) (cs : List Char) : Option (Building × List Char) :=
  match cs with
  | '[' :: '[' :: cs => do
    let (key, rest) ← header? [']', ']'] cs
    let entries ← openElement? key b.entries
    pure (⟨key, entries⟩, rest)
  | '[' :: cs => do
    let (key, rest) ← header? [']'] cs
    let entries ← openTable? key b.entries
    pure (⟨key, entries⟩, rest)
  | cs => do
    let (key, rest) ← assignment? skipSpace cs
    let (value, rest) ← value? (2 * size + 2) maxDepth rest
    let rest ← endOfLine? rest
    let entries ← enter? false b.header (insert? key value) b.entries
    pure (⟨b.header, entries⟩, rest)

/-- All statements; each takes a character, so the length of the text is fuel enough. -/
def statements? : Nat → Building → List Char → Option Entries
  | 0, _, _ => none
  | fuel + 1, b, cs =>
    match skipTrivia false cs with
    | [] => some b.entries
    | cs =>
      match statement? fuel b cs with
      | none => none
      | some (b, rest) => statements? fuel b rest

/-- A text without the mark that may open it. -/
def withoutMark : List Char → List Char
  | c :: cs => if c.toNat = 0xFEFF then cs else c :: cs
  | [] => []

def parse? (text : String) : Option Members :=
  let cs := withoutMark text.toList
  (statements? (cs.length + 1) ⟨[], []⟩ cs).map closeEntries

end TlaDigest.Toml
