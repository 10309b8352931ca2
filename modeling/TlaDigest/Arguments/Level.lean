import TlaDigest.Text.Blank

/-!
# Levels of a command line

One level of a command line: the arguments of the program itself, up to a subcommand, or those of
the subcommand. A level has switches, options with a value, and perhaps one operand. A value that
was read is settled only when the next switch, option or operand comes, or at the end: until then a
later argument may still be refused first.
-/

namespace TlaDigest

/-- Why a command line is refused, or answered without doing anything. -/
inductive UsageError where
  | help
  | version
  | empty
  | missingSubcommand
  | unknownSubcommand
  | unknownArgument
  | missingOperand
  /-- An option without its value, an empty path, or a name that is not known. -/
  | invalidValue
  /-- The same switch or option twice at one level. -/
  | repeated
  | surplusValue
deriving DecidableEq, Repr

namespace Arguments

open Text

/-- What an argument can set. -/
inductive Slot where
  | help
  | version
  | json
  | verbose
  | extended
  | config
  | source
  | operand
deriving DecidableEq, Repr

def Slot.takesValue : Slot → Bool
  | .config => true
  | .source => true
  | .operand => true
  | _ => false

structure Level where
  /-- The slots that have a name of several letters. -/
  long : List (String × Slot)
  /-- The slots that have a name of one letter. -/
  short : List (Char × Slot)
  subcommands : List String
  hasOperand : Bool
  /-- The operand has a value that is known. -/
  operandOk : String → Bool

/-- A value that a level takes for a slot. No path is empty. -/
def Level.accepts (level : Level) (slot : Slot) (value : String) : Bool :=
  match slot with
  | .operand => level.operandOk value
  | _ => value != ""

structure Scan where
  settled : List (Slot × String)
  /-- A slot whose value is read but not settled, or still to come. -/
  pending : Option (Slot × Option String)
  /-- Every further argument is an operand. -/
  trailing : Bool
  operandSeen : Bool
deriving DecidableEq, Repr

namespace Scan

def start : Scan := ⟨[], none, false, false⟩

def has (s : Scan) (slot : Slot) : Bool := s.settled.any fun e => e.1 == slot

def value? (s : Scan) (slot : Slot) : Option String := s.settled.lookup slot

def awaitsValue (s : Scan) : Bool :=
  match s.pending with
  | some (_, none) => true
  | _ => false

/-- Settles what is pending. -/
def settle (level : Level) (s : Scan) : Except UsageError Scan :=
  match s.pending with
  | none => .ok s
  | some (_, none) => .error .invalidValue
  | some (slot, some value) =>
    if s.has slot then .error .repeated
    else if level.accepts slot value then
      .ok { s with settled := s.settled ++ [(slot, value)], pending := none }
    else .error .invalidValue

def switch (level : Level) (s : Scan) (slot : Slot) : Except UsageError Scan := do
  let s ← s.settle level
  match slot with
  | .help => .error .help
  | .version => .error .version
  | slot =>
    if s.has slot then .error .repeated
    else .ok { s with settled := s.settled ++ [(slot, "")] }

/-- Takes an option whose value comes next. -/
def await (level : Level) (s : Scan) (slot : Slot) : Except UsageError Scan := do
  let s ← s.settle level
  .ok { s with pending := some (slot, none) }

def assign (level : Level) (s : Scan) (slot : Slot) (value : String) : Except UsageError Scan := do
  let s ← s.settle level
  { s with pending := some (slot, some value) }.settle level

/-- Takes an argument that starts with two hyphens; the text starts after them. -/
def long (level : Level) (s : Scan) (text : List Char) : Except UsageError Scan :=
  let (name, rest) := cutAt (· == '=') text
  match level.long.lookup (String.ofList name), rest with
  | none, _ => .error .unknownArgument
  | some slot, [] => if slot.takesValue then s.await level slot else s.switch level slot
  | some slot, _ :: value =>
    if slot.takesValue then s.assign level slot (String.ofList value) else .error .surplusValue

/-- Takes an argument that starts with one hyphen; every letter after it is a switch. -/
def short (level : Level) : Scan → List Char → Except UsageError Scan
  | s, [] => .ok s
  | s, c :: cs =>
    match level.short.lookup c with
    | none => .error .unknownArgument
    | some slot => do short level (← s.switch level slot) cs

/-- Takes an operand. Where none is left the argument is taken for a subcommand that is not known,
    unless there are none or it follows two hyphens and is one. -/
def operand (level : Level) (s : Scan) (value : String) : Except UsageError Scan :=
  if level.hasOperand && !s.operandSeen then do
    let s ← s.settle level
    .ok { s with pending := some (.operand, some value), operandSeen := true }
  else if level.subcommands.isEmpty || (s.trailing && level.subcommands.contains value) then
    .error .unknownArgument
  else .error .unknownSubcommand

def argument (level : Level) (s : Scan) (arg : String) : Except UsageError Scan :=
  let plain : Except UsageError Scan :=
    match s.pending with
    | some (slot, none) => .ok { s with pending := some (slot, some arg) }
    | _ => s.operand level arg
  if s.trailing then s.operand level arg
  else
    match arg.toList with
    | ['-', '-'] => .ok { s with trailing := true }
    | '-' :: '-' :: text => s.long level text
    | ['-'] => plain
    | '-' :: text => s.short level text
    | _ => plain

/-- Reads the arguments of a level, up to a subcommand, which comes with the arguments after it. -/
def run (level : Level) : Scan → List String → Except UsageError (Scan × Option (String × List String))
  | s, [] => .ok (s, none)
  | s, arg :: rest =>
    if !s.trailing && !s.awaitsValue && level.subcommands.contains arg then .ok (s, some (arg, rest))
    else do run level (← s.argument level arg) rest

end Scan

end Arguments

end TlaDigest
