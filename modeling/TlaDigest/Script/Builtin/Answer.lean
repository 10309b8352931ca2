import TlaDigest.Script.Expansion
import TlaDigest.Script.StatementReader

/-!
# Arguments and answers of the shell's commands

How the commands of a shell read their arguments and answer. A mistake is reported under the name of
the command; in a special command it ends the shell.
-/

namespace TlaDigest.Script.Builtin

open Text ShellM

/-- A command of the shell: what it does with its name and its arguments. -/
abbrev Command := Octets → List Octets → ShellM Unit

def mistake (name text : Octets) (status : Nat) : ShellM Unit := do
  reportFor name text
  setStatus status
  if StatementReader.specialCommands.contains (String.ofList name) then throw .failed

def number? (text : Octets) : Option Nat :=
  (if text.all isDecimalDigit then nat? text else none).filter (· < 0x80000000)

def illegalNumber (name text : Octets) : ShellM Unit :=
  mistake name ("Illegal number: ".toList ++ text) 2

def illegalOption (name : Octets) (letter : Char) : ShellM Unit :=
  mistake name ("Illegal option -".toList ++ [letter]) 2

/-- The options at the front of the arguments, by their letters, and what follows them; the letters in
    `valued` take a value. A letter that is not `known` is the fault. -/
def options (known valued : List Char) : List Octets → Except Char (List (Char × Octets) × List Octets)
  | [] => .ok ([], [])
  | arg :: rest =>
    match arg with
    | ['-', '-'] => .ok ([], rest)
    | '-' :: c :: cs => letters (c :: cs) rest
    | _ => .ok ([], arg :: rest)
termination_by args => (args.length, 0)
where
  /-- The letters of one argument, and the options after it. -/
  letters : Octets → List Octets → Except Char (List (Char × Octets) × List Octets)
    | [], rest => options known valued rest
    | c :: cs, rest =>
      if valued.contains c then
        match cs, rest with
        | [], value :: rest => (options known valued rest).map fun (more, args) => ((c, value) :: more, args)
        | value, rest => (options known valued rest).map fun (more, args) => ((c, value) :: more, args)
      else if known.contains c then
        (letters cs rest).map fun (more, args) => ((c, []) :: more, args)
      else .error c
  termination_by cs rest => (rest.length, cs.length + 1)

def withOptions (name : Octets) (known valued : String) (args : List Octets)
    (action : List (Char × Octets) → List Octets → ShellM Unit) : ShellM Unit :=
  match options known.toList valued.toList args with
  | .error c => illegalOption name c
  | .ok (letters, args) => action letters args

/-- A text as a script would write it: in apostrophes, with those of the text in double quotes. The number
    of characters bounds the number of steps. -/
def quotedText (text : Octets) : Octets := go (text.length + 1) text
where
  /-- Text, and then the apostrophes after it. -/
  go : Nat → Octets → Octets
    | 0, _ => []
    | fuel + 1, text =>
      let (plain, rest) := cutAt (· == apostrophe) text
      let (quotes, rest) := cutAt (· != apostrophe) rest
      let marked := if quotes.isEmpty then [] else '"' :: quotes ++ ['"']
      inApostrophes plain ++ marked ++ if rest.isEmpty then [] else go fuel rest

def cutAssignment (arg : Octets) : Octets × Option Octets :=
  match cutAt (· == '=') arg with
  | (name, '=' :: value) => (name, some value)
  | (name, _) => (name, none)

def inOrder {α : Type} (key : α → Octets) (list : List α) : List α :=
  list.mergeSort fun a b => !decide (key b < key a)

end TlaDigest.Script.Builtin
